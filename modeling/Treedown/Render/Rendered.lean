import Treedown.Files
import Treedown.Options
/-!
# Rendering — what a node sees and what becomes of it

A node is rendered from its own fields, from what became of its children
and from a `Context`, the few facts about the nodes above it that a rule
may look at. `Rendered` is the tree with its outcome written at every
node: the text, or the first malformed node that stands in its way. Rules
are functions on the children of such a tree, so none of them recurses.
-/

namespace Treedown

namespace Render

/-- **What is given from outside**: the options, and the files that the
sources of tables are read from. -/
structure Setting where
  options : Options
  files : Files

/-- **What a node can see of the nodes above it.** -/
structure Context where
  /-- Whether its parent is a list item. -/
  inItem : Bool
  /-- Whether a node above it is an example. -/
  inExample : Bool
  /-- The title of the document, unless it is blank. -/
  title : Option Text
  /-- What the document says that generated identifiers start with. -/
  idPrefix : Option Text
  deriving DecidableEq

namespace Context

/-- The context of a root with some fields. -/
def ofRoot (fields : Fields) : Context where
  inItem := false
  inExample := false
  title := Text.unlessBlank fields.title
  idPrefix := fields.attribute? "idprefix"

/-- The context of the children of a node of a kind. -/
def within (c : Context) (kind : Kind) : Context :=
  { c with
    inItem := kind = .known .listItem
    inExample := c.inExample || kind = .known .example }

end Context

/-- **What can be wrong with the shape of a tree.** -/
inductive Defect
  | noItems
  | noColumns
  deriving DecidableEq, Repr

/-- The wording of a defect. -/
def Defect.message : Defect → Text
  | .noItems => "list has no items"
  | .noColumns => "table has no columns"

/-- **A node that cannot be rendered**, named by its kind. -/
structure Malformed where
  kind : Kind
  defect : Defect
  deriving DecidableEq

/-- The wording of a malformed node. -/
def Malformed.message (m : Malformed) : Text :=
  ("malformed " : Text) ++ m.kind.name ++ (" node: " : Text) ++ m.defect.message

/-- What becomes of a node. -/
abbrev Outcome := Except Malformed Text

/-- **A tree with the outcome of every node.** -/
inductive Rendered
  | mk (kind : Kind) (fields : Fields) (outcome : Outcome) (children : List Rendered)

namespace Rendered

/-- The kind of the node. -/
def kind : Rendered → Kind
  | .mk kind _ _ _ => kind

/-- What the node holds. -/
def fields : Rendered → Fields
  | .mk _ fields _ _ => fields

/-- What became of the node. -/
def outcome : Rendered → Outcome
  | .mk _ _ outcome _ => outcome

/-- What became of the nodes directly below. -/
def children : Rendered → List Rendered
  | .mk _ _ _ children => children

/-- The texts of several nodes, or the first malformed one. -/
def texts (nodes : List Rendered) : Except Malformed (List Text) :=
  nodes.mapM outcome

end Rendered

end Render

end Treedown
