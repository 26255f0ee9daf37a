import Treedown.Node.Attributes
import Treedown.Node.Grid
import Treedown.Node.Kind
/-!
# Nodes — the document tree

A document is a tree of nodes. A node has a kind, the fields that a parser
of the source language filled in, and children. Which fields mean anything
depends on the kind; the others are carried along.
-/

namespace Treedown

/-- What a node holds besides its kind and its children. -/
structure Fields where
  id : Option Text
  title : Option Text
  text : Option Text
  lines : List Text
  level : UInt64
  target : Option Text
  subtype : Option Text
  caption : Option Text
  attributes : Attributes
  grid : Option Grid
  deriving DecidableEq

/-- Nothing filled in. -/
def Fields.empty : Fields where
  id := none
  title := none
  text := none
  lines := []
  level := 0
  target := none
  subtype := none
  caption := none
  attributes := .empty
  grid := none

namespace Fields

/-- The value of an attribute. -/
def attribute? (f : Fields) (key : Text) : Option Text :=
  f.attributes.get? key

/-- The style that the source gave a block. -/
def style? (f : Fields) : Option Text :=
  f.attribute? "style"

/-- The role, unless it is empty. -/
def role? (f : Fields) : Option Text :=
  f.attributes.nonEmpty? "role"

/-- The cells of a table; without a grid there are none. -/
def cells (f : Fields) : Grid :=
  f.grid.getD .empty

end Fields

/-- **A node of a document tree.** -/
inductive Node
  | mk (kind : Kind) (fields : Fields) (children : List Node)

namespace Node

/-- The kind of a node. -/
def kind : Node → Kind
  | .mk kind _ _ => kind

/-- What a node holds. -/
def fields : Node → Fields
  | .mk _ fields _ => fields

/-- The nodes directly below a node. -/
def children : Node → List Node
  | .mk _ _ children => children

mutual

/-- The number of nodes of a tree. -/
def size : Node → Nat
  | .mk _ _ children => 1 + sizeAll children

/-- The number of nodes of several trees. -/
def sizeAll : List Node → Nat
  | [] => 0
  | node :: rest => size node + sizeAll rest

end

/-! ## Building a tree -/

/-- A node of a kind with nothing filled in. -/
def ofKind (kind : Kind) : Node :=
  .mk kind .empty []

/-- The node with its fields changed. -/
def modifyFields (f : Fields → Fields) : Node → Node
  | .mk kind fields children => .mk kind (f fields) children

/-- The node with an identifier. -/
def withId (n : Node) (id : Text) : Node :=
  n.modifyFields ({ · with id := some id })

/-- The node with a title. -/
def withTitle (n : Node) (title : Text) : Node :=
  n.modifyFields ({ · with title := some title })

/-- The node with a text. -/
def withText (n : Node) (text : Text) : Node :=
  n.modifyFields ({ · with text := some text })

/-- The node with lines added behind its own. -/
def addLines (n : Node) (lines : List Text) : Node :=
  n.modifyFields fun f => { f with lines := f.lines ++ lines }

/-- The node on a level. -/
def withLevel (n : Node) (level : UInt64) : Node :=
  n.modifyFields ({ · with level := level })

/-- The node with a target. -/
def withTarget (n : Node) (target : Text) : Node :=
  n.modifyFields ({ · with target := some target })

/-- The node with a finer kind. -/
def withSubtype (n : Node) (subtype : Text) : Node :=
  n.modifyFields ({ · with subtype := some subtype })

/-- The node with a caption. -/
def withCaption (n : Node) (caption : Text) : Node :=
  n.modifyFields ({ · with caption := some caption })

/-- The node with an attribute written. -/
def setAttribute (n : Node) (key value : Text) : Node :=
  n.modifyFields fun f => { f with attributes := f.attributes.set key value }

/-- The node with a positional attribute written. -/
def setPositional (n : Node) (index : Nat) (value : Text) : Node :=
  n.modifyFields fun f => { f with attributes := f.attributes.setPositional index value }

/-- The node with children added behind its own. -/
def addChildren : Node → List Node → Node
  | .mk kind fields children, more => .mk kind fields (children ++ more)

/-- The node with the cells of a table. -/
def withGrid (n : Node) (grid : Grid) : Node :=
  n.modifyFields ({ · with grid := some grid })

end Node

end Treedown
