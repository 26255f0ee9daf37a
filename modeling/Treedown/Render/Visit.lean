import Treedown.Render.Basic
/-!
# Rendering — the nodes that are visited

Not every node of a tree is rendered: a rule may leave its children out, or
it may open them, which means that it renders their children in their
place. Here this is said from the top down and without any text, as the
row of the nodes whose rule is applied, in the order of the document. What
a rendering reports about its way is read off this row, and the first
malformed node in it is the one that a rendering fails on.
-/

namespace Treedown

namespace Render

/-- **The part of a node in the rendering of what is above it.** -/
inductive Part
  /-- Its rule is applied. -/
  | rendered
  /-- Its children stand in its place, the headers among them perhaps left
  out. -/
  | opened (headers : Bool)
  | omitted
  deriving DecidableEq

/-- The part of a block that is rendered, unless it is a header and headers
are left out. -/
def blockPart (headers : Bool) (node : Node) : Part :=
  if !headers && node.kind = .known .header then .omitted else .rendered

/-- Whether a node is a section whose title is not blank. -/
def isTitledSection (node : Node) : Bool :=
  node.kind = .known .section && (Text.unlessBlank node.fields.title).isSome

/-- The parts of the children of a document. -/
def documentParts (c : Context) (children : List Node) : List Part :=
  match c.title, children with
  | some _, _ => children.map (blockPart false)
  | none, [] => []
  | none, first :: rest =>
    if isTitledSection first then .opened false :: rest.map (blockPart false)
    else (first :: rest).map (blockPart true)

/-- **The parts of the children** of a node that is rendered under the rule
of a kind. -/
def parts (c : Context) (as : Kind) (f : Fields) (children : List Node) : List Part :=
  match as with
  | .known .document => documentParts c children
  | .known .preamble | .known .section | .known .listItem | .known .admonition
  | .known .example => children.map fun _ => .rendered
  | .known .olist | .known .ulist => children.map fun _ => .opened true
  | .known .paragraph =>
    children.map fun _ => if (ownText? f.lines).isSome then .omitted else .rendered
  | _ => children.map fun _ => .omitted

/-- **A node whose rule is applied.** -/
structure Visit where
  /-- Its place in the order of the document. -/
  index : Nat
  kind : Kind
  fields : Fields
  hasChildren : Bool

/-- What is wrong with the shape of a visited node. -/
def Visit.defect? (v : Visit) : Option Malformed :=
  match v.kind with
  | .known .olist | .known .ulist => if v.hasChildren then none else some ⟨v.kind, .noItems⟩
  | .known .table => if v.fields.cells.columnCount = 0 then some ⟨v.kind, .noColumns⟩ else none
  | _ => none

mutual

/-- The visits to a node and below it, given its part; `index` is its
place. -/
def visits (c : Context) (index : Nat) (part : Part) : Node → List Visit
  | .mk kind fields children =>
    match part with
    | .rendered =>
      ⟨index, kind, fields, !children.isEmpty⟩ ::
        visitsAll (c.within kind) (index + 1) (parts c kind fields children) children
    | .opened headers =>
      visitsAll (c.within kind) (index + 1) (children.map (blockPart headers)) children
    | .omitted => []

/-- The visits to nodes that stand side by side, given their parts. -/
def visitsAll (c : Context) (index : Nat) : List Part → List Node → List Visit
  | part :: parts, node :: rest =>
    visits c index part node ++ visitsAll c (index + node.size) parts rest
  | _, _ => []

end

/-- **The visits of the rendering of a document.** -/
def visitsOf (root : Node) : List Visit :=
  visits (.ofRoot root.fields) 0 .rendered root

/-- The visits up to the first malformed node. -/
def untilDefect : List Visit → List Visit
  | [] => []
  | v :: rest => if v.defect?.isSome then [v] else v :: untilDefect rest

end Render

end Treedown
