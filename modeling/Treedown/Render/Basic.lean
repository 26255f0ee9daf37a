import Treedown.Render.Block
import Treedown.Render.Enumeration
import Treedown.Render.Inline
import Treedown.Render.Section
/-!
# Rendering — the renderer

`rule` says how a node is rendered under a kind, `annotate` applies every
node's rule from the leaves up, and `render` reads the outcome at the top.
A node may be rendered under the rule of another kind (`renderAs`); what
lies below it sees the kind that the node has.

Every kind without a rule becomes a placeholder. So rendering fails only
on a malformed node.
-/

namespace Treedown

namespace Render

open Markup

/-- **The rule of a kind.** `kind` is the kind of the node itself. -/
def rule (s : Setting) (c : Context) (as kind : Kind) (f : Fields) (children : List Rendered) :
    Outcome :=
  match as with
  | .known .document => document c children
  | .known .header => .ok (header c f)
  | .known .preamble => preamble children
  | .known .section => sectionBlock s.options c f children
  | .known .paragraph => paragraph f children
  | .known .olist => list (numeral (listIndent c f)) kind children
  | .known .ulist => list (bullet (listIndent c f)) kind children
  | .known .listItem => loneItem f children
  | .known .admonition => admonition f children
  | .known .example => exampleBlock children
  | .known .literal => .ok (fenced [] f.lines)
  | .known .listing => .ok (listing c f)
  | .known .thematicBreak => .ok "---"
  | .known .pageBreak => .ok []
  | .known .video => .ok (video s.options f)
  | .known .image => .ok (image f)
  | .known .inlineImage => .ok (inlineImage f)
  | .known .inlineAnchor => .ok (inlineAnchor f)
  | .known .inlineQuoted => .ok (inlineQuoted f)
  | .known .table => table s kind f
  | .known .text => .ok (f.text.getD [])
  | .other name _ => .ok (todoComment name)

mutual

/-- **The tree with the outcome of every node.** -/
def annotate (s : Setting) (c : Context) : Node → Rendered
  | .mk kind fields children =>
    let children := annotateAll s (c.within kind) children
    .mk kind fields (rule s c kind kind fields children) children

/-- Several trees with the outcome of every node. -/
def annotateAll (s : Setting) (c : Context) : List Node → List Rendered
  | [] => []
  | node :: rest => annotate s c node :: annotateAll s c rest

end

/-- **A node rendered** in a context. -/
def render (s : Setting) (c : Context) (node : Node) : Outcome :=
  (annotate s c node).outcome

/-- A node rendered under the rule of a kind. -/
def renderAs (s : Setting) (c : Context) (as : Kind) (node : Node) : Outcome :=
  rule s c as node.kind node.fields (annotateAll s (c.within node.kind) node.children)

theorem renderAs_kind (s : Setting) (c : Context) (node : Node) :
    renderAs s c node.kind node = render s c node := by
  cases node
  rfl

/-- A paragraph that says something by itself is rendered to that, whatever
its children are. -/
theorem render_paragraph_of_ownText? (s : Setting) (c : Context) {f : Fields}
    (children : List Node) {t : Text} (h : ownText? f.lines = some t) :
    render s c (.mk (.known .paragraph) f children) = .ok t := by
  have hrender : render s c (.mk (.known .paragraph) f children) =
      paragraph f (annotateAll s (c.within (.known .paragraph)) children) := rfl
  rw [hrender, paragraph, h]

/-- **A whole document rendered.** -/
def renderTree (s : Setting) (root : Node) : Outcome :=
  render s (.ofRoot root.fields) root

end Render

end Treedown
