import Treedown.Outline.Basic
import Treedown.Render.Basic
/-!
# Outlines — rendering a node of an outline

A rendering walks the outline from index to index. Whatever a rule wants
to know about the nodes above its own one is looked up in the outline,
from the index of that node (`context`); nothing is handed down from one
rule to the next.
-/

namespace Treedown

namespace Outline

open Render

/-- **The context of the node at an index.** -/
def context (o : Outline) (i : Nat) : Context where
  inItem := (o.parent? i).any fun p => o.kind? p = some (.known .listItem)
  inExample := o.hasAncestor i (.known .example)
  title := o.title?
  idPrefix := o.attribute? "idprefix"

/-- **What becomes of the node at an index** and of all nodes below it,
each under the rule of its own kind and in the context of its own index. -/
def rendered? (o : Outline) (s : Setting) (i : Nat) : Option Rendered :=
  match _he : o.at? i with
  | none => none
  | some e =>
    (e.children.attach.mapM fun c => rendered? o s c.1).map fun children =>
      .mk e.kind e.fields (rule s (o.context i) e.kind e.kind e.fields children) children
termination_by o.size - i
decreasing_by
  have := lt_child _he c.2
  have := lt_size _he
  omega

/-- **The node at an index rendered**, under the rule of its own kind or of
another one. -/
def renderAt? (o : Outline) (s : Setting) (i : Nat) (as : Option Kind) : Option Outcome :=
  (o.at? i).bind fun e =>
    (e.children.mapM (o.rendered? s)).map fun children =>
      rule s (o.context i) (as.getD e.kind) e.kind e.fields children

end Outline

end Treedown
