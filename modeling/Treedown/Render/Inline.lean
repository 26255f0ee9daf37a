import Treedown.Markup.Picture
import Treedown.Render.Rendered
/-!
# Rendering — inline text

The rules for what stands inside a paragraph. Images are here too, as a
block image is written like an inline one; they differ in which of two
targets comes first.
-/

namespace Treedown

namespace Render

open Markup

/-- A link with a label. -/
def link (label target : Text) : Text :=
  '[' :: label ++ ("](" : Text) ++ target ++ (")" : Text)

/-- An anchor: a reference is a link, whose target is its label where it
has none, and a place that is referred to is a comment. Other anchors
leave nothing. -/
def inlineAnchor (f : Fields) : Text :=
  if f.subtype = some "xref".toList then
    let target := f.target.getD []
    link ((Text.unlessEmpty f.text).getD target) target
  else if f.subtype = some "ref".toList then idComment ((f.id.or f.target).getD [])
  else []

/-- Quoted text of every flavour is strong. -/
def inlineQuoted (f : Fields) : Text :=
  ("**" : Text) ++ f.text.getD [] ++ ("**" : Text)

/-- A block image; the target among its attributes comes first. -/
def image (f : Fields) : Text :=
  pictureOf f.attributes (((f.attribute? "target").or f.target).getD [])

/-- An inline image; its own target comes first. -/
def inlineImage (f : Fields) : Text :=
  pictureOf f.attributes ((f.target.or (f.attribute? "target")).getD [])

end Render

end Treedown
