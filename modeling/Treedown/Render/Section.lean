import Treedown.Markup.Loose
import Treedown.Markup.Picture
import Treedown.Render.Rendered
/-!
# Rendering — documents and sections

A document is its title, underlined, over its blocks. A document without a
title takes that of a leading section, whose blocks then stand in its
place (`promote?`). Under a title no header is written, as it would repeat
the title.
-/

namespace Treedown

namespace Render

open Markup

/-! ## Sections -/

/-- Whether an identifier was chosen by the author: it stands among the
attributes, or it does not start as generated ones do. Where generated
ones start with nothing, only the former counts. -/
def isChosenId (o : Options) (c : Context) (f : Fields) (id : Text) : Bool :=
  let generated := c.idPrefix.getD o.idPrefix
  f.attributes.contains "id" || (!generated.isEmpty && !generated.isPrefixOf id)

/-- The line over a heading that keeps an identifier. -/
def idLine (o : Options) (c : Context) (f : Fields) : Text :=
  match f.id with
  | some id => if isChosenId o c f id then idComment id ++ ['\n'] else []
  | none => []

/-- The heading of a section. -/
def sectionHeading (o : Options) (c : Context) (f : Fields) : Text :=
  idLine o c f ++ heading (max f.level.toNat 1) (f.title.getD [])

/-- A section: its heading and its blocks. -/
def sectionBlock (o : Options) (c : Context) (f : Fields) (children : List Rendered) :
    Outcome := do
  let texts ← Rendered.texts children
  return joinBlocks (sectionHeading o c f :: texts)

/-- A preamble: its blocks. -/
def preamble (children : List Rendered) : Outcome :=
  (Rendered.texts children).map joinBlocks

/-! ## Documents -/

/-- The heading of a document, from the header's own title or that of the
document. -/
def header (c : Context) (f : Fields) : Text :=
  match Text.unlessBlank (f.title.or c.title) with
  | some title => setextHeading title
  | none => []

/-- The title of a leading section, and the blocks with that section
replaced by its own. -/
def promote? : List Rendered → Option (Text × List Rendered)
  | [] => none
  | .mk kind fields _ children :: rest =>
    if kind = .known .section then
      (Text.unlessBlank fields.title).map fun title => (title, children ++ rest)
    else none

/-- The title of a document and the blocks under it. -/
def titled (c : Context) (children : List Rendered) : Option Text × List Rendered :=
  match c.title with
  | some title => (some title, children)
  | none =>
    match promote? children with
    | some (title, blocks) => (some title, blocks)
    | none => (none, children)

/-- Whether a block is a paragraph that is one image macro. -/
def isLonePicture (r : Rendered) : Bool :=
  r.kind = .known .paragraph &&
    match r.fields.lines with
    | [line] => isStandalone line
    | _ => false

/-- **A document**: its title and its blocks. One whose last block is a
picture ends in a line feed. -/
def document (c : Context) (children : List Rendered) : Outcome := do
  let (title, blocks) := titled c children
  let blocks := if title.isSome then blocks.filter (·.kind ≠ .known .header) else blocks
  let texts ← Rendered.texts blocks
  return joinBlocks ((title.map setextHeading).toList ++ texts) ++
    if blocks.getLast?.any isLonePicture then ['\n'] else []

end Render

end Treedown
