import Treedown.Include
import Treedown.Markup.Loose
import Treedown.Markup.Picture
import Treedown.Render.Rendered
import Treedown.Table.Rebuilt
/-!
# Rendering — blocks

The rules for paragraphs, admonitions, examples, listings, videos and
tables.
-/

namespace Treedown

namespace Render

open Markup

/-! ## Paragraphs -/

/-- The placeholder that a paragraph consists of. Blanks may stand around
it. -/
def marker? : List Text → Option Text
  | [line] => if Include.isMarker line.trim then some line.trim else none
  | _ => none

/-- **What the lines of a paragraph say by themselves**: a placeholder, or
a text with image macros. -/
def ownText? (lines : List Text) : Option Text :=
  (marker? lines).or (replaceMacros (Text.unlines lines))

/-- A paragraph: its own text comes first, then its children, then its
lines as they are. -/
def paragraph (f : Fields) (children : List Rendered) : Outcome :=
  match ownText? f.lines with
  | some t => .ok t
  | none =>
    if children.isEmpty then .ok (Text.unlines f.lines)
    else (Rendered.texts children).map List.flatten

/-! ## Quotations -/

/-- The caption of an admonition. -/
def caption (f : Fields) : Text :=
  (f.caption.or (f.attribute? "name")).getD []

/-- An admonition: its style over its content, quoted. One that has only
lines of its own ends in a line feed. -/
def admonition (f : Fields) (children : List Rendered) : Outcome :=
  let style := admonitionStyle (caption f)
  if children.isEmpty then
    .ok (style ++ '\n' :: quoteLines (Text.unlines f.lines) ++ ['\n'])
  else do
    let texts ← Rendered.texts children
    return style ++ '\n' :: quoteLines (Text.unlines (texts.filter (!·.isEmpty)))

/-- How deep a block of a kind is quoted inside an example. -/
def quoteDepth (kind : Kind) : Nat :=
  if kind = .known .listing then 2 else 1

/-- What stands in front of a block of an example. -/
def exampleSeparator : Nat → Text
  | 0 => []
  | 1 => "\n>\n"
  | _ => "\n> \n"

/-- The blocks of an example. -/
def exampleBody (index : Nat) : List (Kind × Text) → Text
  | [] => []
  | (kind, t) :: rest =>
    exampleSeparator index ++ quote (quoteDepth kind) t ++ exampleBody (index + 1) rest

/-- An example: its blocks, quoted. -/
def exampleBlock (children : List Rendered) : Outcome := do
  let texts ← Rendered.texts children
  return exampleBody 0 ((children.map Rendered.kind).zip texts)

/-! ## Listings -/

/-- A listing: code in a fence, unless it stands in an example or has a
style of its own. -/
def listing (c : Context) (f : Fields) : Text :=
  if c.inExample then looseText f.lines
  else match f.style? with
    | none => fenced [] f.lines
    | some style =>
      if style = "source".toList then fenced ((f.attribute? "language").getD []) f.lines
      else if style = "listing".toList then fenced [] f.lines
      else looseText f.lines

/-! ## Videos -/

/-- A video as an embedded frame. -/
def video (o : Options) (f : Fields) : Text :=
  let width := (f.attributes.nonEmpty? "width").getD o.videoWidth
  let height := (f.attributes.nonEmpty? "height").getD o.videoHeight
  let target := ((f.attribute? "target").or f.target).getD []
  ("<div class=\"video\">\n<iframe width=\"" : Text) ++ width ++ ("\" height=\"" : Text) ++
    height ++ ("\" src=\"https://www.youtube.com/embed/" : Text) ++ target ++
    ("\" frameborder=\"0\" allowfullscreen></iframe>\n</div>" : Text)

/-! ## Tables -/

/-- The rebuilt layout of a table, or the reason for the cell layout. -/
def tableLayout (s : Setting) (f : Fields) : Except Table.Reason Text :=
  Table.layout s.options.rebuildTables s.files f.cells f.role?

/-- A table: rebuilt from its source where that can be done. -/
def table (s : Setting) (kind : Kind) (f : Fields) : Outcome :=
  if f.cells.columnCount = 0 then .error ⟨kind, .noColumns⟩
  else match tableLayout s f with
    | .ok t => .ok t
    | .error _ => .ok (Table.cellLayout f.cells f.role?)

end Render

end Treedown
