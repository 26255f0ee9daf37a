import Treedown.Text.Casing
/-!
# Markup — blocks of the output

The pieces that Markdown++ text is put together from: blocks separated by
blank lines, quotations, fenced code, setext headings and the HTML
comments that carry styles and identifiers.
-/

namespace Treedown

namespace Markup

/-- **Blocks with a blank line between them.** A block that is empty leaves
no gap. -/
def joinBlocks (blocks : List Text) : Text :=
  ("\n\n" : Text).intercalate (blocks.filter fun block => !block.isEmpty)

/-- The text quoted `depth` times. An empty line keeps the markers without
the space behind them. -/
def quote (depth : Nat) (t : Text) : Text :=
  let marker : Text := (List.replicate depth ("> " : Text)).flatten
  Text.unlines ((t.splitOn '\n').map fun line =>
    if line.isEmpty then marker.trimEnd else marker ++ line)

/-- The lines of a text each behind a marker and a space, empty lines
too. -/
def quoteLines (t : Text) : Text :=
  Text.unlines (t.lines.map fun line => ("> " : Text) ++ line)

/-- A fence of code, labelled with a language or with nothing. -/
def fenced (language : Text) (lines : List Text) : Text :=
  ("```" : Text) ++ language ++ ['\n'] ++ lines.flatMap (· ++ ['\n']) ++ ("```" : Text)

/-- The comment that gives what follows a style. -/
def styleComment (tags : Text) : Text :=
  ("<!-- style:" : Text) ++ tags ++ (" -->" : Text)

/-- The comment that gives what follows an identifier. -/
def idComment (id : Text) : Text :=
  ("<!-- #" : Text) ++ id ++ (" -->" : Text)

/-- The style of an admonition with a caption. -/
def admonitionStyle (caption : Text) : Text :=
  styleComment (("Admonition" : Text) ++ caption.capitalize)

/-- A heading underlined to its full width. -/
def setextHeading (title : Text) : Text :=
  title ++ ['\n'] ++ List.replicate title.length '='

/-- The placeholder of something that cannot be rendered. -/
def todoComment (what : Text) : Text :=
  ("<!-- TODO: " : Text) ++ what ++ (" -->" : Text)

end Markup

end Treedown
