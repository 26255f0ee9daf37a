import Treedown.Markup.Block
import Treedown.Text.Word
/-!
# Tables — entries of the source text

In the source of a two-column table a line that starts with a bar opens an
entry: it names the entry, and it may hold the beginning of its second
cell. Every line up to the next bar belongs to the second cell, one detail
for each line. `entries` reads the lines in one pass; a header row is
passed over with everything that belongs to it.

A detail may open a block of the source language. A source block becomes a
fence of code and an admonition a styled quotation (`expand`); anything
else stays as it is.
-/

namespace Treedown

namespace Table

open Markup

/-- **An entry**: its name, and the lines of its second cell. -/
structure Entry where
  name : Text
  details : List Text
  deriving DecidableEq

/-! ## The line that opens an entry -/

/-- What follows a run of decimal digits and one more character, or the
text itself when it does not start so. -/
def dropFactor (c : Char) (t : Text) : Text :=
  match t.dropWhile isDigit with
  | d :: rest => if d = c ∧ (t.takeWhile isDigit).length ≠ 0 then rest else t
  | [] => t

/-- What follows the digits after a point, or nothing when there is no
point with digits behind it. -/
def fraction? : Text → Option Text
  | '.' :: t => if (t.takeWhile isDigit).isEmpty then none else some (t.dropWhile isDigit)
  | _ => none

/-- What follows a span: digits and a point with digits, both of which may
be missing, and a plus. -/
def dropSpan (t : Text) : Text :=
  let rest := t.dropWhile isDigit
  match (fraction? rest).getD rest with
  | '+' :: rest => rest
  | _ => t

/-- Whether a character aligns a cell. -/
def isAlignment (c : Char) : Bool :=
  c == '<' || c == '^' || c == '>'

/-- What follows a horizontal alignment. -/
def dropHorizontal : Text → Text
  | c :: rest => if isAlignment c then rest else c :: rest
  | [] => []

/-- What follows a vertical alignment: a point and the alignment. -/
def dropVertical : Text → Text
  | '.' :: c :: rest => if isAlignment c then rest else '.' :: c :: rest
  | t => t

/-- Whether a character is the letter of a cell style. -/
def isStyle (c : Char) : Bool :=
  'a' ≤ c && c ≤ 'z'

/-- What follows the letter of a style. -/
def dropStyle : Text → Text
  | c :: rest => if isStyle c then rest else c :: rest
  | [] => []

/-- **Whether a text is the specification of a cell**: a repetition, a span,
the two alignments and a style, each of which may be missing. -/
def isCellSpec (t : Text) : Bool :=
  (dropStyle (dropVertical (dropHorizontal (dropSpan (dropFactor '*' t))))).isEmpty

/-- A cell without the specification of the next cell, which stands at its
end behind white space. -/
def dropCellSpec (cell : Text) : Text :=
  let rest := cell.dropEndWhile (!isBlank ·)
  if rest.isEmpty || !isCellSpec (cell.drop rest.length) then cell else rest.trimEnd

/-- The entry that a line opens. The bar in front has been read. -/
def openEntry (line : Text) : Entry :=
  match Text.cutAt '|' line with
  | some (cell, inner) =>
    let detail := Text.trim inner
    ⟨(dropCellSpec cell).trim, if detail.isEmpty then [] else [detail]⟩
  | none => ⟨line.trim, []⟩

/-! ## The lines behind it -/

/-- A line without the style and the bar of the cell that it opens. -/
def dropCellStyle (line : Text) : Text :=
  match line with
  | c :: '|' :: rest => if isStyle c && !rest.contains '\n' then rest else line
  | _ => line

/-- The entry with a line of its second cell. A blank line adds nothing. -/
def Entry.addLine (e : Entry) (line : Text) : Entry :=
  let detail := dropCellStyle line
  if detail.blank then e else { e with details := e.details ++ [detail] }

/-- Where a reader of the source stands. -/
inductive Stage
  /-- The header row is still to come. -/
  | headerAhead
  /-- Inside the header row. -/
  | header
  | body
  deriving DecidableEq

/-- What a reader of the source has read: the entries, the last first. -/
structure Progress where
  stage : Stage
  entries : List Entry

/-- A line of the source. -/
def Progress.readLine (p : Progress) (line : Text) : Progress :=
  match line.trimEnd with
  | '|' :: rest =>
    match p.stage with
    | .headerAhead => { p with stage := .header }
    | .header | .body => ⟨.body, openEntry rest :: p.entries⟩
  | line =>
    if line.isEmpty || p.stage = .header then p
    else match p.entries with
      | [] => p
      | entry :: before => { p with entries := entry.addLine line :: before }

/-! ## Blocks inside a cell -/

/-- Whether a line opens or closes a block of code. -/
def isCodeFence (line : Text) : Bool :=
  line.trim = "----".toList || "```".toList.isPrefixOf line.trim

/-- The lines of a source block: those between its fences, up to the end
where it is not closed, or all of them where it is not opened. -/
def codeLines (lines : List Text) : List Text :=
  match lines.dropWhile (!isCodeFence ·) with
  | [] => lines
  | _ :: inside => inside.takeWhile (!isCodeFence ·)

/-- Whether a character is an ASCII letter. -/
def isAsciiLetter (c : Char) : Bool :=
  ('a' ≤ c && c ≤ 'z') || ('A' ≤ c && c ≤ 'Z')

/-- The caption and the body of the line of an admonition. -/
def captioned? (line : Text) : Option (Text × Text) :=
  match line.dropWhile isAsciiLetter with
  | ':' :: rest =>
    let caption := line.takeWhile isAsciiLetter
    let body := rest.dropWhile isBlank
    if caption.isEmpty || body.contains '\n' then none else some (caption, body)
  | _ => none

/-- An admonition as it is written: its style and its line. -/
def admonitionLines (line : Text) : List Text :=
  match captioned? line with
  | some (caption, body) => [admonitionStyle caption, ("> " : Text) ++ body]
  | none => [admonitionStyle [], ("> " : Text) ++ line]

/-- **The lines of a cell with the block that they open expanded.** -/
def expand : List Text → List Text
  | [] => []
  | first :: rest =>
    if "[source".toList.isPrefixOf first.trim then
      ("```" : Text) :: codeLines rest ++ [("```" : Text)]
    else if first.trim = "====".toList then admonitionLines (rest.headD []).trim
    else first :: rest

/-- **The entries of a source text.** With `headerFirst` the first of them
is the header and is left out. -/
def entries (headerFirst : Bool) (lines : List Text) : List Entry :=
  let start : Progress := ⟨if headerFirst then .headerAhead else .body, []⟩
  (lines.foldl Progress.readLine start).entries.reverse.map fun e =>
    { e with details := expand e.details }

end Table

end Treedown
