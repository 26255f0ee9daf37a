import Treedown.Files
import Treedown.Node.Grid
/-!
# Tables — the source of a table

The source text of a table is looked for in the lines that its origin
gives, in the node or in a file. It is what stands between the first two
fences at or after the start line. Everything that can keep it from being
found is a `SourceFault`, and none of them is an error: the table is then
laid out from its cells.
-/

namespace Treedown

namespace Table

/-- **Why the source of a table cannot be used.** -/
inductive SourceFault
  /-- There are neither lines nor a file. -/
  | missing
  | unreadable (path : Text) (cause : FileError)
  /-- There are no two fences at or after the line. -/
  | noFences (line : Nat)
  deriving DecidableEq

/-- The wording of a fault. -/
def SourceFault.message : SourceFault → Text
  | .missing => "table carries no source reference"
  | .unreadable path cause =>
    ("cannot read table source '" : Text) ++ path ++ ("': " : Text) ++ cause.message
  | .noFences line =>
    ("no |=== fence pair at or after line " : Text) ++ Text.ofNat line

/-- Whether a line opens or closes a table. -/
def isFence (line : Text) : Bool :=
  "|===".toList.isPrefixOf line

/-- The lines strictly between the first two fences. -/
def between (lines : List Text) : Option (List Text) :=
  match lines.dropWhile (!isFence ·) with
  | [] => none
  | _ :: inside =>
    if inside.any isFence then some (inside.takeWhile (!isFence ·)) else none

/-- **The fenced span at or after a line**, counted from one. -/
def span (lines : List Text) (start : Nat) : Option (List Text) :=
  between (lines.drop (start - 1))

/-- The lines of an origin: its own before those of its file. -/
def originLines (files : Files) (origin : Origin) : Except SourceFault (List Text) :=
  match origin.lines, origin.path with
  | some lines, _ => .ok lines
  | none, none => .error .missing
  | none, some path =>
    match files.readText path with
    | .ok t => .ok t.lines
    | .error cause => .error (.unreadable path cause)

/-- The line from which the table of an origin is looked for. -/
def startLine (origin : Origin) : Nat :=
  match origin.line with
  | some n => n.toNat
  | none => 1

/-- **The source of a table.** -/
def source (files : Files) (origin : Origin) : Except SourceFault (List Text) :=
  match originLines files origin with
  | .error fault => .error fault
  | .ok lines =>
    match span lines (startLine origin) with
    | some span => .ok span
    | none => .error (.noFences (startLine origin))

end Table

end Treedown
