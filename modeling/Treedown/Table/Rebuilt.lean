import Treedown.Table.Entry
import Treedown.Table.Layout
import Treedown.Table.Span
/-!
# Tables — the rebuilt layout

A two-column table whose source can be found is rebuilt from it, so that
code and admonitions inside its cells survive. An entry takes one line for
each of its details, with its name on the first, and an empty row stands
between two entries. `layout` decides between the two layouts and says
why the cell layout was taken.
-/

namespace Treedown

namespace Table

/-- The texts of a header row, or the first entry in its place. -/
def headerCells (header : Option (List Text)) (entries : List Entry) :
    (Text × Text) × List Entry :=
  match header, entries with
  | some header, entries => ((header[0]?.getD [], header[1]?.getD []), entries)
  | none, first :: entries => ((first.name, [' '].intercalate first.details), entries)
  | none, [] => (([], []), [])

/-- The greatest length among texts. -/
def widest (texts : List Text) : Nat :=
  texts.foldl (fun w t => max w t.length) 0

/-- A line of two cells. -/
def pairLine (first second : Nat) (left right : Text) : Text :=
  ("| " : Text) ++ left.padTo (first - 1) ++ ("| " : Text) ++ right.padTo second ++ ("|" : Text)

/-- The lines of an entry: the name stands before the first detail. -/
def entryLines (first second : Nat) (e : Entry) : List Text :=
  pairLine first second e.name (e.details.headD []) ::
    e.details.tail.map (pairLine first second [])

/-- **A table rebuilt from its source**, or nothing when the source holds
no entry. -/
def rebuilt (grid : Grid) (span : List Text) (role : Option Text) : Option Text :=
  let found := entries grid.header.isSome span
  if found.isEmpty then none
  else
    let ((left, right), body) := headerCells grid.header found
    let first := widest (left :: body.map (·.name)) + 2
    let second := widest (right :: body.flatMap (·.details)) + 2
    let multiline := body.any fun e => 1 < e.details.length
    let rule := ("|" : Text) ++ List.replicate first '-' ++ ("|" : Text) ++
      List.replicate (second + 1) '-' ++ ("|" : Text)
    let blocks := body.map (entryLines first second)
    some (Text.unlines
      (styleLines role multiline ++ pairLine first second left right :: rule ::
        [pairLine first second [] []].intercalate blocks))

/-- **Why a table is laid out from its cells.** -/
inductive Reason
  | columns (n : Nat)
  | disabled
  | noSource
  | unusable (fault : SourceFault)
  | noEntries
  deriving DecidableEq

/-- The rebuilt table, or the first reason against it. -/
def layout (rebuild : Bool) (files : Files) (grid : Grid) (role : Option Text) :
    Except Reason Text :=
  if grid.columnCount ≠ 2 then .error (.columns grid.columnCount)
  else if !rebuild then .error .disabled
  else match grid.source with
    | none => .error .noSource
    | some origin =>
      match source files origin with
      | .error fault => .error (.unusable fault)
      | .ok span =>
        match rebuilt grid span role with
        | some t => .ok t
        | none => .error .noEntries

end Table

end Treedown
