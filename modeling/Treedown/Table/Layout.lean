import Treedown.Markup.Block
import Treedown.Node.Grid
/-!
# Tables — the cell layout

A table is written as a pipe table under an optional style comment. The
cell layout takes the texts of the grid as they are, one line for each
row, and works for every grid that has a column. Rows are brought to the
number of columns, a line feed inside a cell becomes a space, and every
column is as wide as its widest cell.
-/

namespace Treedown

namespace Table

open Markup

/-- The comment over a table: the role of the table, and whether a cell
takes several lines. -/
def styleLines (role : Option Text) (multiline : Bool) : List Text :=
  match role, multiline with
  | some role, true => [styleComment (role ++ ("; multiline" : Text))]
  | none, true => ["<!-- multiline -->"]
  | some role, false => [styleComment role]
  | none, false => []

/-- A cell on one line. -/
def flatCell (cell : Text) : Text :=
  cell.map fun c => if c = '\n' then ' ' else c

/-- A row brought to the number of columns: longer rows are cut and shorter
ones filled with empty cells. -/
def fitRow (columns : Nat) (row : List Text) : List Text :=
  (row.take columns).map flatCell ++ List.replicate (columns - row.length) []

/-- The header and the rows under it. Without a header the first row takes
its place, and without any row an empty one. -/
def headed (columns : Nat) (header : Option (List Text)) (rows : List (List Text)) :
    List Text × List (List Text) :=
  match header, rows with
  | some header, rows => (fitRow columns header, rows.map (fitRow columns))
  | none, row :: rows => (fitRow columns row, rows.map (fitRow columns))
  | none, [] => (List.replicate columns [], [])

/-- The widths of the columns: the widest cell and a space on either
side. -/
def columnWidths (rows : List (List Text)) (columns : Nat) : List Nat :=
  (List.range columns).map fun j =>
    rows.foldl (fun w row => max w (row[j]?.getD []).length) 0 + 2

/-- A row of cells, each behind a space and filled up to its column. -/
def rowLine (widths : List Nat) (cells : List Text) : Text :=
  ['|'] ++ ['|'].intercalate
    (List.zipWith (fun cell width => ' ' :: Text.padTo (width - 1) cell) cells widths) ++ ['|']

/-- The rule under the header. -/
def ruleLine (widths : List Nat) : Text :=
  ['|'] ++ ['|'].intercalate (widths.map fun w => List.replicate w '-') ++ ['|']

/-- **A grid in the cell layout.** -/
def cellLayout (grid : Grid) (role : Option Text) : Text :=
  let columns := grid.columnCount
  let (header, body) := headed columns grid.header grid.rows
  let widths := columnWidths (header :: body) columns
  Text.unlines
    (styleLines role false ++ rowLine widths header :: ruleLine widths ::
      body.map (rowLine widths))

end Table

end Treedown
