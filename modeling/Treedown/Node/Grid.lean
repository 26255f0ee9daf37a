import Treedown.Text.Basic
/-!
# Nodes — the grid of a table

A table node carries the texts of its cells as a grid, and it may say
where its source text is to be found: in the node itself or in a file,
from some line on.
-/

namespace Treedown

/-- **Where the source text of a table is.** -/
structure Origin where
  /-- The file that holds it. -/
  path : Option Text
  /-- The line, counted from one, from which the table is looked for. -/
  line : Option UInt64
  /-- The lines themselves; they come before the file. -/
  lines : Option (List Text)
  deriving DecidableEq

/-- **The cells of a table.** -/
structure Grid where
  header : Option (List Text)
  rows : List (List Text)
  /-- The number of columns, where it is declared. -/
  columns : Option UInt64
  source : Option Origin
  deriving DecidableEq

namespace Origin

/-- No place at all. -/
def empty : Origin := ⟨none, none, none⟩

end Origin

namespace Grid

/-- A grid without cells. -/
def empty : Grid := ⟨none, [], none, none⟩

/-- **The number of columns**: the declared one, else the length of the
longest row, the header included. -/
def columnCount (g : Grid) : Nat :=
  match g.columns with
  | some n => n.toNat
  | none => (g.header.toList ++ g.rows).foldl (fun n row => max n row.length) 0

end Grid

end Treedown
