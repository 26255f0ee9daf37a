import Mathlib.Algebra.GroupWithZero.Nat
import Mathlib.Data.List.Forall2
import Mathlib.Order.Bounds.Defs
import Treedown.Proofs.Table.Rows
/-!
# Tables — columns

A row of a table is a line in columns. `IsRow` says what that means by
offsets alone, without a word about how lines are put together: the widths
of the columns fix where the bars stand, and between two bars stand a
space, the text of the cell and at least one more space. Lines that are put
together from segments, each behind a bar (`betweenBars`), are the ones
that can be cut there again (`drop_betweenBars`), and both layouts write
their lines so.

`splitOn_cellLayout` reads the cell layout in these terms: whatever the
cells hold and however long the rows are, every row is a line in the same
columns, each as wide as its longest cell asks for.
-/

namespace Treedown

namespace Table

/-! ## Lines in columns -/

/-- The offset of the bar in front of column `j`. Behind the last column
it is that of the last bar. -/
def barAt (widths : List Nat) (j : Nat) : Nat :=
  ((widths.take j).map (· + 1)).sum

/-- What a line holds in column `j`. -/
def segment (widths : List Nat) (t : Text) (j : Nat) : Text :=
  (t.drop (barAt widths j + 1)).take (widths[j]?.getD 0)

/-- **A line in columns**: it is as long as the columns are wide, and
there is a bar on both sides of each. -/
structure Divided (widths : List Nat) (t : Text) : Prop where
  length : t.length = 1 + (widths.map (· + 1)).sum
  bar : ∀ j ≤ widths.length, t[barAt widths j]? = some '|'

/-- **A row of cells**: in its column each cell stands between a space and
one or more spaces. A missing cell is empty, and a cell beyond the last
column is not there. -/
structure IsRow (widths : List Nat) (cells : List Text) (t : Text) : Prop extends
    Divided widths t where
  cell : ∀ j < widths.length, ∃ n,
    segment widths t j = ' ' :: (cells[j]?.getD [] ++ Text.spaces (n + 1))
  /-- A bar that stands elsewhere belongs to a cell. -/
  other : ∀ i, t[i]? = some '|' → (∃ j ≤ widths.length, i = barAt widths j) ∨
    ∃ j < widths.length, ∃ k, i = barAt widths j + 2 + k ∧ (cells[j]?.getD [])[k]? = some '|'

/-- **The rule under a header.** -/
structure IsRule (widths : List Nat) (t : Text) : Prop extends Divided widths t where
  dashes : ∀ j < widths.length, segment widths t j = List.replicate (widths[j]?.getD 0) '-'

/-- **The width of a column** that holds these cells: two more than the
longest of them. -/
def IsColumnWidth (cells : List Text) (w : Nat) : Prop :=
  IsGreatest {n | ∃ cell ∈ cells, n = cell.length + 2} w

/-! ## Segments between bars -/

/-- Segments, each behind a bar, and the last bar. -/
def betweenBars (segments : List Text) : Text :=
  segments.flatMap ('|' :: ·) ++ ['|']

section

variable {segments : List Text} {widths : List Nat} {cells : List Text} {line : Text}

@[simp] theorem betweenBars_nil : betweenBars [] = ['|'] := rfl

theorem betweenBars_cons (s : Text) (rest : List Text) :
    betweenBars (s :: rest) = '|' :: (s ++ betweenBars rest) := by
  simp [betweenBars]

@[simp] theorem barAt_zero (widths : List Nat) : barAt widths 0 = 0 := rfl

@[simp] theorem barAt_cons_succ (w : Nat) (widths : List Nat) (j : Nat) :
    barAt (w :: widths) (j + 1) = w + 1 + barAt widths j := by
  simp [barAt]

theorem length_betweenBars (segments : List Text) :
    (betweenBars segments).length = 1 + ((segments.map List.length).map (· + 1)).sum := by
  induction segments with
  | nil => rfl
  | cons s rest ih =>
    rw [betweenBars_cons, List.length_cons, List.length_append, ih]
    simp only [List.map_cons, List.sum_cons]
    omega

/-- **What stands from a bar on is the rest of the segments**, again between
bars. -/
theorem drop_betweenBars (segments : List Text) (j : Nat) :
    (betweenBars segments).drop (barAt (segments.map List.length) j) =
      betweenBars (segments.drop j) := by
  induction segments generalizing j with
  | nil => rw [List.map_nil, barAt, List.take_nil, List.drop_nil]; rfl
  | cons s rest ih =>
    cases j with
    | zero => rfl
    | succ j =>
      rw [List.map_cons, barAt_cons_succ, Nat.add_comm s.length, Nat.add_assoc, Nat.add_comm 1,
        betweenBars_cons, List.drop_succ_cons, ← List.drop_drop, List.drop_left, ih]
      rfl

theorem head?_betweenBars (segments : List Text) : (betweenBars segments).head? = some '|' := by
  cases segments <;> rfl

/-- Segments between bars are a line in columns of their lengths. -/
theorem divided_betweenBars (hwidths : segments.map List.length = widths) :
    Divided widths (betweenBars segments) := by
  subst hwidths
  refine ⟨length_betweenBars segments, fun j _ => ?_⟩
  rw [← List.head?_drop, drop_betweenBars, head?_betweenBars]

/-- In each column stands the segment. -/
theorem segment_betweenBars {s : Text} {j : Nat} (hwidths : segments.map List.length = widths)
    (h : segments[j]? = some s) : segment widths (betweenBars segments) j = s := by
  subst hwidths
  obtain ⟨hj, rfl⟩ := List.getElem?_eq_some_iff.1 h
  rw [segment, ← List.drop_drop, drop_betweenBars, List.drop_eq_getElem_cons hj, betweenBars_cons,
    List.drop_succ_cons, List.drop_zero, List.getElem?_map, h, Option.map_some, Option.getD_some,
    List.take_left]

/-- Any other bar stands in a segment. -/
theorem eq_barAt_or_of_getElem?_betweenBars {i : Nat} (hwidths : segments.map List.length = widths)
    (h : (betweenBars segments)[i]? = some '|') :
    (∃ j ≤ widths.length, i = barAt widths j) ∨
      ∃ j s k, segments[j]? = some s ∧ s[k]? = some '|' ∧ i = barAt widths j + 1 + k := by
  subst hwidths
  induction segments generalizing i with
  | nil =>
    obtain ⟨hi, -⟩ := List.getElem?_eq_some_iff.1 h
    exact .inl ⟨0, Nat.le_refl 0, Nat.lt_one_iff.1 hi⟩
  | cons s rest ih =>
    rw [betweenBars_cons] at h
    cases i with
    | zero => exact .inl ⟨0, Nat.zero_le _, rfl⟩
    | succ i =>
      rw [List.getElem?_cons_succ] at h
      rcases Nat.lt_or_ge i s.length with hi | hi
      · -- inside the first segment
        rw [List.getElem?_append_left hi] at h
        exact .inr ⟨0, s, i, rfl, h, by rw [barAt_zero]; omega⟩
      · rw [List.getElem?_append_right hi] at h
        rcases ih h with ⟨j, hj, heq⟩ | ⟨j, t, k, ht, hk, heq⟩
        · refine .inl ⟨j + 1, Nat.succ_le_succ hj, ?_⟩
          rw [List.map_cons, barAt_cons_succ]
          omega
        · refine .inr ⟨j + 1, t, k, ht, hk, ?_⟩
          rw [List.map_cons, barAt_cons_succ]
          omega

/-! ## Rows and rules as they are written -/

theorem cons_intercalate_bar (h : segments ≠ []) :
    ['|'] ++ ['|'].intercalate segments ++ ['|'] = betweenBars segments := by
  induction segments with
  | nil => exact absurd rfl h
  | cons s rest ih =>
    rw [betweenBars_cons]
    cases rest with
    | nil => rw [List.intercalate_singleton]; rfl
    | cons t rest =>
      rw [← ih (List.cons_ne_nil t rest), List.intercalate_cons_cons]
      simp

/-- A cell as it stands in its column. -/
def paddedCell (cell : Text) (width : Nat) : Text :=
  ' ' :: Text.padTo (width - 1) cell

/-- A cell with two characters to spare fills its column. -/
theorem length_paddedCell {cell : Text} {w : Nat} (h : cell.length + 2 ≤ w) :
    (paddedCell cell w).length = w := by
  simp only [paddedCell, Text.padTo, Text.spaces, List.length_cons, List.length_append,
    List.length_replicate]
  omega

theorem paddedCell_eq {cell : Text} {w : Nat} (h : cell.length + 2 ≤ w) :
    ∃ n, paddedCell cell w = ' ' :: (cell ++ Text.spaces (n + 1)) := by
  refine ⟨w - cell.length - 2, ?_⟩
  rw [paddedCell, Text.padTo, show w - 1 - cell.length = w - cell.length - 2 + 1 by omega]

/-- A bar in a padded cell belongs to the cell. -/
theorem getElem?_of_paddedCell {cell : Text} {w k : Nat}
    (h : (paddedCell cell w)[k]? = some '|') : ∃ i, k = i + 1 ∧ cell[i]? = some '|' := by
  cases k with
  | zero => cases h
  | succ i =>
    refine ⟨i, rfl, ?_⟩
    rw [paddedCell, List.getElem?_cons_succ, Text.padTo] at h
    rcases Nat.lt_or_ge i cell.length with hi | hi
    · rwa [List.getElem?_append_left hi] at h
    · rw [List.getElem?_append_right hi, Text.spaces] at h
      exact absurd (List.eq_of_mem_replicate (List.mem_of_getElem? h)) (by decide)

theorem map_length_paddedCells
    (hfit : List.Forall₂ (fun cell w => cell.length + 2 ≤ w) cells widths) :
    (List.zipWith paddedCell cells widths).map List.length = widths := by
  induction hfit with
  | nil => rfl
  | cons h _ ih => rw [List.zipWith_cons_cons, List.map_cons, length_paddedCell h, ih]

/-- Every column has its cell, and there is room for it. -/
theorem exists_getElem?_paddedCells {j : Nat}
    (hfit : List.Forall₂ (fun cell w => cell.length + 2 ≤ w) cells widths)
    (hj : j < widths.length) :
    ∃ cell w, cells[j]? = some cell ∧ cell.length + 2 ≤ w ∧
      (List.zipWith paddedCell cells widths)[j]? = some (paddedCell cell w) := by
  have hlt : j < cells.length := hfit.length_eq ▸ hj
  have hcell : cells[j]? = some cells[j] := List.getElem?_eq_getElem hlt
  have hw : widths[j]? = some widths[j] := List.getElem?_eq_getElem hj
  refine ⟨cells[j], widths[j], hcell, (List.forall₂_iff_get.1 hfit).2 j hlt hj, ?_⟩
  rw [List.getElem?_zipWith, hcell, hw]

/-- **Cells that fit are written as a row** in their columns. -/
theorem isRow_rowLine (hne : widths ≠ [])
    (hfit : List.Forall₂ (fun cell w => cell.length + 2 ≤ w) cells widths) :
    IsRow widths cells (rowLine widths cells) := by
  have hwidths := map_length_paddedCells hfit
  have hsegments : List.zipWith paddedCell cells widths ≠ [] := fun hnil => hne <| by
    rw [← hwidths, hnil, List.map_nil]
  have hline : rowLine widths cells = betweenBars (List.zipWith paddedCell cells widths) :=
    cons_intercalate_bar hsegments
  rw [hline]
  refine ⟨divided_betweenBars hwidths, fun j hj => ?_, fun i hi => ?_⟩
  · obtain ⟨cell, w, hcell, hle, hpadded⟩ := exists_getElem?_paddedCells hfit hj
    rw [segment_betweenBars hwidths hpadded, hcell]
    exact paddedCell_eq hle
  · refine (eq_barAt_or_of_getElem?_betweenBars hwidths hi).imp_right ?_
    rintro ⟨j, s, k, hs, hk, rfl⟩
    have hj : j < widths.length := by
      rw [← hwidths, List.length_map]
      exact (List.getElem?_eq_some_iff.1 hs).1
    obtain ⟨cell, w, hcell, -, hpadded⟩ := exists_getElem?_paddedCells hfit hj
    obtain rfl : paddedCell cell w = s := Option.some.inj (hpadded.symm.trans hs)
    obtain ⟨k, rfl, hbar⟩ := getElem?_of_paddedCell hk
    exact ⟨j, hj, k, by omega, by rwa [hcell]⟩

/-- **The rule is written in the same columns.** -/
theorem isRule_ruleLine (hne : widths ≠ []) : IsRule widths (ruleLine widths) := by
  have hwidths : (widths.map fun w => List.replicate w '-').map List.length = widths := by
    rw [List.map_map]
    exact (List.map_congr_left fun w _ => List.length_replicate).trans (List.map_id _)
  have hline : ruleLine widths = betweenBars (widths.map fun w => List.replicate w '-') :=
    cons_intercalate_bar fun hnil => hne (List.map_eq_nil_iff.1 hnil)
  rw [hline]
  refine ⟨divided_betweenBars hwidths, fun j hj => ?_⟩
  have hw : widths[j]? = some widths[j] := List.getElem?_eq_getElem hj
  have hdashes : (widths.map fun w => List.replicate w '-')[j]? =
      some (List.replicate widths[j] '-') := by
    rw [List.getElem?_map, hw]
    rfl
  rw [segment_betweenBars hwidths hdashes, hw, Option.getD_some]

/-- Cells count only in the columns that there are. -/
theorem IsRow.congr {others : List Text} (h : IsRow widths cells line)
    (heq : ∀ j < widths.length, others[j]?.getD [] = cells[j]?.getD []) :
    IsRow widths others line := by
  refine ⟨h.toDivided, fun j hj => ?_, fun i hi => ?_⟩
  · rw [heq j hj]
    exact h.cell j hj
  · refine (h.other i hi).imp_right ?_
    rintro ⟨j, hj, k, hk⟩
    exact ⟨j, hj, k, by rwa [heq j hj]⟩

end

/-! ## The cell layout -/

section

variable {grid : Grid} {columns j : Nat}

/-- **The rows that a grid shows**, the one in the place of the header
first. A grid without any row shows an empty one. -/
def shownRows (grid : Grid) : List (List Text) :=
  match grid.header.toList ++ grid.rows with
  | [] => [[]]
  | rows => rows

/-- The cells of column `j`; a row that is too short has an empty one. -/
def columnCells (rows : List (List Text)) (j : Nat) : List Text :=
  rows.map fun row => row[j]?.getD []

/-- The first of the rows is the header, and the others are the body. -/
theorem headed_eq (columns : Nat) (grid : Grid) :
    ∃ first rest, shownRows grid = first :: rest ∧
      headed columns grid.header grid.rows = (fitRow columns first, rest.map (fitRow columns)) := by
  rw [shownRows]
  match grid.header, grid.rows with
  | some header, rows => exact ⟨header, rows, rfl, rfl⟩
  | none, first :: rows => exact ⟨first, rows, rfl, rfl⟩
  | none, [] => exact ⟨[], [], rfl, by simp [headed, fitRow]⟩

theorem length_fitRow (columns : Nat) (row : List Text) :
    (fitRow columns row).length = columns := by
  simp only [fitRow, List.length_append, List.length_map, List.length_take, List.length_replicate]
  omega

/-- A row that is brought to the number of columns keeps its cells, up to
their line feeds. -/
theorem getD_fitRow (row : List Text) (hj : j < columns) :
    (fitRow columns row)[j]?.getD [] = flatCell (row[j]?.getD []) := by
  rw [fitRow]
  rcases Nat.lt_or_ge j row.length with h | h
  · rw [List.getElem?_append_left (by simp; omega), List.getElem?_map, List.getElem?_take_of_lt hj,
      List.getElem?_eq_getElem h]
    rfl
  · rw [List.getElem?_append_right (by simp; omega), List.getElem?_replicate,
      List.getElem?_eq_none h]
    split <;> rfl

theorem length_flatCell (cell : Text) : (flatCell cell).length = cell.length :=
  List.length_map _

/-! ### Widths -/

theorem isColumnWidth_widest {cells : List Text} (hne : cells ≠ []) :
    IsColumnWidth cells (widest cells + 2) := by
  refine ⟨?_, ?_⟩
  · induction cells with
    | nil => exact absurd rfl hne
    | cons cell rest ih =>
      rw [widest_cons]
      rcases Nat.le_total (widest rest) cell.length with h | h
      · exact ⟨cell, List.mem_cons_self, by rw [Nat.max_eq_left h]⟩
      · rw [Nat.max_eq_right h]
        by_cases hrest : rest = []
        · subst hrest
          exact ⟨cell, List.mem_cons_self, congrArg (· + 2) (Nat.le_antisymm (Nat.zero_le _) h)⟩
        · obtain ⟨longest, hmem, heq⟩ := ih hrest
          exact ⟨longest, List.mem_cons_of_mem _ hmem, heq⟩
  · rintro n ⟨cell, hcell, rfl⟩
    exact Nat.add_le_add_right (length_le_widest hcell) 2

theorem getElem?_columnWidths (rows : List (List Text)) (hj : j < columns) :
    (columnWidths rows columns)[j]? = some (widest (columnCells rows j) + 2) := by
  rw [columnWidths, List.getElem?_map, List.getElem?_range hj, widest, columnCells, List.foldl_map]
  rfl

/-- A line feed counts as one character, and so does the space in its
place. -/
theorem columnWidths_map_fitRow (rows : List (List Text)) (columns : Nat) :
    columnWidths (rows.map (fitRow columns)) columns = columnWidths rows columns := by
  refine List.map_congr_left fun j hj => ?_
  rw [List.foldl_map]
  refine congrArg (· + 2) (congrArg (fun f => rows.foldl f 0) ?_)
  funext w row
  rw [getD_fitRow row (List.mem_range.1 hj), length_flatCell]

theorem length_le_foldl_max (rows : List (List Text)) (n : Nat) :
    n ≤ rows.foldl (fun n row => max n row.length) n ∧
      ∀ row ∈ rows, row.length ≤ rows.foldl (fun n row => max n row.length) n := by
  induction rows generalizing n with
  | nil => exact ⟨Nat.le_refl n, List.forall_mem_nil _⟩
  | cons row rest ih =>
    obtain ⟨hn, hrest⟩ := ih (max n row.length)
    exact ⟨(Nat.le_max_left _ _).trans hn,
      List.forall_mem_cons.2 ⟨(Nat.le_max_right _ _).trans hn, hrest⟩⟩

/-- **Without a declared number there is a column for every cell.** -/
theorem length_le_columnCount (h : grid.columns = none) :
    ∀ row ∈ shownRows grid, row.length ≤ grid.columnCount := by
  have hcount : grid.columnCount =
      (grid.header.toList ++ grid.rows).foldl (fun n row => max n row.length) 0 := by
    rw [Grid.columnCount, h]
  rw [shownRows, hcount]
  split
  · exact List.forall_mem_singleton.2 (Nat.zero_le _)
  · exact (length_le_foldl_max _ 0).2

/-! ### Lines -/

/-- **A row of the grid is a row of the layout.** -/
theorem isRow_fitRow {widths : List Nat} {row : List Text} (hlen : widths.length = columns)
    (hne : widths ≠ [])
    (hfit : ∀ j w : Nat, widths[j]? = some w → (row[j]?.getD []).length + 2 ≤ w) :
    IsRow widths (row.map flatCell) (rowLine widths (fitRow columns row)) := by
  have hrow : List.Forall₂ (fun cell w => cell.length + 2 ≤ w) (fitRow columns row) widths := by
    refine List.forall₂_iff_get.2 ⟨by rw [length_fitRow, hlen], fun j hcell hw => ?_⟩
    have hget : (fitRow columns row).get ⟨j, hcell⟩ = flatCell (row[j]?.getD []) := by
      rw [← getD_fitRow row (hlen ▸ hw), List.getElem?_eq_getElem hcell]
      rfl
    rw [hget, length_flatCell]
    exact hfit j _ (List.getElem?_eq_getElem hw)
  refine (isRow_rowLine hne hrow).congr fun j hj => ?_
  rw [getD_fitRow row (hlen ▸ hj), List.getElem?_map]
  cases row[j]? <;> rfl

/-- Lines without line feeds stay as they are. -/
theorem flatMap_splitOn {lines : List Text} (h : ∀ line ∈ lines, '\n' ∉ line) :
    lines.flatMap (·.splitOn '\n') = lines := by
  induction lines with
  | nil => rfl
  | cons line rest ih =>
    obtain ⟨hline, hrest⟩ := List.forall_mem_cons.1 h
    have hsplit := List.splitOn_intercalate '\n' (List.forall_mem_singleton.2 hline)
      (List.cons_ne_nil line [])
    rw [List.intercalate_singleton] at hsplit
    rw [List.flatMap_cons, hsplit, ih hrest, List.singleton_append]

/-- Lines under a style. A style may take several lines, since the role of
a table is any text. -/
theorem splitOn_unlines_styleLines (role : Option Text) (multiline : Bool) {lines : List Text}
    (hne : lines ≠ []) (h : ∀ line ∈ lines, '\n' ∉ line) :
    (Text.unlines (styleLines role multiline ++ lines)).splitOn '\n' =
      (styleLines role multiline).flatMap (·.splitOn '\n') ++ lines := by
  rw [Text.splitOn_unlines fun hnil => hne (List.append_eq_nil_iff.1 hnil).2, List.flatMap_append,
    flatMap_splitOn h]

/-- **A grid in columns**: a line for the row in the place of the header, a
rule, and a line for each other row. -/
structure ShowsGrid (grid : Grid) (widths : List Nat) (lines : List Text) : Prop where
  columns : widths.length = grid.columnCount
  width : ∀ j w : Nat, widths[j]? = some w → IsColumnWidth (columnCells (shownRows grid) j) w
  rows : ∃ top rule body, lines = top :: rule :: body ∧ IsRule widths rule ∧
    List.Forall₂ (fun row line => IsRow widths (row.map flatCell) line) (shownRows grid)
      (top :: body)
  /-- Every cell has its column, unless the number of columns is declared. -/
  undeclared : grid.columns = none → ∀ row ∈ shownRows grid, row.length ≤ widths.length
  declared : ∀ n ∈ grid.columns, widths.length = n.toNat

/-- The lines of the cell layout are in columns. -/
theorem showsGrid_cellLines (hcolumns : grid.columnCount ≠ 0) :
    ShowsGrid grid (columnWidths (shownRows grid) grid.columnCount) (cellLines grid) := by
  obtain ⟨first, rest, hshown, hheaded⟩ := headed_eq grid.columnCount grid
  obtain ⟨widths, hwidths⟩ : ∃ widths, columnWidths (shownRows grid) grid.columnCount = widths :=
    ⟨_, rfl⟩
  rw [hwidths]
  have hlines : cellLines grid = rowLine widths (fitRow grid.columnCount first) ::
      ruleLine widths :: rest.map fun row => rowLine widths (fitRow grid.columnCount row) := by
    rw [cellLines, hheaded]
    dsimp only
    rw [← List.map_cons, columnWidths_map_fitRow, ← hshown, hwidths, List.map_map]
    rfl
  have hlen : widths.length = grid.columnCount := by
    rw [← hwidths, columnWidths, List.length_map, List.length_range]
  have hne : widths ≠ [] := fun hnil => hcolumns (by rw [← hlen, hnil]; rfl)
  have hwidth (j w : Nat) (hw : widths[j]? = some w) :
      IsColumnWidth (columnCells (shownRows grid) j) w := by
    have hj : j < grid.columnCount := hlen ▸ (List.getElem?_eq_some_iff.1 hw).1
    rw [← hwidths, getElem?_columnWidths _ hj, Option.some.injEq] at hw
    rw [← hw]
    refine isColumnWidth_widest ?_
    rw [hshown, columnCells]
    exact List.cons_ne_nil _ _
  have hrow (row : List Text) (hmem : row ∈ shownRows grid) :
      IsRow widths (row.map flatCell) (rowLine widths (fitRow grid.columnCount row)) :=
    isRow_fitRow hlen hne fun j w hw => (hwidth j w hw).2 ⟨_, List.mem_map_of_mem hmem, rfl⟩
  refine ⟨hlen, hwidth, ⟨_, _, _, hlines, isRule_ruleLine hne, ?_⟩, ?_, fun n hn => ?_⟩
  · rw [hshown] at hrow ⊢
    exact List.forall₂_map_right_iff.2 (List.forall₂_same.2 hrow)
  · rw [hlen]
    exact length_le_columnCount
  · rw [hlen, Grid.columnCount, Option.mem_def.1 hn]

/-- **The cell layout in columns.** Whatever the cells hold and however long
the rows are, the lines under the style are in the same columns, each two
characters wider than its longest cell. In its column stands each cell of a
row, with a space for a line feed; so a cell is cut only where the number of
columns is declared, and then for standing behind the last of them. -/
theorem splitOn_cellLayout (role : Option Text) (hcolumns : grid.columnCount ≠ 0) :
    ∃ widths lines, (cellLayout grid role).splitOn '\n' =
        (styleLines role false).flatMap (·.splitOn '\n') ++ lines ∧
      ShowsGrid grid widths lines :=
  ⟨_, cellLines grid, splitOn_unlines_styleLines role false (List.cons_ne_nil _ _) fun line hline =>
    (barred_cellLines grid line hline).oneLine, showsGrid_cellLines hcolumns⟩

/-- Rows of three lengths and no header. One cell holds a bar, and another
one a line feed. -/
def raggedGrid : Grid where
  header := none
  rows := [["a|b", "x\ny", "é"], ["only"], []]
  columns := none
  source := none

/-- The short rows are filled up, and the bar of the cell stands off the
columns. -/
theorem splitOn_cellLayout_raggedGrid :
    raggedGrid.columnCount ≠ 0 ∧
      cellLayout raggedGrid (some "wide") = ("<!-- style:wide -->\n| a|b  | x y | é |\n" ++
        "|------|-----|---|\n| only |     |   |\n|      |     |   |" : String).toList ∧
      ∃ widths lines, (cellLayout raggedGrid (some "wide")).splitOn '\n' =
          (styleLines (some "wide") false).flatMap (·.splitOn '\n') ++ lines ∧
        ShowsGrid raggedGrid widths lines :=
  ⟨by decide, by decide +kernel, splitOn_cellLayout _ (by decide)⟩

end

end Table

end Treedown
