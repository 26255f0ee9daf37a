import Treedown.Proofs.Table.Plain
import Treedown.Render.Block
/-!
# Tables — where the two layouts agree

The two layouts of a table come about in different ways, one from the texts
of the grid and one from the source. Where the source of a table of two
columns is plain, they say the same: the rebuilt layout is the cell layout
with one pad character more in each line and a blank row between two rows.
Cell texts, the row that takes the place of a missing header and the widths
of the columns are compared on the way.
-/

namespace Treedown

namespace Table

/-! ## The lines of the cell layout -/

/-- The lines of a table in the cell layout, without its style. -/
def cellLines (grid : Grid) : List Text :=
  let columns := grid.columnCount
  let (header, body) := headed columns grid.header grid.rows
  let widths := columnWidths (header :: body) columns
  rowLine widths header :: ruleLine widths :: body.map (rowLine widths)

/-- A line with one more pad character before its last bar. -/
def widen (pad : Char) (line : Text) : Text :=
  line.dropLast ++ pad :: line.getLast?.toList

/-- The blank row of the width of a rule. -/
def blankRow (rule : Text) : Text :=
  rule.map fun c => if c = '-' then ' ' else c

/-- **A table with one more pad character in each line**, and with a blank
row between two rows of its body. -/
def widened : List Text → List Text
  | header :: rule :: body =>
    widen ' ' header :: widen '-' rule ::
      (body.map (widen ' ')).intersperse (blankRow (widen '-' rule))
  | lines => lines

theorem widen_concat_bar (pad : Char) (core : Text) :
    widen pad (core ++ ['|']) = core ++ [pad, '|'] := by
  simp [widen]

/-! ## Rows of two cells -/

/-- The grid has two columns and holds these rows. -/
structure HoldsPairs (grid : Grid) (header : Option (Text × Text))
    (rows : List (Text × Text)) : Prop where
  columns : grid.columnCount = 2
  header : grid.header = header.map fun row => [row.1, row.2]
  rows : grid.rows = rows.map fun row => [row.1, row.2]

/-- The header of a table of two columns and the rows under it. -/
def headedPairs (header : Option (Text × Text)) (rows : List (Text × Text)) :
    (Text × Text) × List (Text × Text) :=
  match header, rows with
  | some header, rows => (header, rows)
  | none, first :: rows => (first, rows)
  | none, [] => (([], []), [])

variable {header : Option (Text × Text)} {rows : List (Text × Text)} {row : Text × Text}
  {grid : Grid}

theorem flatCell_eq_self {cell : Text} (h : '\n' ∉ cell) : flatCell cell = cell := by
  rw [flatCell]
  refine (List.map_congr_left fun c hc => ?_).trans (List.map_id _)
  have hne : c ≠ '\n' := fun heq => h (heq ▸ hc)
  rw [if_neg hne]
  rfl

theorem fitRow_pair (h : '\n' ∉ row.1 ∧ '\n' ∉ row.2) : fitRow 2 [row.1, row.2] = [row.1, row.2] := by
  simp [fitRow, flatCell_eq_self h.1, flatCell_eq_self h.2]

theorem map_fitRow_pairs (h : ∀ row ∈ rows, '\n' ∉ row.1 ∧ '\n' ∉ row.2) :
    (rows.map fun row => [row.1, row.2]).map (fitRow 2) = rows.map fun row => [row.1, row.2] := by
  rw [List.map_map]
  exact List.map_congr_left fun row hrow => fitRow_pair (h row hrow)

/-- The cell layout takes the rows as they are. -/
theorem headed_of_holdsPairs (hgrid : HoldsPairs grid header rows)
    (hheader : ∀ row ∈ header, '\n' ∉ row.1 ∧ '\n' ∉ row.2)
    (hrows : ∀ row ∈ rows, '\n' ∉ row.1 ∧ '\n' ∉ row.2) :
    headed 2 grid.header grid.rows =
      ([(headedPairs header rows).1.1, (headedPairs header rows).1.2],
        (headedPairs header rows).2.map fun row => [row.1, row.2]) := by
  rw [hgrid.header, hgrid.rows]
  cases header with
  | some top =>
    simp only [Option.map_some, headed, headedPairs]
    rw [fitRow_pair (hheader top rfl), map_fitRow_pairs hrows]
  | none =>
    cases rows with
    | nil => rfl
    | cons first rest =>
      obtain ⟨hfirst, hrest⟩ := List.forall_mem_cons.1 hrows
      simp only [Option.map_none, headed, headedPairs, List.map_cons]
      rw [fitRow_pair hfirst, map_fitRow_pairs hrest]

/-- So does the rebuilt layout, after the entries have been read. -/
theorem headerCells_plainEntry (hgrid : HoldsPairs grid header rows) :
    headerCells grid.header (rows.map plainEntry) =
      ((headedPairs header rows).1, (headedPairs header rows).2.map plainEntry) := by
  rw [hgrid.header]
  cases header with
  | some top => rfl
  | none =>
    cases rows with
    | nil => rfl
    | cons first rest =>
      obtain ⟨left, right⟩ := first
      simp only [Option.map_none, List.map_cons, headerCells, headedPairs, plainEntry]
      cases right <;> simp

/-! ## Widths -/

theorem foldl_max_length (n : Nat) (texts : List Text) :
    texts.foldl (fun w t => max w t.length) n = max n (widest texts) := by
  induction texts generalizing n with
  | nil => exact (Nat.max_zero n).symm
  | cons t rest ih =>
    have htop : widest (t :: rest) = max t.length (widest rest) := by
      rw [widest, List.foldl_cons, ih, Nat.zero_max]
    rw [List.foldl_cons, ih, htop, Nat.max_assoc]

theorem widest_cons (t : Text) (texts : List Text) :
    widest (t :: texts) = max t.length (widest texts) := by
  rw [widest, List.foldl_cons, foldl_max_length, Nat.zero_max]

theorem length_le_widest {t : Text} {texts : List Text} (h : t ∈ texts) :
    t.length ≤ widest texts := by
  induction texts with
  | nil => cases h
  | cons u rest ih =>
    rw [widest_cons]
    rcases List.mem_cons.1 h with rfl | h
    · exact Nat.le_max_left _ _
    · have := ih h
      omega

/-- The widths of two columns. -/
theorem columnWidths_pairs (top : Text × Text) (body : List (Text × Text)) :
    columnWidths ([top.1, top.2] :: body.map fun row => [row.1, row.2]) 2 =
      [widest (top.1 :: body.map (·.1)) + 2, widest (top.2 :: body.map (·.2)) + 2] := by
  simp [columnWidths, widest, List.range_succ, List.foldl_map]

/-- An empty cell leaves no trace in the width of its column. -/
theorem widest_details (t : Text) (body : List (Text × Text)) :
    widest (t :: (body.map plainEntry).flatMap (·.details)) = widest (t :: body.map (·.2)) := by
  have hbody : widest ((body.map plainEntry).flatMap (·.details)) = widest (body.map (·.2)) := by
    induction body with
    | nil => rfl
    | cons row rest ih =>
      rw [List.map_cons, List.map_cons, List.flatMap_cons, widest_cons, ← ih, plainEntry]
      cases h : row.2 with
      | nil => exact (Nat.zero_max _).symm
      | cons c r => exact widest_cons _ _
  rw [widest_cons, widest_cons, hbody]

/-! ## Lines -/

variable {first second : Nat}

theorem padTo_succ {t : Text} (h : t.length + 1 ≤ second) :
    t.padTo second = t.padTo (second - 1) ++ [' '] := by
  have hlen : second - t.length = (second - 1 - t.length) + 1 := by omega
  rw [Text.padTo, Text.padTo, Text.spaces, Text.spaces, hlen, List.replicate_succ',
    List.append_assoc]

/-- **A row of the rebuilt layout is one pad character wider.** -/
theorem pairLine_eq_widen (left : Text) {right : Text} (h : right.length + 1 ≤ second) :
    pairLine first second left right = widen ' ' (rowLine [first, second] [left, right]) := by
  have hcore : rowLine [first, second] [left, right] =
      (("| " : Text) ++ left.padTo (first - 1) ++ ("| " : Text) ++ right.padTo (second - 1)) ++
        ['|'] := by
    simp [rowLine, List.intercalate, List.intersperse]
  rw [hcore, widen_concat_bar, pairLine, padTo_succ h]
  simp

/-- So is the rule. -/
theorem rule_eq_widen (first second : Nat) :
    ("|" : Text) ++ List.replicate first '-' ++ ("|" : Text) ++
      List.replicate (second + 1) '-' ++ ("|" : Text) = widen '-' (ruleLine [first, second]) := by
  have hcore : ruleLine [first, second] =
      (("|" : Text) ++ List.replicate first '-' ++ ("|" : Text) ++ List.replicate second '-') ++
        ['|'] := by
    simp [ruleLine, List.intercalate, List.intersperse]
  rw [hcore, widen_concat_bar, List.replicate_succ']
  simp

/-- The row between two rows is as wide as the rule, and blank. -/
theorem pairLine_nil_nil (h : 1 ≤ first) :
    pairLine first second [] [] = blankRow (widen '-' (ruleLine [first, second])) := by
  obtain ⟨n, rfl⟩ := Nat.exists_eq_add_of_le' h
  rw [← rule_eq_widen, pairLine, blankRow]
  simp [Text.padTo, Text.spaces, List.replicate_succ]

/-- An entry of a plain row takes one line. -/
theorem entryLines_plainEntry (row : Text × Text) :
    entryLines first second (plainEntry row) = [pairLine first second row.1 row.2] := by
  rw [entryLines, plainEntry]
  cases h : row.2 <;> rfl

theorem intercalate_singletons {α β : Type} (sep : β) (f : α → β) (l : List α) :
    [sep].intercalate (l.map fun x => [f x]) = (l.map f).intersperse sep := by
  induction l with
  | nil => rfl
  | cons x rest ih =>
    cases rest with
    | nil => rfl
    | cons y rest =>
      rw [List.map_cons, List.map_cons, List.map_cons, List.map_cons, List.intersperse_cons_cons,
        ← List.map_cons (f := f), ← ih]
      rfl

/-- So there is nothing for a multiline style to say. -/
theorem any_multiline_plainEntry (body : List (Text × Text)) :
    (body.map plainEntry).any (fun e => 1 < e.details.length) = false := by
  rw [List.any_eq_false]
  intro e he
  obtain ⟨row, -, rfl⟩ := List.mem_map.1 he
  rw [plainEntry]
  cases row.2 <;> simp

/-- The entries of plain rows, with a separator between two of them. -/
theorem intercalate_entryLines (separator : Text) (body : List (Text × Text)) :
    [separator].intercalate ((body.map plainEntry).map (entryLines first second)) =
      (body.map fun row => pairLine first second row.1 row.2).intersperse separator := by
  rw [List.map_map, ← intercalate_singletons]
  congr 1
  exact List.map_congr_left fun row _ => entryLines_plainEntry row

/-! ## The two layouts -/

/-- The lines of the cell layout of a table of two columns. -/
theorem cellLines_of_holdsPairs (hgrid : HoldsPairs grid header rows)
    (hheader : ∀ row ∈ header, '\n' ∉ row.1 ∧ '\n' ∉ row.2)
    (hrows : ∀ row ∈ rows, '\n' ∉ row.1 ∧ '\n' ∉ row.2) {top : Text × Text}
    {body : List (Text × Text)} (hhead : headedPairs header rows = (top, body))
    (hfirst : first = widest (top.1 :: body.map (·.1)) + 2)
    (hsecond : second = widest (top.2 :: body.map (·.2)) + 2) :
    cellLines grid = rowLine [first, second] [top.1, top.2] :: ruleLine [first, second] ::
      body.map fun row => rowLine [first, second] [row.1, row.2] := by
  rw [cellLines, hgrid.columns, headed_of_holdsPairs hgrid hheader hrows, hhead]
  simp only
  rw [columnWidths_pairs, ← hfirst, ← hsecond, List.map_map]
  rfl

/-- **A table rebuilt from plain rows** is the cell layout, widened. -/
theorem rebuilt_of_entries (hgrid : HoldsPairs grid header rows)
    (hheader : ∀ row ∈ header, '\n' ∉ row.1 ∧ '\n' ∉ row.2)
    (hrows : ∀ row ∈ rows, '\n' ∉ row.1 ∧ '\n' ∉ row.2) {span : List Text}
    (hspan : entries grid.header.isSome span = rows.map plainEntry) (role : Option Text) :
    rebuilt grid span role =
      if rows.isEmpty then none
      else some (Text.unlines (styleLines role false ++ widened (cellLines grid))) := by
  rw [rebuilt, hspan, List.isEmpty_map]
  by_cases hempty : rows.isEmpty = true
  · rw [if_pos hempty, if_pos hempty]
  rw [if_neg hempty, if_neg hempty, headerCells_plainEntry hgrid]
  obtain ⟨⟨top, body⟩, hhead⟩ : ∃ pair, headedPairs header rows = pair := ⟨_, rfl⟩
  rw [hhead]
  simp only
  -- both layouts take the widths of their columns from the same texts
  obtain ⟨first, hfirst⟩ : ∃ first, first = widest (top.1 :: body.map (·.1)) + 2 := ⟨_, rfl⟩
  obtain ⟨second, hsecond⟩ : ∃ second, second = widest (top.2 :: body.map (·.2)) + 2 := ⟨_, rfl⟩
  have hnames : (body.map plainEntry).map (·.name) = body.map (·.1) := by
    rw [List.map_map]
    rfl
  -- there is room for the pad character in front of the last bar
  have hright : ∀ t ∈ top.2 :: body.map (·.2), t.length + 1 ≤ second := fun t ht => by
    have := length_le_widest ht
    omega
  have hpairs : body.map (fun row => pairLine first second row.1 row.2) =
      (body.map fun row => rowLine [first, second] [row.1, row.2]).map (widen ' ') := by
    rw [List.map_map]
    refine List.map_congr_left fun row hrow => pairLine_eq_widen row.1 (hright _ ?_)
    exact List.mem_cons_of_mem _ (List.mem_map_of_mem hrow)
  have htop : pairLine first second top.1 top.2 =
      widen ' ' (rowLine [first, second] [top.1, top.2]) :=
    pairLine_eq_widen top.1 (hright _ List.mem_cons_self)
  rw [hnames, widest_details, ← hfirst, ← hsecond, any_multiline_plainEntry, intercalate_entryLines,
    rule_eq_widen, hpairs, htop, pairLine_nil_nil (by omega), cellLines_of_holdsPairs hgrid hheader hrows hhead hfirst
      hsecond]
  rfl

end Table

namespace Render

open Table

/-- The setting with tables rebuilt from their sources, or not. -/
def Setting.rebuilding (s : Setting) (rebuild : Bool) : Setting :=
  { s with options := { s.options with rebuildTables := rebuild } }

/-- A table of two columns whose origin gives the lines of its source:
where these are fenced from the start line on, they are its span. -/
theorem source_of_lines {files : Files} {origin : Origin} {lines inside after : List Text}
    (hlines : origin.lines = some lines)
    (hfences : lines.drop (startLine origin - 1) =
      "|===".toList :: inside ++ "|===".toList :: after)
    (hinside : ∀ line ∈ inside, isFence line = false) : source files origin = .ok inside := by
  have hspan : span lines (startLine origin) = some inside := by
    rw [span, hfences]
    exact between_fences after (by decide) hinside (by decide)
  rw [source, originLines, hlines]
  simp only
  rw [hspan]

/-- **The two layouts agree on plain tables.** Take a table of two columns
with any role whose source, from its start line on, is a fence, the plain
rows of the table, and another fence. Without rebuilding its lines are the
style and `cellLines`. With rebuilding the style is the same, and each
other line has one pad character more before its last bar, with a blank
row between two rows of the body; a table without rows stays as it is. -/
theorem table_rebuilding_of_writesTable (s : Setting) (kind : Kind) {f : Fields} {grid : Grid}
    {origin : Origin} {header : Option (Text × Text)} {rows : List (Text × Text)}
    {lines inside after : List Text} (hf : f.grid = some grid)
    (hgrid : HoldsPairs grid header rows) (horigin : grid.source = some origin)
    (hlines : origin.lines = some lines)
    (hfences : lines.drop (startLine origin - 1) =
      "|===".toList :: inside ++ "|===".toList :: after)
    (hinside : WritesTable header rows inside) :
    table (s.rebuilding false) kind f =
        .ok (Text.unlines (styleLines f.role? false ++ cellLines grid)) ∧
      table (s.rebuilding true) kind f =
        .ok (Text.unlines (styleLines f.role? false ++
          if rows.isEmpty then cellLines grid else widened (cellLines grid))) := by
  have hcells : f.cells = grid := by rw [Fields.cells, hf, Option.getD_some]
  have hcolumns : ¬ f.cells.columnCount = 0 := by
    rw [hcells, hgrid.columns]
    decide
  have hoff : tableLayout (s.rebuilding false) f = .error .disabled := by
    rw [tableLayout, hcells, Table.layout, if_neg (by rw [hgrid.columns]; decide)]
    rfl
  have hsource : source s.files origin = .ok inside :=
    source_of_lines hlines hfences hinside.not_isFence
  have hspan : entries grid.header.isSome inside = rows.map plainEntry := by
    rw [hgrid.header, Option.isSome_map]
    exact entries_of_writesTable hinside
  have hrebuilt := rebuilt_of_entries hgrid (fun row h => (hinside.oneLine_header row h).free)
    (fun row h => (hinside.oneLine row h).free) hspan f.role?
  have hon : tableLayout (s.rebuilding true) f =
      ((rebuilt grid inside f.role?).map Except.ok).getD (.error .noEntries) := by
    rw [tableLayout, hcells, Table.layout, if_neg (by rw [hgrid.columns]; decide), horigin]
    simp only [Setting.rebuilding, hsource]
    cases rebuilt grid inside f.role? <;> rfl
  constructor
  · rw [table, if_neg hcolumns, hoff, hcells]
    rfl
  · rw [table, if_neg hcolumns, hon, hrebuilt, hcells]
    by_cases hempty : rows.isEmpty = true
    · rw [if_pos hempty, if_pos hempty]
      rfl
    · rw [if_neg hempty, if_neg hempty]
      rfl

/-- A header and two rows, with blank lines between them; the second cell of
the second row is empty. -/
def keyLines : List Text :=
  ["|===", "|Key |Value", [], "|a|one two", "  ", "|b c |", "|==="]

/-- The table of these lines. -/
def keyTable : Fields :=
  { Fields.empty with
    attributes := Attributes.empty.set "role" "keys"
    grid := some
      { header := some ["Key", "Value"]
        rows := [["a", "one two"], ["b c", []]]
        columns := none
        source := some ⟨none, none, some keyLines⟩ } }

/-- The table of keys in both layouts. -/
theorem table_rebuilding_keyTable :
    table ((⟨.standard, .empty⟩ : Setting).rebuilding false) (.known .table) keyTable =
        .ok ("<!-- style:keys -->\n| Key | Value   |\n|-----|---------|\n" ++
          "| a   | one two |\n| b c |         |" : String).toList ∧
      table ((⟨.standard, .empty⟩ : Setting).rebuilding true) (.known .table) keyTable =
        .ok ("<!-- style:keys -->\n| Key | Value    |\n|-----|----------|\n" ++
          "| a   | one two  |\n|     |          |\n| b c |          |" : String).toList := by
  have hletter : ¬ EndsInCellSpec "a".toList := by
    rintro ⟨front, gap, spec, hgap, hblank, -, heq⟩
    obtain ⟨c, gap, rfl⟩ := List.exists_cons_of_ne_nil hgap
    have hc : c ∈ "a".toList := by
      rw [heq]
      simp
    have := hblank c List.mem_cons_self
    rw [List.mem_singleton.1 hc] at this
    exact absurd this (by decide)
  have hfirst : PlainRow false ("a".toList, "one two".toList) :=
    ⟨⟨by decide, by decide, by decide⟩, by decide, by decide, by decide, fun _ => hletter,
      by decide, by decide⟩
  have hsecond : PlainRow true ("b c".toList, []) :=
    ⟨⟨by decide, by decide, by decide⟩, by decide, by decide, by decide,
      fun h => absurd h (by decide), by decide, by decide⟩
  have hwrites : WritesTable (some ("Key".toList, "Value".toList))
      [("a".toList, "one two".toList), ("b c".toList, [])]
      ["|Key |Value", [], "|a|one two", "  ", "|b c |"] :=
    .header true ⟨by decide, by decide, by decide⟩
      (.blank rfl (.row false hfirst (.blank (by decide) (.row true hsecond .nil))))
  have hfences : keyLines.drop (startLine ⟨none, none, some keyLines⟩ - 1) =
      "|===".toList :: ["|Key |Value", [], "|a|one two", "  ", "|b c |"] ++ ["|===".toList] := rfl
  obtain ⟨hoff, hon⟩ := table_rebuilding_of_writesTable ⟨.standard, .empty⟩ (.known .table)
    (f := keyTable) rfl ⟨by decide, rfl, rfl⟩ rfl rfl hfences hwrites
  exact ⟨hoff.trans (by decide +kernel), hon.trans (by decide +kernel)⟩

end Render

end Treedown
