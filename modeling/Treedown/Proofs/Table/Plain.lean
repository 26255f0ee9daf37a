import Treedown.Proofs.Table.CellSpec
import Treedown.Table.Span
/-!
# Tables — plain sources

In a plain source each row takes one line, `|l |r` or `|l|r`, and blank
lines may stand between them. `WritesTable` says this for the lines
between the fences, together with what keeps a line from being read in
another way: as a fence, as a cell with the specification of the next one
behind it, or as the beginning of a block. From such lines the reader takes
exactly the rows that they were written from (`entries_of_writesTable`).
-/

namespace Treedown

namespace Table

/-- A row of two cells in the source, with or without a space before the
second bar. -/
def sourceLine (spaced : Bool) (row : Text × Text) : Text :=
  '|' :: row.1 ++ (if spaced then [' '] else []) ++ '|' :: row.2

/-- No cell of a row takes more than one line, and its first one does not
begin like a fence. -/
structure OneLine (row : Text × Text) : Prop where
  left : '\n' ∉ row.1
  right : '\n' ∉ row.2
  fence : ¬ "===".toList <+: row.1

theorem OneLine.free {row : Text × Text} (h : OneLine row) : '\n' ∉ row.1 ∧ '\n' ∉ row.2 :=
  ⟨h.left, h.right⟩

/-- **A row of plain cells**: they are trimmed, the first one holds no bar,
the second one opens no block, and where no space stands before the second
bar, the first one does not end like a specification. -/
structure PlainRow (spaced : Bool) (row : Text × Text) : Prop extends OneLine row where
  trim_left : row.1.trim = row.1
  trim_right : row.2.trim = row.2
  bar : '|' ∉ row.1
  spec : spaced = false → ¬ EndsInCellSpec row.1
  example_block : row.2 ≠ "====".toList
  source_block : ¬ "[source".toList <+: row.2

/-- **The lines hold plain rows**, one in a line, and blank lines. -/
inductive Writes : List (Text × Text) → List Text → Prop
  | nil : Writes [] []
  | blank {line : Text} {rows : List (Text × Text)} {lines : List Text}
      (hline : line.blank = true) (h : Writes rows lines) : Writes rows (line :: lines)
  | row {row : Text × Text} (spaced : Bool) {rows : List (Text × Text)} {lines : List Text}
      (hrow : PlainRow spaced row) (h : Writes rows lines) :
      Writes (row :: rows) (sourceLine spaced row :: lines)

/-- **The lines hold a table of plain rows**, under a header line if the
table has a header. The cells of a header may be any. -/
inductive WritesTable : Option (Text × Text) → List (Text × Text) → List Text → Prop
  | headless {rows : List (Text × Text)} {lines : List Text} (h : Writes rows lines) :
      WritesTable none rows lines
  | blank {line : Text} {header : Text × Text} {rows : List (Text × Text)} {lines : List Text}
      (hline : line.blank = true) (h : WritesTable (some header) rows lines) :
      WritesTable (some header) rows (line :: lines)
  | header {header : Text × Text} (spaced : Bool) {rows : List (Text × Text)} {lines : List Text}
      (hheader : OneLine header) (h : Writes rows lines) :
      WritesTable (some header) rows (sourceLine spaced header :: lines)

/-- The entry of a row of plain cells. -/
def plainEntry (row : Text × Text) : Entry :=
  ⟨row.1, if row.2.isEmpty then [] else [row.2]⟩

/-! ## Reading a line -/

variable {line : Text} {row : Text × Text} {spaced : Bool} {p : Progress}

/-- A blank line is passed over. -/
theorem readLine_of_blank (h : line.blank = true) (p : Progress) : p.readLine line = p := by
  rw [Progress.readLine, Text.trimEnd_eq_nil_iff.2 h]
  simp

/-- A line that starts with a bar opens an entry, or it is the header. -/
theorem readLine_cons_bar (p : Progress) (t : Text) :
    p.readLine ('|' :: t) =
      if p.stage = .headerAhead then { p with stage := .header }
      else ⟨.body, openEntry (Text.trimEnd t) :: p.entries⟩ := by
  have htrim : Text.trimEnd ('|' :: t) = '|' :: t.trimEnd :=
    Text.trimEnd_append_cons [] t (by decide)
  rw [Progress.readLine, htrim]
  cases h : p.stage <;> simp

/-- Where no header is to come it opens an entry. -/
theorem readLine_of_bar {p : Progress} (hp : p.stage ≠ .headerAhead) (t : Text) :
    p.readLine ('|' :: t) = ⟨.body, openEntry (Text.trimEnd t) :: p.entries⟩ := by
  rw [readLine_cons_bar, if_neg hp]

/-- **A cell with a space behind it is read without that space.** The space
may be what a specification stands behind, but then it is the empty one. -/
theorem dropCellSpec_concat_space {cell : Text} (h : cell.trim = cell) :
    (dropCellSpec (cell ++ [' '])).trim = cell := by
  have hkeep : (cell ++ [' ']).dropEndWhile (!isBlank ·) = cell ++ [' '] :=
    Text.dropEndWhile_concat cell (by decide)
  have hdrop : (cell ++ [' ']).trimEnd = cell.trimEnd :=
    Text.dropEndWhile_append_of_forall fun c hc => by rw [List.mem_singleton.1 hc]; decide
  rw [dropCellSpec, hkeep, if_neg, hdrop, Text.trimEnd_eq_self_of_trim h, h]
  rw [List.drop_length]
  simp [isCellSpec, dropFactor, dropSpan, dropHorizontal, dropVertical, dropStyle,
    fraction?]

/-- **A plain row is read as it was written.** -/
theorem openEntry_of_plainRow (h : PlainRow spaced row) :
    openEntry (row.1 ++ (if spaced then [' '] else []) ++ '|' :: row.2) = plainEntry row := by
  have hcut : Text.cutAt '|' (row.1 ++ (if spaced then [' '] else []) ++ '|' :: row.2) =
      some (row.1 ++ (if spaced then [' '] else []), row.2) := by
    refine Text.cutAt_eq_some_iff.2 ⟨fun hmem => ?_, rfl⟩
    rcases List.mem_append.1 hmem with hmem | hmem
    · exact h.bar hmem
    · cases spaced <;> simp at hmem
  have hcell : (dropCellSpec (row.1 ++ (if spaced then [' '] else []))).trim = row.1 := by
    cases spaced with
    | true => exact dropCellSpec_concat_space h.trim_left
    | false =>
      rw [if_neg Bool.false_ne_true, List.append_nil, dropCellSpec_of_not (h.spec rfl),
        h.trim_left]
  rw [openEntry, hcut]
  simp only
  rw [hcell, h.trim_right, plainEntry]

/-- A plain row adds its entry, unless it stands in the place of the
header. -/
theorem readLine_sourceLine (h : PlainRow spaced row) (hp : p.stage ≠ .headerAhead) :
    p.readLine (sourceLine spaced row) = ⟨.body, plainEntry row :: p.entries⟩ := by
  have htrim : Text.trimEnd (row.1 ++ (if spaced then [' '] else []) ++ '|' :: row.2) =
      row.1 ++ (if spaced then [' '] else []) ++ '|' :: row.2 := by
    rw [Text.trimEnd_append_cons _ _ (by decide), Text.trimEnd_eq_self_of_trim h.trim_right]
  rw [sourceLine, List.cons_append, List.cons_append, readLine_of_bar hp, htrim,
    openEntry_of_plainRow h]

/-! ## Reading all lines -/

variable {rows : List (Text × Text)} {lines : List Text} {header : Option (Text × Text)}

/-- **The reader takes the rows from plain lines**, one after the other. -/
theorem entries_foldl_of_writes (h : Writes rows lines) (hp : p.stage ≠ .headerAhead) :
    (lines.foldl Progress.readLine p).entries = (rows.map plainEntry).reverse ++ p.entries := by
  induction h generalizing p with
  | nil => rfl
  | blank hline _ ih => rw [List.foldl_cons, readLine_of_blank hline, ih hp]
  | row spaced hrow _ ih =>
    rw [List.foldl_cons, readLine_sourceLine hrow hp, ih Stage.noConfusion]
    simp

/-- A header line and the blank lines before it bring no entry. -/
theorem entries_foldl_of_writesTable (h : WritesTable header rows lines) :
    (lines.foldl Progress.readLine ⟨if header.isSome then .headerAhead else .body, []⟩).entries =
      (rows.map plainEntry).reverse := by
  induction h with
  | headless h =>
    rw [entries_foldl_of_writes h Stage.noConfusion]
    exact List.append_nil _
  | blank hline _ ih => rw [List.foldl_cons, readLine_of_blank hline, ih]
  | header spaced _ h =>
    have hstage : Stage.header ≠ .headerAhead := Stage.noConfusion
    rw [List.foldl_cons, sourceLine, List.cons_append, List.cons_append, readLine_cons_bar]
    exact (entries_foldl_of_writes h hstage).trans (List.append_nil _)

/-- The second cell of a plain row opens no block. -/
theorem expand_details_plainEntry (h : PlainRow spaced row) :
    expand (plainEntry row).details = (plainEntry row).details := by
  unfold plainEntry
  split
  · rfl
  · rw [expand, h.trim_right, if_neg, if_neg h.example_block]
    rw [List.isPrefixOf_iff_prefix]
    exact h.source_block

theorem Writes.plainRow (h : Writes rows lines) : ∀ row ∈ rows, ∃ spaced, PlainRow spaced row := by
  induction h with
  | nil => simp
  | blank _ _ ih => exact ih
  | row spaced hrow _ ih =>
    intro row hmem
    rcases List.mem_cons.1 hmem with rfl | hmem
    · exact ⟨spaced, hrow⟩
    · exact ih row hmem

theorem WritesTable.writes (h : WritesTable header rows lines) : ∃ lines', Writes rows lines' := by
  induction h with
  | headless h => exact ⟨_, h⟩
  | blank _ _ ih => exact ih
  | header _ _ h => exact ⟨_, h⟩

theorem WritesTable.oneLine (h : WritesTable header rows lines) : ∀ row ∈ rows, OneLine row := by
  obtain ⟨lines', hw⟩ := h.writes
  intro row hrow
  obtain ⟨spaced, hplain⟩ := hw.plainRow row hrow
  exact hplain.toOneLine

theorem WritesTable.oneLine_header (h : WritesTable header rows lines) :
    ∀ row ∈ header, OneLine row := by
  induction h with
  | headless _ => exact fun _ hrow => nomatch hrow
  | blank _ _ ih => exact ih
  | header _ hheader _ => exact fun _ hrow => Option.some.inj hrow ▸ hheader

/-- **From a plain source exactly its rows are read.** -/
theorem entries_of_writesTable (h : WritesTable header rows lines) :
    entries header.isSome lines = rows.map plainEntry := by
  rw [entries, entries_foldl_of_writesTable h, List.reverse_reverse, List.map_map]
  refine List.map_congr_left fun row hrow => ?_
  obtain ⟨lines', hw⟩ := h.writes
  obtain ⟨spaced, hplain⟩ := hw.plainRow row hrow
  rw [Function.comp_apply, expand_details_plainEntry hplain]

/-! ## Between the fences -/

theorem not_isFence_of_blank (h : line.blank = true) : isFence line = false := by
  rw [isFence, ← Bool.not_eq_true, List.isPrefixOf_iff_prefix]
  intro hfence
  have hbar := Text.blank_iff.1 h '|' (hfence.subset (by decide))
  exact absurd hbar (by decide)

/-- No row that begins otherwise is a fence. -/
theorem not_isFence_sourceLine (spaced : Bool) (h : ¬ "===".toList <+: row.1) :
    isFence (sourceLine spaced row) = false := by
  rw [isFence, ← Bool.not_eq_true, List.isPrefixOf_iff_prefix]
  intro hfence
  have hrest : "===".toList <+: row.1 ++ ((if spaced then [' '] else []) ++ '|' :: row.2) := by
    rw [← List.append_assoc]
    exact (List.cons_prefix_cons.1 hfence).2
  rcases List.prefix_or_prefix_of_prefix hrest (List.prefix_append _ _) with hlong | ⟨short, heq⟩
  · exact h hlong
  · -- The fence reaches beyond the cell, and there stands no equals sign.
    rw [← heq, List.prefix_append_right_inj] at hrest
    cases short with
    | nil => exact h ⟨[], by rw [← heq, List.append_nil, List.append_nil]⟩
    | cons c short =>
      have hc : c ∈ "===".toList := by
        rw [← heq]
        exact List.mem_append_right _ List.mem_cons_self
      cases spaced with
      | true => exact absurd ((List.cons_prefix_cons.1 hrest).1 ▸ hc) (by decide)
      | false => exact absurd ((List.cons_prefix_cons.1 hrest).1 ▸ hc) (by decide)

theorem WritesTable.not_isFence (h : WritesTable header rows lines) :
    ∀ line ∈ lines, isFence line = false := by
  have hbody {rows : List (Text × Text)} {lines : List Text} (h : Writes rows lines) :
      ∀ line ∈ lines, isFence line = false := by
    induction h with
    | nil => simp
    | blank hline _ ih => exact List.forall_mem_cons.2 ⟨not_isFence_of_blank hline, ih⟩
    | row spaced hrow _ ih =>
      exact List.forall_mem_cons.2 ⟨not_isFence_sourceLine spaced hrow.fence, ih⟩
  induction h with
  | headless h => exact hbody h
  | blank hline _ ih => exact List.forall_mem_cons.2 ⟨not_isFence_of_blank hline, ih⟩
  | header spaced hheader h =>
    exact List.forall_mem_cons.2 ⟨not_isFence_sourceLine spaced hheader.fence, hbody h⟩

/-- **What stands between two fences**, where no other line is one. -/
theorem between_fences {open_ close : Text} (after : List Text) (hopen : isFence open_ = true)
    (hlines : ∀ line ∈ lines, isFence line = false) (hclose : isFence close = true) :
    between (open_ :: lines ++ close :: after) = some lines := by
  have hnot : ∀ line ∈ lines, (!isFence line) = true := fun line h => by rw [hlines line h]; rfl
  rw [between, List.cons_append, List.dropWhile_cons_of_neg (by simp [hopen])]
  simp only
  rw [if_pos (by simp [hclose]), List.takeWhile_append_of_pos hnot,
    List.takeWhile_cons_of_neg (by simp [hclose]), List.append_nil]

end Table

end Treedown
