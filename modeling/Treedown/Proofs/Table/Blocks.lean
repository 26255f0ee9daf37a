import Treedown.Proofs.Table.Columns
/-!
# Tables — the rebuilt layout in columns

A rebuilt table stands in two columns. Under a header and a rule each entry
has a block of its own: one line for each of its details, its name on the
first line only, and a blank line between two blocks. `ShowsEntries` says
so of the lines of a table, and `splitOn_rebuilt` says it of every table
that is rebuilt, whatever its entries hold. The second column is one
character wider than its longest cell asks for.
-/

namespace Treedown

namespace Table

/-- **The block of an entry**: a line for each detail, and one where there
is none. -/
structure ShowsEntry (widths : List Nat) (e : Entry) (block : List Text) : Prop where
  count : block.length = max 1 e.details.length
  /-- The name stands on the first line, and each detail on its own. -/
  row : ∀ (i : Nat) line, block[i]? = some line →
    IsRow widths [if i = 0 then e.name else [], e.details[i]?.getD []] line

/-- **Entries in two columns**, under a header and a rule, with a blank line
between two of them. -/
structure ShowsEntries (left right : Text) (body : List Entry) (first second : Nat)
    (lines : List Text) : Prop where
  width_first : IsColumnWidth (left :: body.map (·.name)) first
  width_second : IsColumnWidth (right :: body.flatMap (·.details)) second
  rows : ∃ top rule spacer blocks, lines = top :: rule :: [spacer].intercalate blocks ∧
    IsRow [first, second + 1] [left, right] top ∧ IsRule [first, second + 1] rule ∧
    IsRow [first, second + 1] [] spacer ∧
    List.Forall₂ (ShowsEntry [first, second + 1]) body blocks

section

variable {left right : Text} {body : List Entry} {first second : Nat} {lines : List Text}

/-! ## What follows for all lines -/

theorem length_intercalate_singleton {α : Type} (sep : α) (blocks : List (List α)) :
    ([sep].intercalate blocks).length = (blocks.map List.length).sum + (blocks.length - 1) := by
  induction blocks with
  | nil => rfl
  | cons block rest ih =>
    cases rest with
    | nil => rw [List.intercalate_singleton]; simp
    | cons next rest =>
      rw [List.intercalate_cons_cons, List.length_append, List.length_append, ih]
      simp only [List.map_cons, List.sum_cons, List.length_cons, List.length_nil]
      omega

/-- **The number of lines**: two, one for each detail of an entry and at
least one, and one between two entries. -/
theorem ShowsEntries.length (h : ShowsEntries left right body first second lines) :
    lines.length = 2 + (body.map fun e => max 1 e.details.length).sum + (body.length - 1) := by
  obtain ⟨top, rule, spacer, blocks, rfl, -, -, -, hblocks⟩ := h.rows
  have hcounts : blocks.map List.length = body.map fun e => max 1 e.details.length := by
    clear h
    induction hblocks with
    | nil => rfl
    | cons hblock _ ih => rw [List.map_cons, List.map_cons, hblock.count, ih]
  rw [List.length_cons, List.length_cons, length_intercalate_singleton, hcounts,
    ← hblocks.length_eq]
  omega

/-- The places of the bars in a line of two columns. -/
theorem Divided.pair {t : Text} (h : Divided [first, second + 1] t) :
    t.length = first + second + 4 ∧ t[0]? = some '|' ∧ t[first + 1]? = some '|' ∧
      t[first + second + 3]? = some '|' := by
  have hlength := h.length
  have hsecond := h.bar 1 (Nat.le_succ 1)
  have hlast := h.bar 2 (Nat.le_refl 2)
  simp only [List.map_cons, List.map_nil, List.sum_cons, List.sum_nil] at hlength
  simp only [barAt_cons_succ, barAt_zero, Nat.add_zero] at hsecond hlast
  refine ⟨by omega, h.bar 0 (Nat.zero_le 2), hsecond, ?_⟩
  rw [← hlast]
  congr 1
  omega

/-- Every line of a block is in the columns. -/
theorem ShowsEntry.divided {widths : List Nat} {e : Entry} {block : List Text}
    (h : ShowsEntry widths e block) : ∀ line ∈ block, Divided widths line := by
  intro line hline
  obtain ⟨i, hi⟩ := List.mem_iff_getElem?.1 hline
  exact (h.row i line hi).toDivided

/-- **All lines are in the same columns**, the header and the rule
included. -/
theorem ShowsEntries.divided (h : ShowsEntries left right body first second lines) :
    ∀ line ∈ lines, Divided [first, second + 1] line := by
  obtain ⟨top, rule, spacer, blocks, rfl, htop, hrule, hspacer, hblocks⟩ := h.rows
  have hlines : ∀ block ∈ blocks, ∀ line ∈ block, Divided [first, second + 1] line := by
    clear h
    induction hblocks with
    | nil => exact List.forall_mem_nil _
    | cons hblock _ ih => exact List.forall_mem_cons.2 ⟨hblock.divided, ih⟩
  refine List.forall_mem_cons.2 ⟨htop.toDivided, List.forall_mem_cons.2 ⟨hrule.toDivided,
    fun line hline => ?_⟩⟩
  rcases Text.mem_intercalate hline with hline | ⟨block, hblock, hline⟩
  · rw [List.mem_singleton.1 hline]
    exact hspacer.toDivided
  · exact hlines block hblock line hline

/-- In front of a block stand the blocks before it, each with a blank
line. -/
theorem exists_intercalate_singleton_append {α : Type} (sep : α) (xs ys : List (List α))
    (x : List α) :
    ∃ back, [sep].intercalate (xs ++ x :: ys) = xs.flatMap (· ++ [sep]) ++ x ++ back := by
  induction xs with
  | nil =>
    cases ys with
    | nil => exact ⟨[], by simp⟩
    | cons y ys => exact ⟨[sep] ++ [sep].intercalate (y :: ys), by
        rw [List.nil_append, List.intercalate_cons_cons, List.append_assoc]
        rfl⟩
  | cons first rest ih =>
    obtain ⟨back, hback⟩ := ih
    refine ⟨back, ?_⟩
    rw [List.cons_append, List.intercalate_cons_of_ne_nil (by simp), hback]
    simp

/-- **Where an entry is shown**: behind the header, the rule and the entries
before it, each of which has a blank line behind it. -/
theorem ShowsEntries.block {earlier later : List Entry} {e : Entry}
    (h : ShowsEntries left right (earlier ++ e :: later) first second lines) :
    ∃ front block back, lines = front ++ block ++ back ∧
      front.length = 2 + (earlier.map fun e => max 1 e.details.length + 1).sum ∧
      ShowsEntry [first, second + 1] e block := by
  obtain ⟨top, rule, spacer, blocks, rfl, -, -, -, hblocks⟩ := h.rows
  obtain ⟨xs, block, ys, rfl, hcounts, hblock⟩ : ∃ xs block ys, blocks = xs ++ block :: ys ∧
      xs.map List.length = earlier.map (fun e => max 1 e.details.length) ∧
      ShowsEntry [first, second + 1] e block := by
    clear h
    induction earlier generalizing blocks with
    | nil =>
      obtain ⟨block, ys, hblock, -, rfl⟩ := List.forall₂_cons_left_iff.1 hblocks
      exact ⟨[], block, ys, rfl, rfl, hblock⟩
    | cons e rest ih =>
      obtain ⟨x, blocks, hx, hrest, rfl⟩ := List.forall₂_cons_left_iff.1 hblocks
      obtain ⟨xs, block, ys, rfl, hcounts, hblock⟩ := ih blocks hrest
      exact ⟨x :: xs, block, ys, rfl, by rw [List.map_cons, hcounts, hx.count]; rfl, hblock⟩
  obtain ⟨back, hback⟩ := exists_intercalate_singleton_append spacer xs ys block
  refine ⟨top :: rule :: xs.flatMap (· ++ [spacer]), block, back, by rw [hback]; rfl, ?_, hblock⟩
  have hlengths : xs.map (fun x => (x ++ [spacer]).length) =
      earlier.map fun e => max 1 e.details.length + 1 := by
    simpa [Function.comp_def] using congrArg (List.map (· + 1)) hcounts
  rw [List.length_cons, List.length_cons, List.length_flatMap, hlengths]
  omega

/-! ## The lines as they are written -/

theorem isRow_pairLine (hleft : left.length + 2 ≤ first) (hright : right.length + 2 ≤ second) :
    IsRow [first, second + 1] [left, right] (pairLine first second left right) := by
  rw [pairLine_eq_rowLine]
  exact isRow_rowLine (List.cons_ne_nil _ _)
    (.cons hleft (.cons (hright.trans (Nat.le_succ second)) .nil))

/-- **The lines of an entry are its block**, where there is room for its
texts. -/
theorem showsEntry_entryLines {e : Entry} (hfirst : 2 ≤ first) (hsecond : 2 ≤ second)
    (hname : e.name.length + 2 ≤ first)
    (hdetails : ∀ detail ∈ e.details, detail.length + 2 ≤ second) :
    ShowsEntry [first, second + 1] e (entryLines first second e) where
  count := by
    rw [entryLines, List.length_cons, List.length_map, List.length_tail]
    omega
  row i line hline := by
    rw [entryLines] at hline
    cases i with
    | zero =>
      obtain rfl := Option.some.inj hline
      rw [if_pos rfl]
      cases hdet : e.details with
      | nil => exact isRow_pairLine hname hsecond
      | cons detail rest =>
        exact isRow_pairLine hname (hdetails detail (hdet ▸ List.mem_cons_self))
    | succ i =>
      rw [List.getElem?_cons_succ, List.getElem?_map, List.getElem?_tail] at hline
      obtain ⟨detail, hdetail, rfl⟩ := Option.map_eq_some_iff.1 hline
      rw [if_neg (Nat.succ_ne_zero i), hdetail, Option.getD_some]
      exact isRow_pairLine hfirst (hdetails detail (List.mem_of_getElem? hdetail))

/-- **The lines of a rebuilt table show its entries.** -/
theorem showsEntries_rebuiltLines (left right : Text) (body : List Entry) :
    ∃ first second, ShowsEntries left right body first second (rebuiltLines left right body) := by
  obtain ⟨first, hfirst⟩ : ∃ first, widest (left :: body.map (·.name)) + 2 = first := ⟨_, rfl⟩
  obtain ⟨second, hsecond⟩ : ∃ second, widest (right :: body.flatMap (·.details)) + 2 = second :=
    ⟨_, rfl⟩
  have hnames : IsColumnWidth (left :: body.map (·.name)) first :=
    hfirst ▸ isColumnWidth_widest (List.cons_ne_nil _ _)
  have hdetails : IsColumnWidth (right :: body.flatMap (·.details)) second :=
    hsecond ▸ isColumnWidth_widest (List.cons_ne_nil _ _)
  have hleft : left.length + 2 ≤ first := hnames.2 ⟨left, List.mem_cons_self, rfl⟩
  have hright : right.length + 2 ≤ second := hdetails.2 ⟨right, List.mem_cons_self, rfl⟩
  have hblock (e : Entry) (he : e ∈ body) :
      ShowsEntry [first, second + 1] e (entryLines first second e) := by
    refine showsEntry_entryLines (by omega) (by omega) ?_ fun detail hdetail => ?_
    · exact hnames.2 ⟨e.name, List.mem_cons_of_mem _ (List.mem_map_of_mem he), rfl⟩
    · exact hdetails.2 ⟨detail, List.mem_cons_of_mem _ (List.mem_flatMap_of_mem he hdetail), rfl⟩
  have hspacer : IsRow [first, second + 1] [] (pairLine first second [] []) := by
    have hblank : IsRow [first, second + 1] [[], []] (pairLine first second [] []) :=
      isRow_pairLine (by rw [List.length_nil]; omega) (by rw [List.length_nil]; omega)
    refine hblank.congr ?_
    rintro (_ | _ | j) hj <;> rfl
  have hrule := isRule_ruleLine (List.cons_ne_nil first [second + 1])
  refine ⟨first, second, hnames, hdetails, _, _, _, body.map (entryLines first second), ?_,
    isRow_pairLine hleft hright, hrule, hspacer, ?_⟩
  · rw [rebuiltLines, hfirst, hsecond, rule_eq_ruleLine]
  · exact List.forall₂_map_right_iff.2 (List.forall₂_same.2 hblock)

/-! ## Every rebuilt table -/

/-- Without a header in the grid the first entry takes its place. -/
theorem snd_headerCells (header : Option (List Text)) (found : List Entry) :
    (headerCells header found).2 = if header.isSome then found else found.tail := by
  match header, found with
  | some _, _ => rfl
  | none, [] => rfl
  | none, _ :: _ => rfl

theorem any_multiline_iff (body : List Entry) :
    (body.any fun e => 1 < e.details.length) = true ↔ ∃ e ∈ body, 2 ≤ e.details.length := by
  simp only [List.any_eq_true, decide_eq_true_eq]
  exact Iff.rfl

/-- A source with an entry is rebuilt, and the lines under the style show
what has been read. -/
theorem exists_rebuilt_showsEntries {grid : Grid} {span : List Text} (role : Option Text)
    (hspan : ∀ line ∈ span, '\n' ∉ line) (hheader : FlatHeader grid.header)
    (hfound : entries grid.header.isSome span ≠ [])
    (hhead : headerCells grid.header (entries grid.header.isSome span) = ((left, right), body)) :
    ∃ t first second lines, rebuilt grid span role = some t ∧
      t.splitOn '\n' =
        (styleLines role (body.any fun e => 1 < e.details.length)).flatMap (·.splitOn '\n') ++
          lines ∧
      ShowsEntries left right body first second lines := by
  have hflat := flat_headerCells hheader (flat_entries grid.header.isSome hspan)
  rw [hhead] at hflat
  obtain ⟨⟨hleft, hright⟩, hbody⟩ := hflat
  obtain ⟨first, second, hshows⟩ := showsEntries_rebuiltLines left right body
  exact ⟨_, first, second, rebuiltLines left right body, rebuilt_of_headerCells hfound hhead,
    splitOn_unlines_styleLines role _ (List.cons_ne_nil _ _) fun line hline =>
      (barred_rebuiltLines hleft hright hbody line hline).oneLine, hshows⟩

/-- Options of a program in two columns. There is no header, the first of
the options has an example of its use and the second one nothing. -/
def optionLines : List Text :=
  ["|Option |Meaning", [], "|--verbose a|", "[source,bash]", "----", "tree -v", "----", [],
    "|--quiet"]

end

end Table

end Treedown
