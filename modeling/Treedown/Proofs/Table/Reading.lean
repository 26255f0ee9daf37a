import Treedown.Proofs.Table.Source
/-!
# Tables — entries are read one by one

What a reader takes from a source is decided entry by entry. A line touches
no entry but the one that is open (`readLine_append`), so entries that are
complete stay as they are, and a source that is cut in front of a bar may
be read in two parts (`entries_append`). A header row is read like any
entry and left out afterwards (`entries_headerFirst`), and lines that open
no entry and belong to none leave no trace. `entries_oneByOne` collects
these laws.
-/

namespace Treedown

namespace Table

variable {line : Text} {lines : List Text} {opened old : List Entry} {headerFirst : Bool}

/-! ## A line and the entry that is open -/

/-- **A line without a bar in front belongs to the open entry.** -/
theorem readLine_of_open (h : startsWithBar line = false) (e : Entry) (before : List Entry) :
    Progress.readLine ⟨.body, e :: before⟩ line = ⟨.body, e.addLine line.trimEnd :: before⟩ := by
  have hblank : line.trimEnd.isEmpty = true → e.addLine line.trimEnd = e := fun hnil => by
    rw [List.isEmpty_iff.1 hnil]
    rfl
  unfold Progress.readLine
  split
  · rename_i t htrim
    exact absurd htrim (trimEnd_ne_cons_bar h t)
  · split
    · rename_i hskip
      rw [hblank (by simpa using hskip)]
    · rfl

/-- Inside a header row it belongs to the header. -/
theorem readLine_of_header (h : startsWithBar line = false) (es : List Entry) :
    Progress.readLine ⟨.header, es⟩ line = ⟨.header, es⟩ := by
  unfold Progress.readLine
  split
  · rename_i t htrim
    exact absurd htrim (trimEnd_ne_cons_bar h t)
  · exact if_pos (by simp)

/-- **A line touches the open entry alone.** The entries before it stay as
they are, and again an entry is open. -/
theorem readLine_append (h : opened ≠ []) (line : Text) :
    ∃ next, next ≠ [] ∧ ∀ old,
      Progress.readLine ⟨.body, opened ++ old⟩ line = ⟨.body, next ++ old⟩ := by
  cases hbar : startsWithBar line with
  | true =>
    obtain ⟨t, rfl⟩ := exists_cons_of_startsWithBar hbar
    exact ⟨openEntry (Text.trimEnd t) :: opened, List.cons_ne_nil _ _, fun old =>
      readLine_of_bar Stage.noConfusion t⟩
  | false =>
    obtain ⟨e, before, rfl⟩ := List.exists_cons_of_ne_nil h
    exact ⟨e.addLine line.trimEnd :: before, List.cons_ne_nil _ _, fun old =>
      readLine_of_open hbar e (before ++ old)⟩

/-- **So do all lines.** -/
theorem foldl_readLine_append (h : opened ≠ []) (lines : List Text) :
    ∃ next, ∀ old, lines.foldl Progress.readLine ⟨.body, opened ++ old⟩ = ⟨.body, next ++ old⟩ := by
  induction lines generalizing opened with
  | nil => exact ⟨opened, fun _ => rfl⟩
  | cons line rest ih =>
    obtain ⟨next, hne, hline⟩ := readLine_append h line
    obtain ⟨last, hrest⟩ := ih hne
    exact ⟨last, fun old => by rw [List.foldl_cons, hline, hrest]⟩

/-- From a bar on, what has been read before is left alone. -/
theorem entries_foldl_of_bar (hbar : ∀ line ∈ lines.head?, startsWithBar line = true)
    (old : List Entry) :
    (lines.foldl Progress.readLine ⟨.body, old⟩).entries =
      (lines.foldl Progress.readLine ⟨.body, []⟩).entries ++ old := by
  cases lines with
  | nil => rfl
  | cons line rest =>
    obtain ⟨t, rfl⟩ := exists_cons_of_startsWithBar (hbar line rfl)
    obtain ⟨next, hrest⟩ := foldl_readLine_append (List.cons_ne_nil (openEntry (Text.trimEnd t)) [])
      rest
    have hstep (old : List Entry) : Progress.readLine ⟨.body, old⟩ ('|' :: t) =
        ⟨.body, [openEntry (Text.trimEnd t)] ++ old⟩ :=
      readLine_of_bar Stage.noConfusion t
    rw [List.foldl_cons, List.foldl_cons, hstep, hstep, hrest, hrest, List.append_nil]

/-- **Lines without a bar in front are the details of the open entry**, each
without the white space at its end and without the style of a cell. What is
blank then adds nothing. -/
theorem foldl_readLine_of_open (h : ∀ line ∈ lines, startsWithBar line = false) (e : Entry)
    (before : List Entry) :
    lines.foldl Progress.readLine ⟨.body, e :: before⟩ =
      ⟨.body, { e with details := e.details ++
        (lines.map fun line => dropCellStyle line.trimEnd).filter (!Text.blank ·) } :: before⟩ := by
  induction lines generalizing e with
  | nil => simp
  | cons line rest ih =>
    obtain ⟨hline, hrest⟩ := List.forall_mem_cons.1 h
    rw [List.foldl_cons, readLine_of_open hline, ih hrest, Entry.addLine, List.map_cons]
    cases hblank : (dropCellStyle line.trimEnd).blank with
    | true => simp [hblank]
    | false => simp [hblank]

/-- Behind a header there is no other one. -/
theorem exists_foldl_readLine_body (lines : List Text) (es : List Entry) :
    ∃ read, lines.foldl Progress.readLine ⟨.body, es⟩ = ⟨.body, read⟩ := by
  induction lines generalizing es with
  | nil => exact ⟨es, rfl⟩
  | cons line rest ih =>
    rw [List.foldl_cons]
    cases hbar : startsWithBar line with
    | true =>
      obtain ⟨t, rfl⟩ := exists_cons_of_startsWithBar hbar
      rw [readLine_of_bar Stage.noConfusion]
      exact ih _
    | false =>
      cases es with
      | nil =>
        rw [(readLine_of_not_startsWithBar hbar ⟨.body, []⟩).2.2 rfl]
        exact ih []
      | cons e before =>
        rw [readLine_of_open hbar]
        exact ih _

/-! ## Entries -/

/-- An entry with the block that its details open expanded. -/
def Entry.expanded (e : Entry) : Entry :=
  { e with details := expand e.details }

/-- The entries of a source without a header row. -/
theorem entries_false (lines : List Text) : entries false lines =
    (lines.foldl Progress.readLine ⟨.body, []⟩).entries.reverse.map Entry.expanded := rfl

theorem entries_true (lines : List Text) : entries true lines =
    (lines.foldl Progress.readLine ⟨.headerAhead, []⟩).entries.reverse.map Entry.expanded := rfl

/-- **A source is read in parts**, where each part but the first starts with
a bar. -/
theorem entries_append {front back : List Text}
    (hbar : ∀ line ∈ back.head?, startsWithBar line = true) :
    entries false (front ++ back) = entries false front ++ entries false back := by
  obtain ⟨read, hfront⟩ := exists_foldl_readLine_body front []
  rw [entries_false, entries_false, entries_false, List.foldl_append, hfront,
    entries_foldl_of_bar hbar, List.reverse_append, List.map_append]

/-- **A header row is read like an entry.** Where a header has been passed
over, an entry would have been read, and all others are the same. -/
theorem exists_entries_foldl_header (lines : List Text) (e : Entry) :
    ∃ top, (lines.foldl Progress.readLine ⟨.body, [e]⟩).entries =
      (lines.foldl Progress.readLine ⟨.header, []⟩).entries ++ [top] := by
  induction lines generalizing e with
  | nil => exact ⟨e, rfl⟩
  | cons line rest ih =>
    rw [List.foldl_cons, List.foldl_cons]
    cases hbar : startsWithBar line with
    | true =>
      -- the header ends here
      obtain ⟨t, rfl⟩ := exists_cons_of_startsWithBar hbar
      obtain ⟨next, hrest⟩ :=
        foldl_readLine_append (List.cons_ne_nil (openEntry (Text.trimEnd t)) []) rest
      have hbody := hrest [e]
      have hheader := hrest []
      rw [List.append_nil, List.append_nil] at hheader
      refine ⟨e, ?_⟩
      rw [readLine_of_bar Stage.noConfusion, readLine_of_bar Stage.noConfusion]
      exact (congrArg Progress.entries hbody).trans
        (congrArg (·.entries ++ [e]) hheader).symm
    | false =>
      rw [readLine_of_open hbar, readLine_of_header hbar]
      exact ih _

/-- Lines in front of the first bar are not read. -/
theorem foldl_readLine_dropWhile (stage : Stage) (lines : List Text) :
    (lines.dropWhile (!startsWithBar ·)).foldl Progress.readLine ⟨stage, []⟩ =
      lines.foldl Progress.readLine ⟨stage, []⟩ := by
  induction lines with
  | nil => rfl
  | cons line rest ih =>
    cases hbar : startsWithBar line with
    | true => rw [List.dropWhile_cons_of_neg (by simp [hbar])]
    | false =>
      rw [List.dropWhile_cons_of_pos (by simp [hbar]), ih, List.foldl_cons,
        (readLine_of_not_startsWithBar hbar ⟨stage, []⟩).2.2 rfl]

/-- Nor are blank lines, wherever they stand. -/
theorem foldl_readLine_filter (p : Progress) (lines : List Text) :
    (lines.filter (!Text.blank ·)).foldl Progress.readLine p = lines.foldl Progress.readLine p := by
  induction lines generalizing p with
  | nil => rfl
  | cons line rest ih =>
    cases hblank : line.blank with
    | true =>
      rw [List.filter_cons_of_neg (by simp [hblank]), ih, List.foldl_cons, readLine_of_blank hblank]
    | false =>
      rw [List.filter_cons_of_pos (by simp [hblank]), List.foldl_cons, List.foldl_cons, ih]

/-- What is in front of the first bar brings no entry. -/
theorem entries_dropWhile (headerFirst : Bool) (lines : List Text) :
    entries headerFirst (lines.dropWhile (!startsWithBar ·)) = entries headerFirst lines := by
  rw [entries, foldl_readLine_dropWhile, entries]

/-- Blank lines bring nothing. -/
theorem entries_filter (headerFirst : Bool) (lines : List Text) :
    entries headerFirst (lines.filter (!Text.blank ·)) = entries headerFirst lines := by
  rw [entries, foldl_readLine_filter, entries]

/-- **The header is the first of the entries**, and it is left out. -/
theorem entries_headerFirst (lines : List Text) :
    entries true lines = (entries false lines).tail := by
  rw [← entries_dropWhile true, ← entries_dropWhile false]
  cases hlines : lines.dropWhile (!startsWithBar ·) with
  | nil => rfl
  | cons line rest =>
    obtain ⟨-, -, hbar, -⟩ := Text.exists_of_dropWhile_eq_cons hlines
    obtain ⟨t, rfl⟩ := exists_cons_of_startsWithBar hbar
    obtain ⟨top, htop⟩ := exists_entries_foldl_header rest (openEntry (Text.trimEnd t))
    rw [entries_true, entries_false, List.foldl_cons, List.foldl_cons, readLine_cons_bar, if_pos rfl,
      readLine_of_bar Stage.noConfusion, htop, List.reverse_concat]
    rfl

/-- **A header stays in its part**: what is read behind the next bar does
not depend on it. -/
theorem entries_headerFirst_append {front back : List Text}
    (hfront : 0 < front.countP startsWithBar)
    (hback : ∀ line ∈ back.head?, startsWithBar line = true) :
    entries true (front ++ back) = entries true front ++ entries false back := by
  have hne : entries false front ≠ [] := fun hnil => by
    have hlength := length_entries false front
    rw [hnil, List.length_nil] at hlength
    simp only [Bool.false_eq_true, if_false] at hlength
    omega
  rw [entries_headerFirst, entries_headerFirst, entries_append hback,
    List.tail_append_of_ne_nil hne]

/-- **An entry among others** is read as it is alone. There are as many
entries before it as there are bars between the header and it. -/
theorem exists_entries_of_singleton {front back : List Text} {e : Entry}
    (hfront : 0 < front.countP startsWithBar) (hlines : entries false lines = [e])
    (hbar : ∀ line ∈ lines.head?, startsWithBar line = true)
    (hback : ∀ line ∈ back.head?, startsWithBar line = true) :
    ∃ earlier later, earlier.length + 1 = front.countP startsWithBar ∧
      entries true (front ++ (lines ++ back)) = earlier ++ e :: later := by
  have hhead : ∀ line ∈ (lines ++ back).head?, startsWithBar line = true := by
    cases lines with
    | nil => exact hback
    | cons line rest => exact hbar
  refine ⟨entries true front, entries false back, ?_, ?_⟩
  · rw [length_entries, if_pos rfl]
    omega
  · rw [entries_headerFirst_append hfront hhead, entries_append hback, hlines,
      List.singleton_append]

/-- The lines behind a header belong to it, up to the next bar. -/
theorem entries_headerFirst_of_bar {top : Text} {behind rest : List Text}
    (htop : startsWithBar top = true) (hbehind : ∀ line ∈ behind, startsWithBar line = false)
    (hrest : ∀ line ∈ rest.head?, startsWithBar line = true) :
    entries true (top :: behind ++ rest) = entries false rest := by
  have hone : (top :: behind).countP startsWithBar = 1 := by
    rw [List.countP_cons_of_pos htop,
      List.countP_eq_zero.2 fun line hline => by simp [hbehind line hline]]
  have hnil : entries true (top :: behind) = [] := by
    rw [← List.length_eq_zero_iff, length_entries, hone]
    rfl
  rw [entries_headerFirst_append (by omega) hrest, hnil, List.nil_append]

/-- **Entries are read one by one.** A source that is cut in front of a bar
has the entries of its two parts. A header row takes the place of the first
entry, with all lines up to the next bar, and is left out. There are as many
entries as there are lines with a bar in front; neither the lines before the
first of these nor blank lines have a say. -/
theorem entries_oneByOne {front back : List Text}
    (hbar : ∀ line ∈ back.head?, startsWithBar line = true) (lines : List Text) :
    entries false (front ++ back) = entries false front ++ entries false back ∧
      entries true lines = (entries false lines).tail ∧
      (∀ top behind, startsWithBar top = true → (∀ line ∈ behind, startsWithBar line = false) →
        entries true (top :: behind ++ back) = entries false back) ∧
      (entries false lines).length = lines.countP startsWithBar ∧
      ∀ headerFirst, entries headerFirst (lines.dropWhile (!startsWithBar ·)) =
          entries headerFirst lines ∧
        entries headerFirst (lines.filter (!Text.blank ·)) = entries headerFirst lines :=
  ⟨entries_append hbar, entries_headerFirst lines,
    fun _ _ htop hbehind => entries_headerFirst_of_bar htop hbehind hbar,
    length_entries false lines,
    fun headerFirst => ⟨entries_dropWhile headerFirst lines, entries_filter headerFirst lines⟩⟩

/-- A header of two lines, with a line in front of it and a blank one
behind it. -/
def headLines : List Text :=
  ["no entry yet", "|Key |Value", "of a key", "  "]

/-- Two entries, the first of two lines. -/
def bodyLines : List Text :=
  ["|a 2+|one", [], "a|two", "|b"]

/-- The header and the entries behind it. -/
theorem entries_oneByOne_bodyLines :
    entries true (headLines ++ bodyLines) = [⟨"a", ["one", "two"]⟩, ⟨"b", []⟩] ∧
      (∀ line ∈ bodyLines.head?, startsWithBar line = true) ∧
      entries false (headLines ++ bodyLines) = entries false headLines ++ entries false bodyLines ∧
      entries true (headLines ++ bodyLines) = (entries false (headLines ++ bodyLines)).tail ∧
      entries true ("|Key |Value".toList :: ["of a key"] ++ bodyLines) = entries false bodyLines ∧
      (entries false (headLines ++ bodyLines)).length = 3 := by
  have hbar : ∀ line ∈ bodyLines.head?, startsWithBar line = true := by
    rintro line ⟨⟩
    rfl
  obtain ⟨happend, htail, hheader, hlength, -⟩ :=
    @entries_oneByOne headLines bodyLines hbar (headLines ++ bodyLines)
  exact ⟨by decide +kernel, hbar, happend, htail,
    hheader "|Key |Value" ["of a key"] rfl (List.forall_mem_singleton.2 rfl),
    hlength.trans (by decide)⟩

end Table

end Treedown
