import Treedown.Proofs.Table.Blocks
import Treedown.Proofs.Table.Reading
/-!
# Tables — code in a cell

In the source of a table a cell may hold a block of code: behind the line
that names the entry come a line that announces the source, a fence, the
lines of code and another fence. Such a cell is taken from the source as it
is meant: its lines are put between fences of the output, each on a line of
its own, with the spaces that it starts with (`entries_of_isCodeCell`). The
entries around it have no say in this, since entries are read one by one.
`table_codeCell` follows such a cell into the table.
-/

namespace Treedown

namespace Table

variable {line label opening closing name : Text} {code lines : List Text}

/-! ## The lines of a cell with code -/

/-- **A line that is taken as it is**: it opens neither an entry nor a cell
with a style. -/
structure IsPlain (line : Text) : Prop where
  bar : startsWithBar line = false
  style : ∀ c rest, isStyle c = true → line ≠ c :: '|' :: rest

/-- **A line of code**, which is no fence either. A fence is one whatever
white space stands around it. -/
structure IsCode (line : Text) : Prop extends IsPlain line where
  fence : isCodeFence line = false

/-- **The source of an entry with code**: its name, a line that announces
the source, and the code between two fences. -/
structure IsCodeCell (name : Text) (code lines : List Text) : Prop where
  trim : name.trim = name
  bar : '|' ∉ name
  block : ∃ label opening closing : Text, "[source".toList <+: label ∧ isCodeFence opening = true ∧
    isCodeFence closing = true ∧
    lines = ('|' :: name ++ (" a|" : Text)) :: label :: opening :: code ++ [closing]
  code : ∀ line ∈ code, IsCode line

/-- Lines as they are kept: without the blank ones among them and without
white space at their ends. -/
def keptLines (lines : List Text) : List Text :=
  (lines.filter (!Text.blank ·)).map Text.trimEnd

/-- Code as it is shown, between two fences. -/
def shownCode (code : List Text) : List Text :=
  ("```" : Text) :: keptLines code ++ [("```" : Text)]

/-! ## Which lines are plain -/

theorem isBlank_of_isStyle {c : Char} (h : isStyle c = true) : isBlank c = false := by
  by_contra hblank
  have hno : (!isStyle c) = true :=
    of_isBlank (p := fun c => !isStyle c) (by decide) (by simpa using hblank)
  simp [h] at hno

/-- A fence starts with its own characters, behind white space at most. -/
theorem eq_of_isCodeFence_cons {c : Char} {rest : Text} (hc : isBlank c = false)
    (h : isCodeFence (c :: rest) = true) : c = '-' ∨ c = '`' := by
  rw [isCodeFence, Text.trim_cons hc, Bool.or_eq_true, decide_eq_true_eq,
    List.isPrefixOf_iff_prefix] at h
  rcases h with h | h
  · exact .inl (List.cons.inj h).1
  · exact .inr (List.cons_prefix_cons.1 h).1.symm

theorem isPlain_of_isCodeFence (h : isCodeFence line = true) : IsPlain line where
  bar := by
    by_contra hbar
    obtain ⟨t, rfl⟩ := exists_cons_of_startsWithBar (by simpa using hbar)
    rcases eq_of_isCodeFence_cons (by decide) h with hc | hc <;> exact absurd hc (by decide)
  style c rest hc hline := by
    rw [hline] at h
    rcases eq_of_isCodeFence_cons (isBlank_of_isStyle hc) h with rfl | rfl
    · exact absurd hc (by decide)
    · exact absurd hc (by decide)

/-- A style needs a bar behind it. -/
theorem isPlain_of_second (hbar : startsWithBar line = false) (h : line.tail.head? ≠ some '|') :
    IsPlain line :=
  ⟨hbar, fun _ _ _ hline => h (by rw [hline]; rfl)⟩

theorem isPlain_of_source (h : "[source".toList <+: line) : IsPlain line := by
  obtain ⟨rest, rfl⟩ := h
  exact isPlain_of_second rfl (by simp)

theorem blank_of_isCodeFence (h : isCodeFence line = true) : line.blank = false := by
  by_contra hblank
  rw [isCodeFence, Text.trim_eq_nil_iff.2 (by simpa using hblank)] at h
  exact absurd h (by decide)

theorem blank_of_source (h : "[source".toList <+: line) : line.blank = false := by
  obtain ⟨rest, rfl⟩ := h
  rfl

/-! ## Reading plain lines -/

/-- **A plain line is kept as it is**, without the white space at its
end. -/
theorem dropCellStyle_of_isPlain (h : IsPlain line) :
    dropCellStyle line.trimEnd = line.trimEnd := by
  unfold dropCellStyle
  split
  · rename_i c rest hline
    split
    · rename_i hstyle
      obtain ⟨run, -, hrun⟩ := Text.dropEndWhile_append_run isBlank line
      rw [← Text.trimEnd, hline] at hrun
      exact absurd hrun (h.style c (rest ++ run) (Bool.and_eq_true_iff.1 hstyle).1)
    · rfl
  · rfl

/-- **Plain lines are the details of the open entry.** -/
theorem foldl_readLine_of_isPlain (h : ∀ line ∈ lines, IsPlain line) (e : Entry)
    (before : List Entry) :
    lines.foldl Progress.readLine ⟨.body, e :: before⟩ =
      ⟨.body, { e with details := e.details ++ keptLines lines } :: before⟩ := by
  have hkept : (lines.map fun line => dropCellStyle line.trimEnd).filter (!Text.blank ·) =
      keptLines lines := by
    rw [List.map_congr_left fun line hline => dropCellStyle_of_isPlain (h line hline),
      List.filter_map, keptLines]
    simp only [Function.comp_def, Text.blank_trimEnd]
  rw [foldl_readLine_of_open fun line hline => (h line hline).bar, hkept]

/-- **A cell gives up the specification of the next one.** -/
theorem dropCellSpec_append_spec {front spec : Text} (hspec : isCellSpec spec = true)
    (hfree : ∀ c ∈ spec, isBlank c = false) :
    dropCellSpec (front ++ ' ' :: spec) = front.trimEnd := by
  have hsplit : front ++ ' ' :: spec = (front ++ [' ']) ++ spec := by simp
  have hkeep : (front ++ ' ' :: spec).dropEndWhile (!isBlank ·) = front ++ [' '] := by
    rw [hsplit, Text.dropEndWhile_append_of_forall fun c hc => by simp [hfree c hc],
      Text.dropEndWhile_concat front (by decide)]
  have hdrop : (front ++ ' ' :: spec).drop (front ++ [' ']).length = spec := by
    rw [hsplit, List.drop_left]
  rw [dropCellSpec, hkeep, hdrop, if_neg (by simp [hspec])]
  exact Text.dropEndWhile_append_of_forall fun c hc => by
    rw [List.mem_singleton.1 hc]
    decide

/-- The line in front names the entry and leaves its second cell open. -/
theorem openEntry_name (htrim : name.trim = name) (hbar : '|' ∉ name) :
    openEntry (Text.trimEnd (name ++ (" a|" : Text))) = ⟨name, []⟩ := by
  have hend : Text.trimEnd (name ++ (" a|" : Text)) = (name ++ " a".toList) ++ ['|'] := by
    have hconcat : name ++ (" a|" : Text) = (name ++ " a".toList) ++ ['|'] := by simp
    rw [hconcat, Text.trimEnd_append_cons _ _ (by decide)]
    rfl
  have hcut : Text.cutAt '|' ((name ++ " a".toList) ++ ['|']) = some (name ++ " a".toList, []) := by
    refine Text.cutAt_eq_some_iff.2 ⟨fun hmem => ?_, rfl⟩
    rcases List.mem_append.1 hmem with hmem | hmem
    · exact hbar hmem
    · exact absurd hmem (by decide)
  have hspec : isCellSpec ['a'] = true := by decide
  have hcell : dropCellSpec (name ++ " a".toList) = name.trimEnd :=
    dropCellSpec_append_spec hspec (List.forall_mem_singleton.2 rfl)
  rw [hend, openEntry, hcut]
  dsimp only
  rw [hcell, Text.trimEnd_eq_self_of_trim htrim, htrim]
  rfl

/-! ## Expanding the block -/

/-- **The code is what stands behind the first fence**, up to the next one or
to the end. -/
theorem codeLines_of_opening {front back : List Text}
    (hfront : ∀ line ∈ front, isCodeFence line = false) (hopening : isCodeFence opening = true)
    (hcode : ∀ line ∈ code, isCodeFence line = false)
    (hback : ∀ line ∈ back.head?, isCodeFence line = true) :
    codeLines (front ++ opening :: code ++ back) = code := by
  have hnot {lines : List Text} (h : ∀ line ∈ lines, isCodeFence line = false) :
      ∀ line ∈ lines, (!isCodeFence line) = true := fun line hline => by
    rw [h line hline]
    rfl
  rw [codeLines, List.append_assoc, List.dropWhile_append_of_pos (hnot hfront), List.cons_append,
    List.dropWhile_cons_of_neg (by simp [hopening])]
  dsimp only
  rw [List.takeWhile_append_of_pos (hnot hcode)]
  cases back with
  | nil => rw [List.takeWhile_nil, List.append_nil]
  | cons closing back =>
    rw [List.takeWhile_cons_of_neg (by simp [hback closing rfl]), List.append_nil]

theorem isCodeFence_trimEnd (line : Text) : isCodeFence line.trimEnd = isCodeFence line := by
  rw [isCodeFence, Text.trim_trimEnd, isCodeFence]

/-- **A block of code is put between fences of the output.** -/
theorem expand_of_source (hsource : "[source".toList <+: label)
    (hopening : isCodeFence opening = true) (hcode : ∀ line ∈ code, isCodeFence line = false)
    (hclosing : isCodeFence closing = true) :
    expand (label.trimEnd :: opening.trimEnd :: keptLines code ++ [closing.trimEnd]) =
      shownCode code := by
  have htrim : "[source".toList.isPrefixOf label.trimEnd.trim = true := by
    obtain ⟨rest, rfl⟩ := hsource
    have hfront : Text.trim ("[source".toList ++ rest) =
        '[' :: Text.trimEnd ("source".toList ++ rest) :=
      Text.trim_cons (by decide) _
    have hend : Text.trimEnd ("source".toList ++ rest) =
        "sourc".toList ++ 'e' :: Text.trimEnd rest :=
      Text.trimEnd_append_cons "sourc".toList rest (by decide)
    rw [Text.trim_trimEnd, List.isPrefixOf_iff_prefix, hfront, hend]
    exact ⟨Text.trimEnd rest, rfl⟩
  have hkept : ∀ line ∈ keptLines code, isCodeFence line = false := by
    intro line hline
    obtain ⟨old, hold, rfl⟩ := List.mem_map.1 hline
    rw [isCodeFence_trimEnd]
    exact hcode old (List.mem_of_mem_filter hold)
  have hclose : ∀ line ∈ [closing.trimEnd].head?, isCodeFence line = true := by
    rintro line ⟨⟩
    rwa [isCodeFence_trimEnd]
  have hlines : codeLines ([] ++ opening.trimEnd :: keptLines code ++ [closing.trimEnd]) =
      keptLines code :=
    codeLines_of_opening (List.forall_mem_nil _) (by rwa [isCodeFence_trimEnd]) hkept hclose
  rw [List.nil_append] at hlines
  rw [List.cons_append, expand, if_pos htrim, hlines]
  rfl

/-- **A cell with code is read as an entry that shows the code.** -/
theorem entries_of_isCodeCell (h : IsCodeCell name code lines) :
    entries false lines = [⟨name, shownCode code⟩] := by
  obtain ⟨label, opening, closing, hsource, hopening, hclosing, rfl⟩ := h.block
  have hplain : ∀ line ∈ label :: opening :: code ++ [closing], IsPlain line := by
    intro line hline
    simp only [List.cons_append, List.mem_cons, List.mem_append, List.not_mem_nil, or_false] at hline
    rcases hline with rfl | rfl | hline | rfl
    · exact isPlain_of_source hsource
    · exact isPlain_of_isCodeFence hopening
    · exact (h.code line hline).toIsPlain
    · exact isPlain_of_isCodeFence hclosing
  have hkept : keptLines (label :: opening :: code ++ [closing]) =
      label.trimEnd :: opening.trimEnd :: keptLines code ++ [closing.trimEnd] := by
    simp [keptLines, blank_of_source hsource, blank_of_isCodeFence hopening,
      blank_of_isCodeFence hclosing]
  have hexpand := expand_of_source hsource hopening (fun line hline => (h.code line hline).fence)
    hclosing
  rw [entries_false, List.cons_append, List.cons_append, List.foldl_cons,
    readLine_of_bar Stage.noConfusion, openEntry_name h.trim h.bar, foldl_readLine_of_isPlain hplain]
  rw [List.nil_append, hkept]
  simp only [List.reverse_singleton, List.map_cons, List.map_nil, Entry.expanded, hexpand]

/-- **Among other entries** it is the one that is read in its place. There
are as many entries before it as there are bars between the header and
it. -/
theorem exists_entries_of_isCodeCell {above before after : List Text} {top : Text}
    (habove : ∀ line ∈ above, startsWithBar line = false) (htop : startsWithBar top = true)
    (h : IsCodeCell name code lines)
    (hafter : ∀ line ∈ after.head?, startsWithBar line = true) :
    ∃ earlier later, earlier.length = before.countP startsWithBar ∧
      entries true (above ++ top :: before ++ (lines ++ after)) =
        earlier ++ ⟨name, shownCode code⟩ :: later := by
  have hcount : (above ++ top :: before).countP startsWithBar =
      before.countP startsWithBar + 1 := by
    rw [List.countP_append, List.countP_cons_of_pos htop,
      List.countP_eq_zero.2 fun line hline => by simp [habove line hline], Nat.zero_add]
  have hbar : ∀ line ∈ lines.head?, startsWithBar line = true := by
    obtain ⟨label, opening, closing, -, -, -, rfl⟩ := h.block
    rintro line ⟨⟩
    rfl
  have hfront : 0 < (above ++ top :: before).countP startsWithBar := by omega
  obtain ⟨earlier, later, hlength, hentries⟩ :=
    exists_entries_of_singleton hfront (entries_of_isCodeCell h) hbar hafter
  exact ⟨earlier, later, by omega, hentries⟩

end Table

namespace Render

open Table

/-- An option of a program with an example of its use. The second line of
the example is indented, and a blank one stands before it. -/
def exampleCell : List Text :=
  ["|--verbose a|", "[source,bash]", "----", "tree -v", [], "  --all  ", "----"]

/-- The options of a program: a header, two lines in front of the example
and one behind it. -/
def usageLines : List Text :=
  "|===".toList :: "|Option |Use".toList :: ["|--quiet |Silence.".toList, []] ++
    (exampleCell ++ ["|--all".toList, "|===".toList])

/-- The table of these options. -/
def usageTable : Fields :=
  { Fields.empty with
    grid := some
      { header := some ["Option", "Use"]
        rows := []
        columns := none
        source := some ⟨none, none, some usageLines⟩ } }

theorem isCodeCell_exampleCell :
    IsCodeCell "--verbose" ["tree -v", [], "  --all  "] exampleCell := by
  refine ⟨by decide, by decide, ⟨"[source,bash]", "----", "----", by decide, by decide, by decide,
    rfl⟩, ?_⟩
  simp only [List.forall_mem_cons]
  exact ⟨⟨isPlain_of_second (by decide) (by decide), by decide⟩,
    ⟨isPlain_of_second (by decide) (by decide), by decide⟩,
    ⟨isPlain_of_second (by decide) (by decide), by decide⟩, List.forall_mem_nil _⟩

end Render

end Treedown
