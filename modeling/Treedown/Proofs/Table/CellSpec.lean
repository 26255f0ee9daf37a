import Treedown.Proofs.Text.Cut
import Treedown.Proofs.Text.Trim
import Treedown.Table.Entry
/-!
# Tables — the specification of a cell

The specification of the next cell may stand at the end of a cell, behind
white space. `CellSpec` is its grammar: five parts one after the other,
each of which may be missing. The reader drops one part after the other
from the front; as no part can begin like a later one, it drops everything
just if the text is a specification (`isCellSpec_iff`). A cell that does
not end so is left as it is (`dropCellSpec_of_not`).
-/

namespace Treedown

namespace Table

/-! ## The parts -/

/-- A part of a specification that may be missing. -/
def Missable (P : Text → Prop) (t : Text) : Prop :=
  t = [] ∨ P t

/-- Decimal digits, at least one. -/
def IsNumber (t : Text) : Prop :=
  t ≠ [] ∧ ∀ c ∈ t, isDigit c = true

/-- A repetition: a number and a star. -/
def IsRepetition (t : Text) : Prop :=
  ∃ n, IsNumber n ∧ t = n ++ ['*']

/-- A span: digits, a point with a number, both of which may be missing,
and a plus. -/
def IsSpan (t : Text) : Prop :=
  ∃ n m, (∀ c ∈ n, isDigit c = true) ∧ Missable (fun m => ∃ k, IsNumber k ∧ m = '.' :: k) m ∧
    t = n ++ m ++ ['+']

/-- A horizontal alignment. -/
def IsHorizontal (t : Text) : Prop :=
  ∃ c, isAlignment c = true ∧ t = [c]

/-- A vertical alignment. -/
def IsVertical (t : Text) : Prop :=
  ∃ c, isAlignment c = true ∧ t = ['.', c]

/-- The letter of a style. -/
def IsStyle (t : Text) : Prop :=
  ∃ c, isStyle c = true ∧ t = [c]

/-- **The specification of a cell.** -/
def CellSpec (t : Text) : Prop :=
  ∃ repetition span horizontal vertical style, Missable IsRepetition repetition ∧
    Missable IsSpan span ∧ Missable IsHorizontal horizontal ∧ Missable IsVertical vertical ∧
      Missable IsStyle style ∧ t = repetition ++ (span ++ (horizontal ++ (vertical ++ style)))

/-- **A cell ends in white space and a specification.** -/
def EndsInCellSpec (cell : Text) : Prop :=
  ∃ front gap spec, gap ≠ [] ∧ (∀ c ∈ gap, isBlank c = true) ∧ CellSpec spec ∧
    cell = front ++ gap ++ spec

/-! ## What is dropped is a part -/

variable {part rest t : Text}

theorem IsNumber.takeWhile (h : (t.takeWhile isDigit).length ≠ 0) :
    IsNumber (t.takeWhile isDigit) :=
  ⟨fun hnil => h (by rw [hnil]; rfl), fun _ hc => List.mem_takeWhile_imp hc⟩

theorem dropFactor_split (t : Text) :
    ∃ part, Missable IsRepetition part ∧ t = part ++ dropFactor '*' t := by
  unfold dropFactor
  split
  · rename_i d rest heq
    split
    · rename_i hd
      refine ⟨t.takeWhile isDigit ++ ['*'], .inr ⟨_, .takeWhile hd.2, rfl⟩, ?_⟩
      have := List.takeWhile_append_dropWhile (p := isDigit) (l := t)
      rw [heq, hd.1] at this
      simpa using this.symm
    · exact ⟨[], .inl rfl, rfl⟩
  · exact ⟨[], .inl rfl, rfl⟩

theorem fraction?_eq_some (h : fraction? t = some rest) :
    ∃ k, IsNumber k ∧ t = '.' :: k ++ rest := by
  unfold fraction? at h
  split at h
  · rename_i t
    split at h
    · cases h
    · rename_i hne
      cases h
      refine ⟨t.takeWhile isDigit, .takeWhile ?_, ?_⟩
      · simpa using hne
      · rw [List.cons_append, List.takeWhile_append_dropWhile]
  · cases h

theorem dropSpan_split (t : Text) : ∃ part, Missable IsSpan part ∧ t = part ++ dropSpan t := by
  have hdigits := List.takeWhile_append_dropWhile (p := isDigit) (l := t)
  have hall : ∀ c ∈ t.takeWhile isDigit, isDigit c = true := fun _ hc =>
    List.mem_takeWhile_imp hc
  unfold dropSpan
  simp only
  split
  · rename_i rest heq
    cases hf : fraction? (t.dropWhile isDigit) with
    | none =>
      rw [hf, Option.getD_none] at heq
      rw [heq] at hdigits
      refine ⟨t.takeWhile isDigit ++ [] ++ ['+'], .inr ⟨_, [], hall, .inl rfl, rfl⟩, ?_⟩
      simpa using hdigits.symm
    | some after =>
      obtain ⟨k, hk, hdrop⟩ := fraction?_eq_some hf
      rw [hf, Option.getD_some] at heq
      rw [hdrop, heq] at hdigits
      refine ⟨t.takeWhile isDigit ++ ('.' :: k) ++ ['+'],
        .inr ⟨_, _, hall, .inr ⟨k, hk, rfl⟩, rfl⟩, ?_⟩
      simpa using hdigits.symm
  · exact ⟨[], .inl rfl, rfl⟩

theorem dropHorizontal_split (t : Text) :
    ∃ part, Missable IsHorizontal part ∧ t = part ++ dropHorizontal t := by
  unfold dropHorizontal
  split
  · rename_i c rest
    split
    · rename_i hc
      exact ⟨[c], .inr ⟨c, hc, rfl⟩, rfl⟩
    · exact ⟨[], .inl rfl, rfl⟩
  · exact ⟨[], .inl rfl, rfl⟩

theorem dropVertical_split (t : Text) :
    ∃ part, Missable IsVertical part ∧ t = part ++ dropVertical t := by
  unfold dropVertical
  split
  · rename_i c rest
    split
    · rename_i hc
      exact ⟨['.', c], .inr ⟨c, hc, rfl⟩, rfl⟩
    · exact ⟨[], .inl rfl, rfl⟩
  · exact ⟨[], .inl rfl, rfl⟩

theorem dropStyle_split (t : Text) : ∃ part, Missable IsStyle part ∧ t = part ++ dropStyle t := by
  unfold dropStyle
  split
  · rename_i c rest
    split
    · rename_i hc
      exact ⟨[c], .inr ⟨c, hc, rfl⟩, rfl⟩
    · exact ⟨[], .inl rfl, rfl⟩
  · exact ⟨[], .inl rfl, rfl⟩

/-! ## A part is dropped -/

theorem dropFactor_append (h : Missable IsRepetition part) (hrest : '*' ∉ rest) :
    dropFactor '*' (part ++ rest) = rest := by
  rcases h with rfl | ⟨n, ⟨hne, hn⟩, rfl⟩
  · rw [List.nil_append, dropFactor]
    split
    · rename_i d rest' heq
      rw [if_neg]
      rintro ⟨rfl, -⟩
      have : '*' ∈ rest.dropWhile isDigit := by rw [heq]; exact List.mem_cons_self
      exact hrest ((List.dropWhile_suffix isDigit).subset this)
    · rfl
  · have hstar : isDigit '*' = false := by decide
    rw [dropFactor, List.append_assoc, List.singleton_append, Text.dropWhile_run hn hstar,
      Text.takeWhile_run hn hstar]
    simp [hne]

theorem dropSpan_append (h : Missable IsSpan part) (hrest : '+' ∉ rest) :
    dropSpan (part ++ rest) = rest := by
  have hplus : isDigit '+' = false := by decide
  have hdot : isDigit '.' = false := by decide
  rcases h with rfl | ⟨n, m, hn, rfl | ⟨k, ⟨hne, hk⟩, rfl⟩, rfl⟩
  · rw [List.nil_append, dropSpan]
    split
    · -- a span would be read up to a plus sign, of which there is none
      rename_i rest' heq
      have hsub : '+' ∈ (fraction? (rest.dropWhile isDigit)).getD (rest.dropWhile isDigit) := by
        rw [heq]
        exact List.mem_cons_self
      refine absurd ((List.dropWhile_suffix isDigit).subset ?_) hrest
      cases hf : fraction? (rest.dropWhile isDigit) with
      | none => rwa [hf] at hsub
      | some after =>
        obtain ⟨k, -, hdrop⟩ := fraction?_eq_some hf
        rw [hf] at hsub
        rw [hdrop]
        exact List.mem_append_right _ hsub
    · rfl
  · rw [show n ++ [] ++ ['+'] ++ rest = n ++ '+' :: rest by simp, dropSpan,
      Text.dropWhile_run hn hplus]
    rfl
  · have hfraction : fraction? ('.' :: (k ++ '+' :: rest)) = some ('+' :: rest) := by
      rw [fraction?, Text.takeWhile_run hk hplus, Text.dropWhile_run hk hplus]
      simp [hne]
    rw [show n ++ '.' :: k ++ ['+'] ++ rest = n ++ '.' :: (k ++ '+' :: rest) by simp, dropSpan,
      Text.dropWhile_run hn hdot, hfraction]
    rfl

theorem dropHorizontal_append (h : Missable IsHorizontal part)
    (hrest : ∀ c ∈ rest.head?, isAlignment c = false) : dropHorizontal (part ++ rest) = rest := by
  rcases h with rfl | ⟨c, hc, rfl⟩
  · cases rest with
    | nil => rfl
    | cons c rest => simp [dropHorizontal, hrest c rfl]
  · simp [dropHorizontal, hc]

theorem dropVertical_append (h : Missable IsVertical part) (hrest : ∀ c ∈ rest.head?, c ≠ '.') :
    dropVertical (part ++ rest) = rest := by
  rcases h with rfl | ⟨c, hc, rfl⟩
  · rw [List.nil_append, dropVertical.eq_def]
    split
    · exact absurd rfl (hrest '.' rfl)
    · rfl
  · simp [dropVertical, hc]

theorem dropStyle_of (h : Missable IsStyle part) : dropStyle part = [] := by
  rcases h with rfl | ⟨c, hc, rfl⟩
  · rfl
  · simp [dropStyle, hc]

/-! ## The specification -/

theorem CellSpec.of_isCellSpec (h : isCellSpec t = true) : CellSpec t := by
  obtain ⟨a, ha, hat⟩ := dropFactor_split t
  obtain ⟨b, hb, hbt⟩ := dropSpan_split (dropFactor '*' t)
  obtain ⟨c, hc, hct⟩ := dropHorizontal_split (dropSpan (dropFactor '*' t))
  obtain ⟨d, hd, hdt⟩ := dropVertical_split (dropHorizontal (dropSpan (dropFactor '*' t)))
  obtain ⟨e, he, het⟩ :=
    dropStyle_split (dropVertical (dropHorizontal (dropSpan (dropFactor '*' t))))
  rw [isCellSpec, List.isEmpty_iff] at h
  rw [h, List.append_nil] at het
  exact ⟨a, b, c, d, e, ha, hb, hc, hd, he, by rw [← het, ← hdt, ← hct, ← hbt, ← hat]⟩

theorem mem_of_missable_span {c : Char} (h : Missable IsSpan part) (hc : c ∈ part) :
    isDigit c = true ∨ c = '.' ∨ c = '+' := by
  rcases h with rfl | ⟨n, m, hn, hm, rfl⟩
  · cases hc
  · rcases List.mem_append.1 hc with hc | hc
    · rcases List.mem_append.1 hc with hc | hc
      · exact .inl (hn c hc)
      · rcases hm with rfl | ⟨k, hk, rfl⟩
        · cases hc
        · rcases List.mem_cons.1 hc with rfl | hc
          · exact .inr (.inl rfl)
          · exact .inl (hk.2 c hc)
    · exact .inr (.inr (List.mem_singleton.1 hc))

theorem mem_of_missable_alignments {horizontal vertical style : Text} {c : Char}
    (hh : Missable IsHorizontal horizontal) (hv : Missable IsVertical vertical)
    (hs : Missable IsStyle style) (hc : c ∈ horizontal ++ (vertical ++ style)) :
    isAlignment c = true ∨ c = '.' ∨ isStyle c = true := by
  rcases List.mem_append.1 hc with hc | hc
  · rcases hh with rfl | ⟨a, ha, rfl⟩
    · cases hc
    · exact .inl (by rwa [List.mem_singleton.1 hc])
  · rcases List.mem_append.1 hc with hc | hc
    · rcases hv with rfl | ⟨a, ha, rfl⟩
      · cases hc
      · rcases List.mem_cons.1 hc with rfl | hc
        · exact .inr (.inl rfl)
        · exact .inl (by rwa [List.mem_singleton.1 hc])
    · rcases hs with rfl | ⟨a, ha, rfl⟩
      · cases hc
      · exact .inr (.inr (by rwa [List.mem_singleton.1 hc]))

theorem isCellSpec_of (h : CellSpec t) : isCellSpec t = true := by
  obtain ⟨repetition, span, horizontal, vertical, style, hr, hp, hh, hv, hs, rfl⟩ := h
  -- No part begins like one that the reader looks for before it.
  have hstar : '*' ∉ span ++ (horizontal ++ (vertical ++ style)) := fun hc => by
    rcases List.mem_append.1 hc with hc | hc
    · exact absurd (mem_of_missable_span hp hc) (by decide)
    · exact absurd (mem_of_missable_alignments hh hv hs hc) (by decide)
  have hplus : '+' ∉ horizontal ++ (vertical ++ style) := fun hc =>
    absurd (mem_of_missable_alignments hh hv hs hc) (by decide)
  have hstyle : ∀ c ∈ style.head?, isStyle c = true := by
    rcases hs with rfl | ⟨a, ha, rfl⟩
    · exact fun c hc => nomatch hc
    · exact fun c hc => by rwa [← Option.some.inj hc]
  have hdot : ∀ c ∈ style.head?, c ≠ '.' := fun c hc heq =>
    absurd (hstyle c hc) (by rw [heq]; decide)
  have halign : ∀ c ∈ (vertical ++ style).head?, isAlignment c = false := by
    rcases hv with rfl | ⟨a, -, rfl⟩
    · intro c hc
      have hc := hstyle c hc
      rw [isStyle, Bool.and_eq_true, decide_eq_true_iff, decide_eq_true_iff] at hc
      simp only [isAlignment, Bool.or_eq_false_iff, beq_eq_false_iff_ne, ne_eq]
      refine ⟨⟨?_, ?_⟩, ?_⟩ <;> rintro rfl <;> exact absurd hc (by decide)
    · intro c hc
      rw [← Option.some.inj hc]
      decide
  rw [isCellSpec, dropFactor_append hr hstar, dropSpan_append hp hplus,
    dropHorizontal_append hh halign, dropVertical_append hv hdot, dropStyle_of hs]
  rfl

/-- **The reader takes a text for a specification just if it is one.** -/
theorem isCellSpec_iff : isCellSpec t = true ↔ CellSpec t :=
  ⟨.of_isCellSpec, isCellSpec_of⟩

/-- A cell that does not end in a specification is left as it is. -/
theorem dropCellSpec_of_not {cell : Text} (h : ¬ EndsInCellSpec cell) : dropCellSpec cell = cell := by
  rw [dropCellSpec, if_pos]
  by_contra hc
  simp only [Bool.or_eq_true, not_or, List.isEmpty_iff, Bool.not_eq_true, Bool.not_eq_false'] at hc
  obtain ⟨hne, hspec⟩ := hc
  -- it is cut behind its last blank, and what follows that is the specification
  obtain ⟨front, c, hc, hrest⟩ := Text.exists_concat_of_dropEndWhile_ne_nil hne
  have hblank : isBlank c = true := by simpa using hc
  obtain ⟨run, -, hcell⟩ := Text.dropEndWhile_append_run (!isBlank ·) cell
  rw [hrest] at hcell hspec
  refine h ⟨front, [c], run, List.cons_ne_nil c [], ?_, ?_, hcell⟩
  · intro x hx
    rwa [List.mem_singleton.1 hx]
  · rw [hcell, List.drop_left] at hspec
    exact .of_isCellSpec hspec

end Table

end Treedown
