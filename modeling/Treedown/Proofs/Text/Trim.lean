import Treedown.Text.Basic
import Mathlib.Data.List.TakeWhile
/-!
# Text — trimming

What trimming leaves of a text that is put together: white space at the end
goes, a character that is no white space stops it, and a text that equals
its own trim has white space at neither end.
-/

namespace Treedown

/-! ## White space -/

/-- The white space there is. -/
def blanks : List Char :=
  [0x20, 0x09, 0x0A, 0x0B, 0x0C, 0x0D, 0x85, 0xA0, 0x1680, 0x2000, 0x2001, 0x2002, 0x2003, 0x2004,
    0x2005, 0x2006, 0x2007, 0x2008, 0x2009, 0x200A, 0x2028, 0x2029, 0x202F, 0x205F,
    0x3000].map Char.ofNat

theorem mem_blanks_of_isBlank {c : Char} (h : isBlank c = true) : c ∈ blanks := by
  refine List.mem_map.2 ⟨c.toNat, ?_, Char.ofNat_toNat c⟩
  simp only [isBlank, Bool.or_eq_true, Bool.and_eq_true, beq_iff_eq, decide_eq_true_eq] at h
  simp only [List.mem_cons, List.not_mem_nil, or_false]
  omega

/-- What holds of each of these characters holds of all white space. -/
theorem of_isBlank {p : Char → Bool} (h : blanks.all p = true) {c : Char}
    (hc : isBlank c = true) : p c = true :=
  List.all_eq_true.1 h c (mem_blanks_of_isBlank hc)

namespace Text

variable {p : Char → Bool} {a b t : Text} {c : Char}

/-! ## Dropping at the end -/

theorem dropEndWhile_prefix_self (p : Char → Bool) (t : Text) : dropEndWhile p t <+: t := by
  have h := List.reverse_prefix.2 (List.dropWhile_suffix (l := t.reverse) p)
  rwa [List.reverse_reverse] at h

/-- A text is what is kept of it, and a run of the class. -/
theorem dropEndWhile_append_run (p : Char → Bool) (t : Text) :
    ∃ run, (∀ c ∈ run, p c = true) ∧ t = dropEndWhile p t ++ run := by
  refine ⟨(t.reverse.takeWhile p).reverse, fun c hc => ?_, ?_⟩
  · exact List.mem_takeWhile_imp (List.mem_reverse.1 hc)
  · rw [dropEndWhile, ← List.reverse_append, List.takeWhile_append_dropWhile, List.reverse_reverse]

theorem dropEndWhile_append_of_forall (h : ∀ c ∈ b, p c = true) :
    dropEndWhile p (a ++ b) = dropEndWhile p a := by
  rw [dropEndWhile, List.reverse_append, List.dropWhile_append_of_pos fun c hc =>
    h c (List.mem_reverse.1 hc), dropEndWhile]

theorem dropEndWhile_append_of_ne_nil (h : dropEndWhile p b ≠ []) :
    dropEndWhile p (a ++ b) = a ++ dropEndWhile p b := by
  have hne : ¬ (b.reverse.dropWhile p).isEmpty = true := by
    simpa [dropEndWhile] using h
  rw [dropEndWhile, List.reverse_append, List.dropWhile_append, if_neg hne, List.reverse_append,
    List.reverse_reverse, dropEndWhile]

/-- A character outside the class at the end keeps everything. -/
theorem dropEndWhile_concat (a : Text) (hc : p c = false) :
    dropEndWhile p (a ++ [c]) = a ++ [c] := by
  rw [dropEndWhile, List.reverse_concat, List.dropWhile_cons_of_neg (by simp [hc]),
    ← List.reverse_concat, List.reverse_reverse]

/-- What is kept ends in a character outside the class. -/
theorem exists_concat_of_dropEndWhile_ne_nil (h : dropEndWhile p t ≠ []) :
    ∃ front c, p c = false ∧ dropEndWhile p t = front ++ [c] := by
  cases hd : t.reverse.dropWhile p with
  | nil => exact absurd (by rw [dropEndWhile, hd]; rfl) h
  | cons c rest =>
    have hc := List.head?_dropWhile_not p t.reverse
    rw [hd] at hc
    exact ⟨rest.reverse, c, by simpa using hc, by rw [dropEndWhile, hd, List.reverse_cons]⟩

/-- Something is kept just if not all characters are in the class. -/
theorem dropEndWhile_ne_nil_iff : dropEndWhile p t ≠ [] ↔ ∃ c ∈ t, p c = false := by
  rw [Ne, dropEndWhile, List.reverse_eq_nil_iff, List.dropWhile_eq_nil_iff]
  simp

/-! ## Trimming -/

theorem trimEnd_subset (t : Text) : t.trimEnd ⊆ t :=
  (dropEndWhile_prefix_self isBlank t).subset

theorem trim_subset (t : Text) : t.trim ⊆ t := fun _ hc =>
  (List.dropWhile_suffix isBlank).subset (trimEnd_subset _ hc)

theorem blank_iff : t.blank = true ↔ ∀ c ∈ t, isBlank c = true := by
  rw [blank, List.all_eq_true]

/-- **Nothing is left of a blank text**, and of no other one. -/
theorem trimEnd_eq_nil_iff : t.trimEnd = [] ↔ t.blank = true := by
  rw [blank_iff, ← not_iff_not, ← ne_eq, trimEnd, dropEndWhile_ne_nil_iff]
  simp

/-- **A text that equals its own trim** has white space at neither end. -/
theorem trimEnd_eq_self_of_trim (h : t.trim = t) : t.trimEnd = t := by
  have hdrop : t.dropWhile isBlank = t := by
    have hle := (dropEndWhile_prefix_self isBlank (t.dropWhile isBlank)).length_le
    rw [← trimEnd, ← trim, h] at hle
    exact (List.dropWhile_suffix isBlank).eq_of_length_le hle
  rw [trim, hdrop] at h
  exact h

/-- **Trimming at the end stops at a character that is no white space.** -/
theorem trimEnd_append_cons (a b : Text) (hc : isBlank c = false) :
    (a ++ c :: b).trimEnd = a ++ c :: b.trimEnd := by
  rw [show a ++ c :: b = (a ++ [c]) ++ b by simp]
  by_cases hnil : b.trimEnd = []
  · have hb := blank_iff.1 (trimEnd_eq_nil_iff.1 hnil)
    rw [trimEnd, dropEndWhile_append_of_forall hb, dropEndWhile_concat a hc, hnil]
  · rw [trimEnd, dropEndWhile_append_of_ne_nil hnil, List.append_assoc]
    rfl

/-- White space behind a text is trimmed. -/
theorem trim_append_of_blank (h : b.blank = true) : (a ++ b).trim = a.trim := by
  rw [trim, List.dropWhile_append]
  split
  · rename_i hnil
    rw [List.dropWhile_eq_nil_iff.2 (blank_iff.1 h), trim, List.isEmpty_iff.1 hnil]
  · rw [trimEnd, dropEndWhile_append_of_forall (blank_iff.1 h), trim, trimEnd]

/-- **White space around a text is trimmed**, and nothing of a text that has
none at either end. -/
theorem trim_append_append {front back : Text} (hfront : front.blank = true)
    (hback : back.blank = true) (ht : t.trim = t) : (front ++ t ++ back).trim = t := by
  rw [trim_append_of_blank hback, trim, List.dropWhile_append_of_pos (blank_iff.1 hfront), ← trim,
    ht]

/-- It is the same whether the end is trimmed before. -/
theorem trim_trimEnd (t : Text) : t.trimEnd.trim = t.trim := by
  obtain ⟨run, hrun, ht⟩ := dropEndWhile_append_run isBlank t
  rw [← trimEnd] at ht
  calc
    t.trimEnd.trim = (t.trimEnd ++ run).trim := (trim_append_of_blank (blank_iff.2 hrun)).symm
    _ = t.trim := by rw [← ht]

theorem blank_trimEnd (t : Text) : t.trimEnd.blank = t.blank := by
  obtain ⟨run, hrun, ht⟩ := dropEndWhile_append_run isBlank t
  rw [← trimEnd] at ht
  calc
    t.trimEnd.blank = (t.trimEnd ++ run).blank := by
      rw [blank, blank, List.all_append, List.all_eq_true.2 hrun, Bool.and_true]
    _ = t.blank := by rw [← ht]

/-- Trimming stops in front at a character that is no white space. -/
theorem trim_cons (hc : isBlank c = false) (t : Text) : trim (c :: t) = c :: t.trimEnd := by
  rw [trim, List.dropWhile_cons_of_neg (by simp [hc])]
  exact trimEnd_append_cons [] t hc

/-- What is trimmed from a text is white space at its ends. -/
theorem exists_eq_append_trim_append (t : Text) :
    ∃ front back : Text, front.blank = true ∧ back.blank = true ∧ t = front ++ t.trim ++ back := by
  obtain ⟨back, hback, hend⟩ := dropEndWhile_append_run isBlank (t.dropWhile isBlank)
  refine ⟨t.takeWhile isBlank, back, blank_iff.2 fun c hc => List.mem_takeWhile_imp hc,
    blank_iff.2 hback, ?_⟩
  calc
    t = t.takeWhile isBlank ++ t.dropWhile isBlank := List.takeWhile_append_dropWhile.symm
    _ = t.takeWhile isBlank ++ (t.trim ++ back) := by rw [hend, trim, trimEnd, ← hend]
    _ = _ := (List.append_assoc _ _ _).symm

/-- What is trimmed is no more and no less blank. -/
theorem blank_trim (t : Text) : t.trim.blank = t.blank := by
  obtain ⟨front, back, hfront, hback, ht⟩ := exists_eq_append_trim_append t
  calc
    t.trim.blank = (front ++ t.trim ++ back).blank := by
      rw [blank] at hfront hback
      rw [blank, blank, List.all_append, List.all_append, hfront, hback, Bool.true_and, Bool.and_true]
    _ = t.blank := by rw [← ht]

/-- Trimming leaves nothing of a blank text, and of no other one. -/
theorem trim_eq_nil_iff : t.trim = [] ↔ t.blank = true := by
  constructor
  · intro h
    rw [← blank_trim, h]
    rfl
  · intro h
    rw [trim, List.dropWhile_eq_nil_iff.2 (blank_iff.1 h)]
    rfl

end Text

end Treedown
