import Mathlib.Data.List.TakeWhile
import Treedown.Text.Basic
/-!
# Text — cutting, as equations

What the scanners of a text leave behind, said as an equation on the text:
a run of a class or of one character ends where an item outside of it stands,
and a text is cut at a character where what comes before holds none, or from
behind where none comes after.
-/

namespace Treedown

namespace Text

section Runs

variable {α : Type} {p : α → Bool} {front rest xs behind : List α} {x : α}

/-- A run of a class ends in front of an item outside the class. -/
theorem takeWhile_run (hfront : ∀ y ∈ front, p y = true) (hx : p x = false) :
    (front ++ x :: rest).takeWhile p = front := by
  rw [List.takeWhile_append_of_pos hfront, List.takeWhile_cons_of_neg (by simp [hx]),
    List.append_nil]

/-- And that item comes next. -/
theorem dropWhile_run (hfront : ∀ y ∈ front, p y = true) (hx : p x = false) :
    (front ++ x :: rest).dropWhile p = x :: rest := by
  rw [List.dropWhile_append_of_pos hfront, List.dropWhile_cons_of_neg (by simp [hx])]

/-- **A list is cut in front of the first item of a class**, if it has one. -/
theorem exists_of_dropWhile_eq_cons (h : xs.dropWhile (!p ·) = x :: behind) :
    ∃ before, xs = before ++ x :: behind ∧ p x = true ∧ ∀ y ∈ before, p y = false := by
  refine ⟨xs.takeWhile (!p ·), ?_, ?_, fun y hy => ?_⟩
  · rw [← h, List.takeWhile_append_dropWhile]
  · have hhead := List.head?_dropWhile_not (!p ·) xs
    rw [h] at hhead
    simpa using hhead
  · simpa using List.mem_takeWhile_imp hy

end Runs

variable {front rest t : Text} {c : Char}

/-- What is taken of a character in front is a run of it. -/
theorem takeWhile_eq_replicate (c : Char) (t : Text) :
    t.takeWhile (· = c) = List.replicate (t.takeWhile (· = c)).length c := by
  refine List.eq_replicate_iff.2 ⟨rfl, fun d hd => ?_⟩
  have hc := List.mem_takeWhile_imp hd
  exact of_decide_eq_true hc

/-- A run of a character is taken whole where another one follows. -/
theorem cut_replicate_append (n : Nat) (ht : ∀ d ∈ t.head?, d ≠ c) :
    (List.replicate n c ++ t).takeWhile (· = c) = List.replicate n c ∧
      (List.replicate n c ++ t).dropWhile (· = c) = t := by
  have hrun : ∀ d ∈ List.replicate n c, decide (d = c) = true := fun d hd =>
    decide_eq_true (List.eq_of_mem_replicate hd)
  cases t with
  | nil =>
    rw [List.append_nil]
    exact ⟨List.takeWhile_eq_self_iff.2 hrun, List.dropWhile_eq_nil_iff.2 hrun⟩
  | cons d t =>
    have hd : decide (d = c) = false := decide_eq_false (ht d rfl)
    exact ⟨takeWhile_run hrun hd, dropWhile_run hrun hd⟩

theorem cutAt_cons (c d : Char) (t : Text) :
    cutAt c (d :: t) =
      if d = c then some ([], t) else (cutAt c t).map fun p => (d :: p.1, p.2) := by
  unfold cutAt
  by_cases h : d = c
  · simp [h]
  · rw [List.dropWhile_cons_of_pos (by simpa using h), List.takeWhile_cons_of_pos (by simpa using h),
      if_neg h]
    split <;> rfl

/-- **Where a text is cut**: in front of the first of the characters. -/
theorem cutAt_eq_some_iff : cutAt c t = some (front, rest) ↔ c ∉ front ∧ t = front ++ c :: rest := by
  induction t generalizing front with
  | nil => simp [cutAt]
  | cons d t ih =>
    rw [cutAt_cons]
    by_cases h : d = c
    · subst h
      cases front with
      | nil => simp [eq_comm]
      | cons x front =>
        simp only [if_true, Option.some.injEq, Prod.mk.injEq, List.cons_append, List.cons.injEq,
          List.mem_cons, not_or]
        constructor
        · rintro ⟨hnil, -⟩
          cases hnil
        · rintro ⟨⟨hne, -⟩, heq, -⟩
          exact absurd heq hne
    · rw [if_neg h]
      cases front with
      | nil => simp [h]
      | cons x front =>
        simp only [Option.map_eq_some_iff, Prod.exists, Prod.mk.injEq, List.cons.injEq,
          List.mem_cons, not_or, List.cons_append]
        constructor
        · rintro ⟨a, b, hab, ⟨rfl, rfl⟩, rfl⟩
          obtain ⟨hc, rfl⟩ := ih.1 hab
          exact ⟨⟨fun e => h e.symm, hc⟩, rfl, rfl⟩
        · rintro ⟨⟨-, hc⟩, rfl, rfl⟩
          exact ⟨front, rest, ih.2 ⟨hc, rfl⟩, ⟨rfl, rfl⟩, rfl⟩

/-- **Where a text is cut from behind**: at the last of the characters. -/
theorem cutAt_reverse_eq_some_iff :
    cutAt c t.reverse = some (rest, front) ↔ c ∉ rest ∧ t = front.reverse ++ c :: rest.reverse := by
  rw [cutAt_eq_some_iff, ← List.reverse_inj, List.reverse_reverse]
  simp

/-- A text has a last one of each character that it holds. -/
theorem exists_append_cons_of_mem (h : c ∈ t) : ∃ front rest, t = front ++ c :: rest ∧ c ∉ rest := by
  obtain ⟨back, front, heq, hback⟩ := List.eq_append_cons_of_mem (List.mem_reverse.2 h)
  refine ⟨front.reverse, back.reverse, ?_, by simpa using hback⟩
  rw [← List.reverse_reverse t, heq]
  simp

/-- What stands between brackets in front holds no closing bracket. -/
theorem bracketed?_eq_some_iff {inner : Text} :
    bracketed? t = some (inner, rest) ↔ ']' ∉ inner ∧ t = '[' :: inner ++ ']' :: rest := by
  constructor
  · intro h
    unfold bracketed? at h
    split at h
    · rename_i t
      obtain ⟨hinner, rfl⟩ := cutAt_eq_some_iff.1 (show cutAt ']' t = some (inner, rest) from h)
      exact ⟨hinner, rfl⟩
    · cases h
  · rintro ⟨hinner, rfl⟩
    exact cutAt_eq_some_iff.2 ⟨hinner, rfl⟩

end Text

end Treedown
