import Treedown.Proofs.Json.Printing
/-!
# JSON — how deep a text nests

The nesting of a text is the greatest number of brackets that are open at
once, counted along its tokens (`textNesting`). For a printed value it can
be read off the value (`textNesting_print`), a bracket at a time.
-/

namespace Treedown.Json

/-! ## The nesting of a text -/

/-- The number of open brackets behind a token. -/
def openAfter (depth : Nat) : Token → Nat
  | .openList | .openObject => depth + 1
  | .closeList | .closeObject => depth - 1
  | _ => depth

/-- The greatest number of open brackets along a row of tokens. -/
def peak (depth : Nat) : List Token → Nat
  | [] => depth
  | t :: rest => max depth (peak (openAfter depth t) rest)

/-- **How deep lists and objects are nested in a text.** -/
def textNesting (t : Text) : Nat :=
  peak 0 (tokens t)

/-! ## The nesting of a value -/

mutual

/-- **How deep lists and objects are nested in a value.** -/
def nesting : Json → Nat
  | .list items => 1 + nestingItems items
  | .object members => 1 + nestingMembers members
  | _ => 0

/-- The nesting of the deepest of several values. -/
def nestingItems : List Json → Nat
  | [] => 0
  | item :: rest => max (nesting item) (nestingItems rest)

/-- The nesting of the deepest value of a member. -/
def nestingMembers : List (Text × Json) → Nat
  | [] => 0
  | (_, value) :: rest => max (nesting value) (nestingMembers rest)

end

variable {room : Nat}

theorem nestingItems_le_iff {items : List Json} :
    nestingItems items ≤ room ↔ ∀ item ∈ items, nesting item ≤ room := by
  induction items with
  | nil => simp [nestingItems]
  | cons item rest ih => rw [nestingItems, Nat.max_le, ih, List.forall_mem_cons]

theorem nestingMembers_le_iff {members : List (Text × Json)} :
    nestingMembers members ≤ room ↔ ∀ member ∈ members, nesting member.2 ≤ room := by
  induction members with
  | nil => simp [nestingMembers]
  | cons member rest ih => rw [nestingMembers, Nat.max_le, ih, List.forall_mem_cons]

/-! ## They agree -/

theorem le_peak (depth : Nat) (ts : List Token) : depth ≤ peak depth ts := by
  cases ts with
  | nil => exact Nat.le_refl _
  | cons t rest => exact Nat.le_max_left _ _

/-- A token that is no bracket does not count. -/
theorem peak_cons_of_flat {depth : Nat} {t : Token} (h : openAfter depth t = depth)
    (ts : List Token) : peak depth (t :: ts) = peak depth ts := by
  rw [peak, h, Nat.max_eq_right (le_peak depth ts)]

mutual

/-- **The row of a value goes as deep as the value**, and comes back. -/
theorem peak_row (j : Json) (depth : Nat) (ts : List Token) :
    peak depth (row j ++ ts) = max (depth + nesting j) (peak depth ts) := by
  match j with
  | .null => rfl
  | .bool b => rfl
  | .number n => rfl
  | .string s => rfl
  | .list items =>
    have := le_peak depth ts
    rw [row, nesting, List.cons_append, List.append_assoc, List.singleton_append, peak, openAfter,
      peak_rowItems items, peak, openAfter, Nat.add_sub_cancel]
    omega
  | .object members =>
    have := le_peak depth ts
    rw [row, nesting, List.cons_append, List.append_assoc, List.singleton_append, peak, openAfter,
      peak_rowMembers members, peak, openAfter, Nat.add_sub_cancel]
    omega

theorem peak_rowItems (items : List Json) (depth : Nat) (ts : List Token) :
    peak depth (rowItems items ++ ts) = max (depth + nestingItems items) (peak depth ts) := by
  match items with
  | [] =>
    have := le_peak depth ts
    rw [rowItems, nestingItems, List.nil_append]
    omega
  | [item] => rw [rowItems, nestingItems, nestingItems, peak_row item, Nat.max_zero]
  | item :: next :: rest =>
    have hrow : rowItems (item :: next :: rest) = row item ++ .comma :: rowItems (next :: rest) := by
      rw [rowItems]
      simp
    rw [hrow, nestingItems, List.append_assoc, List.cons_append, peak_row item,
      peak_cons_of_flat rfl, peak_rowItems (next :: rest)]
    omega

theorem peak_rowMembers (members : List (Text × Json)) (depth : Nat) (ts : List Token) :
    peak depth (rowMembers members ++ ts) = max (depth + nestingMembers members) (peak depth ts) := by
  match members with
  | [] =>
    have := le_peak depth ts
    rw [rowMembers, nestingMembers, List.nil_append]
    omega
  | [(key, value)] =>
    rw [rowMembers, nestingMembers, nestingMembers, List.cons_append, List.cons_append,
      peak_cons_of_flat rfl, peak_cons_of_flat rfl, peak_row value, Nat.max_zero]
  | (key, value) :: next :: rest =>
    have hrow : rowMembers ((key, value) :: next :: rest) =
        .string (.ok key) :: .colon :: (row value ++ .comma :: rowMembers (next :: rest)) := by
      rw [rowMembers]
      simp
    rw [hrow, nestingMembers, List.cons_append, List.cons_append, peak_cons_of_flat rfl,
      peak_cons_of_flat rfl, List.append_assoc, List.cons_append, peak_row value,
      peak_cons_of_flat rfl, peak_rowMembers (next :: rest)]
    omega

end

/-- **A printed value nests as deep as the value.** -/
theorem textNesting_print {j : Json} (hj : Whole j) : textNesting (print j) = nesting j := by
  have hpeak := peak_row j 0 []
  rw [List.append_nil] at hpeak
  rw [textNesting, tokens_print_self hj, hpeak, peak]
  omega

end Treedown.Json
