import Treedown.Markup.Block
/-!
# Markup — joining blocks

Blocks are joined with a blank line between them, and an empty one leaves no
gap. Joining in two steps comes to the same as joining at once
(`joinBlocks_nested`): blocks that were joined before are one block to the
next join, and when nothing is left of them they are dropped there.
-/

namespace Treedown

namespace Markup

variable {xs ys : List Text}

/-- Where both rows hold something, the separator stands between them. -/
theorem intercalate_append (sep : Text) (hx : xs ≠ []) (hy : ys ≠ []) :
    sep.intercalate (xs ++ ys) = sep.intercalate xs ++ sep ++ sep.intercalate ys := by
  induction xs with
  | nil => exact absurd rfl hx
  | cons x rest ih =>
    cases rest with
    | nil =>
      rw [List.singleton_append, List.intercalate_cons_of_ne_nil hy, List.intercalate_singleton]
    | cons y rest =>
      rw [List.cons_append, List.cons_append, List.intercalate_cons_cons, ← List.cons_append,
        ih (List.cons_ne_nil y rest), List.intercalate_cons_cons]
      simp only [List.append_assoc]

/-- A block by itself stays as it is. -/
theorem joinBlocks_singleton (t : Text) : joinBlocks [t] = t := by
  cases t <;> simp [joinBlocks]

/-- Empty blocks may be left out before. -/
theorem joinBlocks_filter (front ts : List Text) :
    joinBlocks (front ++ ts.filter (!·.isEmpty)) = joinBlocks (front ++ ts) := by
  rw [joinBlocks, joinBlocks, List.filter_append, List.filter_append, List.filter_filter]
  simp only [Bool.and_self]

/-- Nothing comes of blocks that are all empty, and of no other ones. -/
theorem joinBlocks_eq_nil_iff :
    joinBlocks xs = [] ↔ xs.filter (fun block => !block.isEmpty) = [] := by
  have hkept : ∀ x ∈ xs.filter (fun block => !block.isEmpty), x ≠ [] := fun x hx => by
    simpa using (List.mem_filter.1 hx).2
  rw [joinBlocks]
  cases h : xs.filter fun block => !block.isEmpty with
  | nil => exact iff_of_true List.intercalate_nil rfl
  | cons x rest =>
    have hx : x ≠ [] := hkept x (h ▸ List.mem_cons_self)
    refine iff_of_false (fun hnil => ?_) (List.cons_ne_nil x rest)
    cases rest with
    | nil => exact hx (List.intercalate_singleton.symm.trans hnil)
    | cons y rest =>
      rw [List.intercalate_cons_cons, List.append_assoc, List.append_eq_nil_iff] at hnil
      exact hx hnil.1

/-- **Two rows of blocks** are joined like the two blocks that come of them. -/
theorem joinBlocks_append (xs ys : List Text) :
    joinBlocks (xs ++ ys) = joinBlocks [joinBlocks xs, joinBlocks ys] := by
  have hall : joinBlocks (xs ++ ys) =
      ("\n\n" : Text).intercalate
        (xs.filter (fun block => !block.isEmpty) ++ ys.filter fun block => !block.isEmpty) := by
    rw [joinBlocks, List.filter_append]
  by_cases hx : xs.filter (fun block => !block.isEmpty) = []
  · have hdrop (t : Text) : joinBlocks [[], t] = t := joinBlocks_singleton t
    rw [hall, hx, List.nil_append, ← joinBlocks, joinBlocks_eq_nil_iff.2 hx, hdrop]
  by_cases hy : ys.filter (fun block => !block.isEmpty) = []
  · have hdrop (t : Text) : joinBlocks [t, []] = t := by
      cases t <;> simp [joinBlocks]
    rw [hall, hy, List.append_nil, ← joinBlocks, joinBlocks_eq_nil_iff.2 hy, hdrop]
  · -- something is left of both, and it is joined as any two blocks are
    have htwo : joinBlocks [joinBlocks xs, joinBlocks ys] =
        joinBlocks xs ++ ("\n\n" : Text) ++ joinBlocks ys := by
      have hx' : joinBlocks xs ≠ [] := fun h => hx (joinBlocks_eq_nil_iff.1 h)
      have hy' : joinBlocks ys ≠ [] := fun h => hy (joinBlocks_eq_nil_iff.1 h)
      generalize joinBlocks xs = x at hx' ⊢
      generalize joinBlocks ys = y at hy' ⊢
      simp [joinBlocks, hx', hy']
    rw [hall, htwo, intercalate_append _ hx hy, ← joinBlocks, ← joinBlocks]

/-- **Joining in two steps** comes to the same as joining at once. -/
theorem joinBlocks_nested (xs ys zs : List Text) :
    joinBlocks (xs ++ joinBlocks ys :: zs) = joinBlocks (xs ++ (ys ++ zs)) := by
  have hinner : joinBlocks (joinBlocks ys :: zs) = joinBlocks (ys ++ zs) := by
    rw [← List.singleton_append, joinBlocks_append, joinBlocks_singleton, ← joinBlocks_append]
  rw [joinBlocks_append, hinner, ← joinBlocks_append]

end Markup

end Treedown
