import Mathlib.Data.List.Induction
import Treedown.Node.Attributes
/-!
# Nodes — attributes looked up

What is found under a name is what was written there last. `get?_set` says so
of one write and `get?_ofPairs` of any row of writes, which is looked up from
its end.
-/

namespace Treedown

namespace Attributes

variable {a : Attributes} {key value : Text}

theorem lookup_write (key value other : Text) (entries : List (Text × Text)) :
    (write key value entries).lookup other =
      if other = key then some value else entries.lookup other := by
  induction entries with
  | nil =>
    rw [write, List.lookup_singleton]
    simp only [beq_iff_eq, List.lookup_nil]
  | cons entry rest ih =>
    obtain ⟨k, v⟩ := entry
    rw [write]
    by_cases hk : k = key
    · rw [if_pos hk, List.lookup_cons, List.lookup_cons, hk]
      by_cases h : other = key
      · rw [if_pos h, beq_iff_eq.2 h]
      · rw [if_neg h, beq_eq_false_iff_ne.2 h]
    · rw [if_neg hk, List.lookup_cons, List.lookup_cons, ih]
      by_cases h : other = k
      · have hkey : ¬ other = key := fun heq => hk (h.symm.trans heq)
        simp only [beq_iff_eq.2 h, if_neg hkey]
      · simp only [beq_eq_false_iff_ne.2 h]

/-- **A write is found under its name**, and nothing else is changed. -/
theorem get?_set (a : Attributes) (key value other : Text) :
    (a.set key value).get? other = if other = key then some value else a.get? other :=
  lookup_write key value other a.entries

theorem ofPairs_concat (pairs : List (Text × Text)) (p : Text × Text) :
    ofPairs (pairs ++ [p]) = (ofPairs pairs).set p.1 p.2 := by
  rw [ofPairs, List.foldl_append, List.foldl_cons, List.foldl_nil, ← ofPairs]

/-- **Of pairs with one name the last counts.** -/
theorem get?_ofPairs (pairs : List (Text × Text)) (key : Text) :
    (ofPairs pairs).get? key = pairs.reverse.lookup key := by
  induction pairs using List.reverseRecOn with
  | nil => rfl
  | append_singleton pairs p ih =>
    rw [ofPairs_concat, get?_set, ih, List.reverse_concat, List.lookup_cons]
    by_cases h : key = p.1
    · rw [if_pos h, beq_iff_eq.2 h]
    · rw [if_neg h, beq_eq_false_iff_ne.2 h]

/-- The names are those under which something is found. -/
theorem mem_keys_iff : key ∈ a.keys ↔ (a.get? key).isSome = true := by
  rw [keys, get?, List.lookup_isSome_iff, List.mem_map]
  exact exists_congr fun p => and_congr_right fun _ => eq_comm.trans beq_iff_eq.symm

end Attributes

end Treedown
