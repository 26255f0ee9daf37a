import Treedown.Text.Basic
/-!
# Nodes — attributes

The attributes of a node are named texts in the order in which the names
were first written. Writing a name again changes its value and not its
place. Positional attributes are named by their number. That every name
stands once is part of the type; `keys_set` says what a write does to the
row of names.
-/

namespace Treedown

/-- **The attributes of a node**, in the order of their first writing. -/
structure Attributes where
  entries : List (Text × Text)
  /-- Every name stands once. -/
  keys_nodup : (entries.map Prod.fst).Nodup
  deriving DecidableEq

namespace Attributes

/-- The entries with a value written under a name. -/
def write (key value : Text) : List (Text × Text) → List (Text × Text)
  | [] => [(key, value)]
  | (k, v) :: rest => if k = key then (k, value) :: rest else (k, v) :: write key value rest

/-- A write keeps the names, or adds its own behind them. -/
theorem keys_write (key value : Text) (entries : List (Text × Text)) :
    (write key value entries).map Prod.fst =
      if key ∈ entries.map Prod.fst then entries.map Prod.fst
      else entries.map Prod.fst ++ [key] := by
  induction entries with
  | nil => simp [write]
  | cons entry rest ih =>
    obtain ⟨k, v⟩ := entry
    by_cases h : k = key
    · simp [write, h]
    · have h' : ¬key = k := fun e => h e.symm
      simp only [write, h, if_false, List.map_cons, ih, List.mem_cons, h', false_or]
      split <;> simp

theorem nodup_keys_write (key value : Text) {entries : List (Text × Text)}
    (h : (entries.map Prod.fst).Nodup) : ((write key value entries).map Prod.fst).Nodup := by
  rw [keys_write]
  split
  · exact h
  · rename_i hk
    rw [List.nodup_append]
    refine ⟨h, by simp, ?_⟩
    simpa using fun a b hb e => hk (by subst e; exact List.mem_map.2 ⟨_, hb, rfl⟩)

/-- No attributes. -/
def empty : Attributes := ⟨[], List.nodup_nil⟩

instance : Inhabited Attributes := ⟨empty⟩

/-- The attributes with a value written under a name. -/
def set (a : Attributes) (key value : Text) : Attributes :=
  ⟨write key value a.entries, nodup_keys_write key value a.keys_nodup⟩

/-- The attributes without a name. -/
def erase (a : Attributes) (key : Text) : Attributes :=
  ⟨a.entries.filter fun p => p.1 ≠ key,
    a.keys_nodup.sublist (List.filter_sublist.map Prod.fst)⟩

/-- The names, in order. -/
def keys (a : Attributes) : List Text :=
  a.entries.map Prod.fst

/-- **What a write does to the names.** -/
theorem keys_set (a : Attributes) (key value : Text) :
    (a.set key value).keys = if key ∈ a.keys then a.keys else a.keys ++ [key] :=
  keys_write key value a.entries

/-- The attributes with a value written under a number. -/
def setPositional (a : Attributes) (index : Nat) (value : Text) : Attributes :=
  a.set (Text.ofNat index) value

/-- The attributes that result from writing pairs one after the other. -/
def ofPairs (pairs : List (Text × Text)) : Attributes :=
  pairs.foldl (fun a p => a.set p.1 p.2) empty

/-- The value under a name. -/
def get? (a : Attributes) (key : Text) : Option Text :=
  a.entries.lookup key

/-- The value under a number. -/
def positional? (a : Attributes) (index : Nat) : Option Text :=
  a.get? (Text.ofNat index)

/-- The value under a name, else the value under a number. -/
def namedOrPositional? (a : Attributes) (key : Text) (index : Nat) : Option Text :=
  (a.get? key).or (a.positional? index)

/-- The value under a name, if it is not empty. -/
def nonEmpty? (a : Attributes) (key : Text) : Option Text :=
  Text.unlessEmpty (a.get? key)

/-- Whether a name stands among the attributes. -/
def contains (a : Attributes) (key : Text) : Bool :=
  (a.get? key).isSome

/-- The number of names. -/
def size (a : Attributes) : Nat :=
  a.entries.length

/-- Whether there are no attributes. -/
def isEmpty (a : Attributes) : Bool :=
  a.entries.isEmpty

end Attributes

end Treedown
