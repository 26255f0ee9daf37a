import Treedown.Toml.Value
/-!
# TOML — tables as they are read

A table comes into being under a header, on the way to a longer header, or
by a dotted key, and how it did decides who may add to it later: a header
may define a table once, and only if no header or dotted key has; dotted
keys may not reach into a table that a header defined. What is written as
one value is closed. `freeze` forgets all that when the whole file has been
read.
-/

namespace Treedown

namespace Toml

/-- **How a table came into being.** -/
inductive Openness
  /-- Under a header of its own. -/
  | defined
  /-- On the way to a longer header. -/
  | implied
  /-- By a dotted key. -/
  | dotted
  deriving DecidableEq, Repr

/-- **What stands under a key.** -/
inductive Item
  | value (v : Value)
  | table (openness : Openness) (entries : List (Text × Item))
  /-- Tables of one name; the last one is still open. -/
  | tables (before : List (List (Text × Item))) (last : List (Text × Item))

/-- What stands under the keys of a table. -/
abbrev Entries := List (Text × Item)

/-- The entries with what stands under a key changed; `f` may refuse. -/
def alter (key : Text) (f : Option Item → Option Item) : Entries → Option Entries
  | [] => (f none).map fun item => [(key, item)]
  | (k, item) :: rest =>
    if k = key then (f (some item)).map fun item => (k, item) :: rest
    else (alter key f rest).map ((k, item) :: ·)

/-- **The entries with the table at the end of a path changed.** Tables that
are missing on the way come into being. `f` also sees how the table at the
end did. -/
def within (fresh : Openness) (f : Openness → Entries → Option Entries) :
    List Text → Openness → Entries → Option Entries
  | [], openness, entries => f openness entries
  | key :: path, _, entries =>
    alter key (fun
      | none => (within fresh f path fresh []).map (.table fresh)
      | some (.value _) => none
      | some (.tables before last) => (within fresh f path .defined last).map (.tables before)
      | some (.table openness inner) =>
        if fresh = .dotted ∧ openness = .defined then none
        else (within fresh f path openness inner).map (.table openness)) entries

/-- The entries with a value under a dotted key. -/
def assign (path : List Text) (v : Value) (openness : Openness) (entries : Entries) :
    Option Entries :=
  match path.getLast? with
  | none => none
  | some key =>
    within .dotted (fun openness entries =>
      if (openness == .dotted) == (path.length == 1) then none
      else alter key (fun
        | none => some (.value v)
        | some _ => none) entries) path.dropLast openness entries

/-- The entries with a table defined by a header. -/
def define (path : List Text) (entries : Entries) : Option Entries :=
  match path.getLast? with
  | none => none
  | some key =>
    within .implied (fun _ => alter key fun
      | none => some (.table .defined [])
      | some (.table .implied inner) => some (.table .defined inner)
      | some _ => none) path.dropLast .defined entries

/-- The entries with one more of the tables of one name. -/
def append (path : List Text) (entries : Entries) : Option Entries :=
  match path.getLast? with
  | none => none
  | some key =>
    within .implied (fun _ => alter key fun
      | none => some (.tables [] [])
      | some (.tables before last) => some (.tables (before ++ [last]) [])
      | some _ => none) path.dropLast .defined entries

mutual

/-- What stands under a key, as a value. -/
def Item.freeze : Item → Value
  | .value v => v
  | .table _ entries => .table (freezeAll entries)
  | .tables before last => .list (freezeTables before ++ [.table (freezeAll last)])

/-- **The values of a table.** -/
def freezeAll : List (Text × Item) → List (Text × Value)
  | [] => []
  | (key, item) :: rest => (key, item.freeze) :: freezeAll rest

/-- The tables of one name, as values. -/
def freezeTables : List (List (Text × Item)) → List Value
  | [] => []
  | entries :: rest => .table (freezeAll entries) :: freezeTables rest

end

end Toml

end Treedown
