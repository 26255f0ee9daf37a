import Treedown.Text.Casing
import Treedown.Toml.Number
/-!
# Settings — values and how they are combined

Settings are a tree of values. A value is put under a key or at the end of
a longer path, and whatever stands in the way becomes a table or a list.
Tables are combined key by key and to any depth; any other value takes the
place of what was there. Keys do not tell upper from lower case.
-/

namespace Treedown

namespace Settings

/-- **A value among the settings.** -/
inductive Value
  | null
  | boolean (b : Bool)
  | integer (n : Int)
  | float (x : Extended)
  | string (s : Text)
  | list (items : List Value)
  | table (entries : List (Text × Value))

namespace Value

/-- The entries of a table; any other value has none. -/
def entries : Value → List (Text × Value)
  | .table entries => entries
  | _ => []

/-- The items of a list; any other value has none. -/
def items : Value → List Value
  | .list items => items
  | _ => []

mutual

/-- A value from a configuration file. A moment becomes its spelling. -/
def ofToml : Toml.Value → Value
  | .string s => .string s
  | .integer n => .integer n
  | .float x => .float x
  | .boolean b => .boolean b
  | .moment spelling => .string spelling
  | .list items => .list (ofTomlItems items)
  | .table entries => .table (ofTomlEntries entries)

/-- Several values from a configuration file. -/
def ofTomlItems : List Toml.Value → List Value
  | [] => []
  | v :: rest => ofToml v :: ofTomlItems rest

/-- The entries of a table from a configuration file. -/
def ofTomlEntries : List (Text × Toml.Value) → List (Text × Value)
  | [] => []
  | (key, v) :: rest => (key, ofToml v) :: ofTomlEntries rest

end

/-- The entries with what stands under a key changed. -/
def alter (key : Text) (f : Option Value → Value) : List (Text × Value) → List (Text × Value)
  | [] => [(key, f none)]
  | (k, v) :: rest => if k = key then (k, f (some v)) :: rest else (k, v) :: alter key f rest

mutual

/-- **A table with a value under a key**, combined with what is there. -/
def merge (key : Text) (here : Value) : Value → Value
  | .table incoming =>
    .table (alter key.lower (fun old => mergeAll (old.getD (.table [])) incoming) here.entries)
  | v => .table (alter key.lower (fun _ => v) here.entries)

/-- A table with several values. Where there are none, nothing changes. -/
def mergeAll (here : Value) : List (Text × Value) → Value
  | [] => here
  | (key, v) :: rest => mergeAll (merge key here v) rest

end

end Value

/-! ## Paths -/

/-- **A step on a path**: a key, or a place in a list, which may be counted
from its end. -/
inductive Segment
  | key (name : Text)
  | index (i : Int)
  deriving DecidableEq, Repr

/-- The place in a list of some length; one in front of the list is none. -/
def position? (length : Nat) (i : Int) : Option Nat :=
  if 0 ≤ i then some i.toNat else (i + length).toNat?

/-- The items with the one at a place changed; the list is made long enough
for it. -/
def alterItem (i : Int) (f : Value → Value) (items : List Value) : List Value :=
  match position? items.length i with
  | none => items
  | some n =>
    let items := items ++ List.replicate (n + 1 - items.length) .null
    items.modify n f

/-- **What stands at a place after a value was put at the end of a path
from there.** -/
def place (v : Value) : List Segment → Value → Value
  | [], _ => v
  | [.key name], here => here.merge name v
  | .key name :: path, here =>
    .table (Value.alter (Text.lower name) (fun old => place v path (old.getD .null)) here.entries)
  | .index i :: path, here => .list (alterItem i (place v path) here.items)

/-- Whether a character may stand in a key on a path. -/
def inKey (c : Char) : Bool :=
  c.isAlphanum || c == ' ' || c == '_' || c == '-'

/-- The key that a text starts with. -/
def key? (t : Text) : Option (Text × Text) :=
  let name := t.takeWhile inKey
  if name.isEmpty then none else some (name, t.dropWhile inKey)

/-- The place in a list that a text in brackets names. -/
def index? (t : Text) : Option Int :=
  let spare (t : Text) := Text.dropEndWhile Toml.isSpace (t.dropWhile Toml.isSpace)
  let (negative, digits) :=
    match spare t with
    | '-' :: digits => (true, digits)
    | digits => (false, digits)
  if digits.isEmpty || !digits.all Char.isDigit then none
  else
    let n := Toml.ofDigits 10 digits
    if n < Toml.integerBound then some (if negative then -n else n) else none

/-- A step behind the steps before it. -/
def segment? : Text → Option (Segment × Text)
  | '.' :: rest => (key? rest).map fun (name, rest) => (.key name, rest)
  | '[' :: rest =>
    match Text.cutAt ']' rest with
    | some (inner, rest) => (index? inner).map fun i => (.index i, rest)
    | none => none
  | _ => none

/-- A step along a path. -/
def pathStep (done : List Segment) (t : Text) : Option (Toml.Step (List Segment) × Text) :=
  if t.isEmpty then some (.done done, [])
  else (segment? t).map fun (s, rest) => (.more (done ++ [s]), rest)

/-- **The path that a text names**: a key, and then keys behind points and
places in brackets. -/
def path? (t : Text) : Option (List Segment) := do
  let (name, rest) ← key? t
  let (path, _) ← Toml.loop pathStep [.key name] rest
  return path

/-- The path that a text names, or the text itself as a key. -/
def pathOrKey (t : Text) : List Segment :=
  (path? t).getD [.key t]

end Settings

end Treedown
