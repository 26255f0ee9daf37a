import Treedown.Json.Fault
/-!
# JSON — decoding

Decoders take a reading and return what it is meant to hold or the first
fault in the order of the text. Lists and records count against a limit on
how deep brackets may be nested (`depthLimit`); a value that is passed over
may nest without limit.

A record is an object with known fields or a list of the fields in their
order. Unknown members are passed over and a known one may stand only once.
`record` is the common part of all records: it is told how to store one
field and leaves the fields that are absent at their defaults, except those
that are required.
-/

namespace Treedown.Json

/-- How many brackets may be open around a decoded value. -/
def depthLimit : Nat := 127

/-- What a decoder comes to. -/
abbrev Decoded (α : Type) := Except Fault α

namespace Reading

/-! ## Passing over -/

mutual

/-- The flaw that a reader meets who passes over a value. -/
def skip : Reading → Option Flaw
  | .null | .bool _ | .number _ | .string _ => none
  | .list items halt => (skipItems items).or (halt.map (·.skipped))
  | .object members halt => (skipMembers members).or (halt.map (·.skipped))
  | .flawed halt => some halt.skipped

/-- The first flaw in values one after the other. -/
def skipItems : List Reading → Option Flaw
  | [] => none
  | item :: rest => (skip item).or (skipItems rest)

/-- The first flaw in the values of members. -/
def skipMembers : List (Key × Reading) → Option Flaw
  | [] => none
  | (_, value) :: rest => (skip value).or (skipMembers rest)

end

/-! ## Plain values -/

/-- A text; `expected` is what a mismatch calls it. -/
def asText (expected : Text) : Reading → Decoded Text
  | .string (.ok s) => .ok s
  | r => .error (r.mismatch expected)

/-- A text of any content. -/
def asString : Reading → Decoded Text :=
  asText "a string"

/-- A whole number of 64 bits. -/
def asCount : Reading → Decoded UInt64
  | .number (.ok (.natural n)) => .ok (.ofNat n)
  | .number (.ok (.negative n)) => .error (.wrongValue (.number (.negative n)) "usize")
  | r => .error (r.mismatch "usize")

/-- A truth value. -/
def asBool : Reading → Decoded Bool
  | .bool b => .ok b
  | r => .error (r.mismatch "a boolean")

/-- A value that may be `null`. -/
def asOption {α : Type} (decode : Reading → Decoded α) : Reading → Decoded (Option α)
  | .null => .ok none
  | r => (decode r).map some

/-- The flaw in front of the end of a bracket. -/
def ended (halt : Option Halt) : Decoded Unit :=
  match halt with
  | none => .ok ()
  | some halt => .error (.flaw halt.wanted)

/-- Decoders one after the other, and then the end of the bracket. -/
def inOrder {α : Type} (halt : Option Halt) : List (Decoded α) → Decoded (List α)
  | [] => (ended halt).map fun _ => []
  | item :: rest => do
    let value ← item
    let values ← inOrder halt rest
    return value :: values

/-- A list of values; `room` is how many brackets may still be opened. -/
def asList {α : Type} (decode : Nat → Reading → Decoded α) (room : Nat) :
    Reading → Decoded (List α)
  | .list items halt =>
    match room with
    | 0 => .error (.flaw .malformed)
    | room + 1 => inOrder halt (items.map (decode room))
  | r => .error (r.mismatch "a sequence")

/-! ## Values of any shape -/

/-- The members with one more; a key that is there already takes the new
value, and keys stand in the order of their characters. -/
def insertMember (key : Text) (value : Json) : List (Text × Json) → List (Text × Json)
  | [] => [(key, value)]
  | (k, v) :: rest =>
    if key = k then (k, value) :: rest
    else if key < k then (key, value) :: (k, v) :: rest
    else (k, v) :: insertMember key value rest

mutual

/-- **A value of any shape**, the members of its objects in order. -/
def asJson : Reading → Nat → Decoded Json
  | .null, _ => .ok .null
  | .bool b, _ => .ok (.bool b)
  | .number n, _ => (n.map .number).mapError .flaw
  | .string s, _ => (s.map .string).mapError .flaw
  | .list items halt, room =>
    match room with
    | 0 => .error (.flaw .malformed)
    | room + 1 => (asJsonItems items room halt).map .list
  | .object members halt, room =>
    match room with
    | 0 => .error (.flaw .malformed)
    | room + 1 => (asJsonMembers members room halt []).map .object
  | .flawed halt, _ => .error (.flaw halt.wanted)

/-- The items of a list in order, up to its end. -/
def asJsonItems : List Reading → Nat → Option Halt → Decoded (List Json)
  | [], _, halt => (ended halt).map fun _ => []
  | item :: rest, room, halt => do
    let value ← asJson item room
    let values ← asJsonItems rest room halt
    return value :: values

/-- The members of an object, in the order of their keys. -/
def asJsonMembers : List (Key × Reading) → Nat → Option Halt → List (Text × Json) →
    Decoded (List (Text × Json))
  | [], _, halt, done => (ended halt).map fun _ => done
  | (key, value) :: rest, room, halt, done => do
    let key ← key.mapError .flaw
    let value ← asJson value room
    asJsonMembers rest room halt (insertMember key value done)

end

/-! ## Records -/

/-- The fields of a record in their order, each with whether it must be
there. -/
structure Fields where
  name : Text
  fields : List (Text × Bool)

namespace Fields

/-- The record as messages call it. -/
def shape (f : Fields) : Shape := ⟨f.name, f.fields.length⟩

/-- The members of an object: known ones are stored, each once, and the
others passed over. -/
def ofMembers {σ ρ : Type} (f : Fields) (store : σ → Text → ρ → Decoded σ)
    (skip : ρ → Option Flaw) : σ → List Text → List (Key × ρ) → Decoded (σ × List Text)
  | state, seen, [] => .ok (state, seen)
  | state, seen, (key, value) :: rest => do
    let key ← key.mapError .flaw
    if f.fields.any (·.1 == key) then
      if key ∈ seen then throw (.repeatedField key)
      let state ← store state key value
      ofMembers f store skip state (key :: seen) rest
    else match skip value with
      | some flaw => throw (.flaw flaw)
      | none => ofMembers f store skip state seen rest

/-- The items of a list in the place of the fields. `index` is the number
of fields that were stored; items behind the last field are malformed. -/
def ofItems {σ ρ : Type} (f : Fields) (store : σ → Text → ρ → Decoded σ)
    (halt : Option Halt) : σ → Nat → List (Text × Bool) → List ρ → Decoded σ
  | state, _, [], [] => (ended halt).map fun _ => state
  | _, _, [], _ :: _ => .error (.flaw .malformed)
  | state, index, fields, [] => do
    ended halt
    match fields.findIdx? (·.2) with
    | some n => throw (.wrongLength (index + n) f.shape)
    | none => return state
  | state, index, (field, _) :: fields, item :: items => do
    let state ← store state field item
    ofItems f store halt state (index + 1) fields items

end Fields

/-- A reading whose parts carry something that belongs to them. -/
inductive Parts (ρ : Type)
  | members (members : List (Key × ρ)) (halt : Option Halt)
  | items (items : List ρ) (halt : Option Halt)
  /-- Neither an object nor a list. -/
  | neither (r : Reading)

/-- The parts of a reading, as they are. -/
def parts : Reading → Parts Reading
  | .object members halt => .members members halt
  | .list items halt => .items items halt
  | r => .neither r

/-- **A record**, from an object or from a list of its fields. -/
def record {σ ρ : Type} (f : Fields) (store : Nat → σ → Text → ρ → Decoded σ)
    (skip : ρ → Option Flaw) (initial : σ) (room : Nat) : Parts ρ → Decoded σ
  | .neither r => .error (r.mismatch (("struct " : Text) ++ f.name))
  | .members members halt =>
    match room with
    | 0 => .error (.flaw .malformed)
    | room + 1 => do
      let (state, seen) ← f.ofMembers (store room) skip initial [] members
      ended halt
      match f.fields.find? fun field => field.2 && !seen.contains field.1 with
      | some field => throw (.missingField field.1)
      | none => return state
  | .items items halt =>
    match room with
    | 0 => .error (.flaw .malformed)
    | room + 1 => f.ofItems (store room) halt initial 0 f.fields items

end Reading

/-- **The thing that a text holds**: the value decoded, and nothing but
blanks behind it. -/
def decode {α : Type} (f : Nat → Reading → Decoded α) (s : Text) : Decoded α := do
  let (r, more) := read s
  let value ← f depthLimit r
  if more then throw (.flaw .malformed)
  return value

end Treedown.Json
