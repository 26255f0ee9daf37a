import Treedown.Toml.Moment
import Treedown.Toml.Number
import Treedown.Toml.Quotation
import Treedown.Toml.Table
/-!
# TOML — documents

A document is read line by line: a line is empty, opens a table, or gives a
value to a key of the table that is open. A value may go over several
lines. `read` returns the values of a whole document, or nothing when some
line of it is no TOML or comes too late.
-/

namespace Treedown

namespace Toml

/-- A value without brackets. -/
def plain? (t : Text) : Option (Value × Text) :=
  match t with
  | '"' :: _ | '\'' :: _ => (string? t).map fun (s, rest) => (.string s, rest)
  | 't' :: 'r' :: 'u' :: 'e' :: rest => some (.boolean true, rest)
  | 'f' :: 'a' :: 'l' :: 's' :: 'e' :: rest => some (.boolean false, rest)
  | t =>
    match moment? t with
    | some (spelling, rest) => some (.moment spelling, rest)
    | none => number? t

/-- A step along a list of values, from behind its bracket or a comma. -/
def listStep (value : Text → Option (Value × Text)) (done : List Value) (t : Text) :
    Option (Step (List Value) × Text) := do
  match ← dropLayout false t with
  | ']' :: rest => some (.done done, rest)
  | t =>
    let (v, rest) ← value t
    match ← dropLayout false rest with
    | ',' :: rest => some (.more (done ++ [v]), rest)
    | ']' :: rest => some (.done (done ++ [v]), rest)
    | _ => none

/-- A dotted key and its value. -/
def pair? (value : Text → Option (Value × Text)) (t : Text) :
    Option ((List Text × Value) × Text) := do
  let (path, rest) ← keys? t
  let (v, rest) ← value (dropSpace (← behind? '=' rest))
  some ((path, v), rest)

/-- A step along a table on one line. -/
def tableStep (value : Text → Option (Value × Text)) (done : Entries) (t : Text) :
    Option (Step Entries × Text) := do
  let ((path, v), rest) ← pair? value t
  let done ← assign path v .defined done
  match dropSpace rest with
  | ',' :: rest => some (.more done, rest)
  | '}' :: rest => some (.done done, rest)
  | _ => none

/-- A table on one line, from behind its bracket. -/
def inlineTable? (value : Text → Option (Value × Text)) (t : Text) : Option (Value × Text) :=
  match dropSpace t with
  | '}' :: rest => some (.table [], rest)
  | t => (loop (tableStep value) [] t).map fun (entries, rest) => (.table (freezeAll entries), rest)

/-- **A value**; `room` is how many brackets may be open around what it
holds. -/
def value? : Nat → Text → Option (Value × Text)
  | room + 1, '[' :: rest =>
    (loop (listStep (value? room)) [] rest).map fun (vs, rest) => (.list vs, rest)
  | room + 1, '{' :: rest => inlineTable? (value? room) rest
  | _, t => plain? t

/-- What has been read of a document: its entries, and the table that is
open. -/
structure Progress where
  entries : Entries
  current : List Text

/-- The line that opens one of the tables of a name. -/
def appendLine? (p : Progress) (t : Text) : Option (Progress × Text) := do
  let (path, rest) ← keys? t
  let rest ← endLine? (← behind? ']' (← behind? ']' rest))
  some (⟨← append path p.entries, path⟩, rest)

/-- The line that defines a table. -/
def defineLine? (p : Progress) (t : Text) : Option (Progress × Text) := do
  let (path, rest) ← keys? t
  let rest ← endLine? (← behind? ']' rest)
  some (⟨← define path p.entries, path⟩, rest)

/-- The line that gives a value to a key of the open table. -/
def assignLine? (p : Progress) (t : Text) : Option (Progress × Text) := do
  let ((path, v), rest) ← pair? (value? depthLimit) t
  let rest ← endLine? rest
  let entries ← within .implied (assign path v) p.current .defined p.entries
  some ({ p with entries }, rest)

/-- A line of a document. -/
def lineStep (p : Progress) (t : Text) : Option (Step Progress × Text) :=
  let more : Progress × Text → Step Progress × Text := fun (p, rest) => (.more p, rest)
  if t.isEmpty then some (.done p, [])
  else match endLine? t with
    | some rest => some (.more p, rest)
    | none =>
      match dropSpace t with
      | '[' :: '[' :: rest => (appendLine? p rest).map more
      | '[' :: rest => (defineLine? p rest).map more
      | rest => (assignLine? p rest).map more

/-- The text without a byte order mark in front. -/
def dropMark : Text → Text
  | '\uFEFF' :: rest => rest
  | rest => rest

/-- **The values of a document.** -/
def read (t : Text) : Option (List (Text × Value)) :=
  (loop lineStep ⟨[], []⟩ (dropMark t)).map fun (p, _) => freezeAll p.entries

end Toml

end Treedown
