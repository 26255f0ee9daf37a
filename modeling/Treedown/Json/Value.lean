import Treedown.Decimal.Spelling
import Treedown.Json.Literal
/-!
# JSON — values and their compact text

A `Json` value is a complete JSON text without its spelling. `print`
writes it without any blank, members in the order they stand in. A
character is escaped only where JSON demands it.
-/

namespace Treedown

/-- **A JSON value.** -/
inductive Json
  | null
  | bool (b : Bool)
  | number (n : Json.Number)
  | string (s : Text)
  | list (items : List Json)
  | object (members : List (Text × Json))

namespace Json

/-- Binary numbers are written positionally from `0.00001` up to sixteen
digits and always show that they are no whole numbers. -/
def spelling : Spelling := ⟨some (-5, 15), true⟩

/-- A number's text. -/
def Number.print : Number → Text
  | .natural n => Text.ofNat n
  | .negative n => '-' :: Text.ofNat n
  | .float x => spelling.write x

/-- A character inside a string. Control characters without an escape of
their own are written by their number. -/
def escape (c : Char) : Text :=
  if c = '"' then ['\\', '"']
  else if c = '\\' then ['\\', '\\']
  else if c = '\x08' then ['\\', 'b']
  else if c = '\x0c' then ['\\', 'f']
  else if c = '\n' then ['\\', 'n']
  else if c = '\r' then ['\\', 'r']
  else if c = '\t' then ['\\', 't']
  else if c.toNat < 0x20 then
    let digits := Nat.toDigits 16 c.toNat
    ['\\', 'u'] ++ List.replicate (4 - digits.length) '0' ++ digits
  else [c]

/-- A string's text. -/
def printString (s : Text) : Text :=
  ['"'] ++ s.flatMap escape ++ ['"']

mutual

/-- **The compact text of a value.** -/
def print : Json → Text
  | .null => "null"
  | .bool true => "true"
  | .bool false => "false"
  | .number n => n.print
  | .string s => printString s
  | .list items => ['['] ++ printItems items ++ [']']
  | .object members => ['\x7b'] ++ printMembers members ++ ['\x7d']

/-- The items of a list with commas between them. -/
def printItems : List Json → Text
  | [] => []
  | [item] => print item
  | item :: more => print item ++ [','] ++ printItems more

/-- The members of an object with commas between them. -/
def printMembers : List (Text × Json) → Text
  | [] => []
  | [(key, value)] => printString key ++ [':'] ++ print value
  | (key, value) :: more => printString key ++ [':'] ++ print value ++ [','] ++ printMembers more

end

end Json

end Treedown
