import Treedown.Decimal.Spelling
import Treedown.Json.Reading
import Treedown.Json.Value
import Treedown.Text.Quoted
/-!
# JSON — faults of shape

What can be wrong with a JSON text that is meant to hold a certain kind of
thing: it may not be JSON, or it may be JSON of another shape. The flaws of
the first kind carry no message of their own; a fault of shape says what
was found and what was expected.
-/

namespace Treedown.Json

/-- What stands where something else was expected. -/
inductive Found
  | null
  | bool (b : Bool)
  | number (n : Number)
  | string (s : Text)
  | list
  | object

/-- What a found thing is called. -/
def Found.describe : Found → Text
  | .null => "null"
  | .bool b => ("boolean `" : Text) ++ (if b then "true" else "false") ++ "`".toList
  | .number (.float x) => ("floating point `" : Text) ++ spelling.write x ++ "`".toList
  | .number n => ("integer `" : Text) ++ n.print ++ "`".toList
  | .string s => ("string " : Text) ++ s.quoted
  | .list => "sequence"
  | .object => "map"

/-- A record as it is called in messages: its name and its number of
fields. -/
structure Shape where
  name : Text
  size : Nat

/-- **Why a text does not hold what it is meant to hold.** -/
inductive Fault
  | flaw (f : Flaw)
  | wrongType (found : Found) (expected : Text)
  | wrongValue (found : Found) (expected : Text)
  /-- A record written as a list breaks off in front of a field that it
  must have. -/
  | wrongLength (length : Nat) (shape : Shape)
  | missingField (field : Text)
  | repeatedField (field : Text)

/-- The message of a fault of shape. -/
def Fault.message : Fault → Option Text
  | .flaw _ => none
  | .wrongType found expected =>
    some (("invalid type: " : Text) ++ found.describe ++ ", expected ".toList ++ expected)
  | .wrongValue found expected =>
    some (("invalid value: " : Text) ++ found.describe ++ ", expected ".toList ++ expected)
  | .wrongLength length shape =>
    some (("invalid length " : Text) ++ Text.ofNat length ++ ", expected struct ".toList ++
      shape.name ++ " with ".toList ++ Text.ofNat shape.size ++
      (if shape.size = 1 then " element" else " elements").toList)
  | .missingField field => some (("missing field `" : Text) ++ field ++ "`".toList)
  | .repeatedField field => some (("duplicate field `" : Text) ++ field ++ "`".toList)

namespace Reading

/-- What a reader finds who looks at the front of a value. A list and an
object are recognised by their bracket alone. -/
def found : Reading → Except Flaw Found
  | .null => .ok .null
  | .bool b => .ok (.bool b)
  | .number n => n.map .number
  | .string s => s.map .string
  | .list _ _ => .ok .list
  | .object _ _ => .ok .object
  | .flawed halt => .error halt.wanted

/-- The fault of a value that is not what was expected. -/
def mismatch (expected : Text) (r : Reading) : Fault :=
  match r.found with
  | .ok found => .wrongType found expected
  | .error f => .flaw f

end Reading

end Treedown.Json
