import Treedown.Json.Token
/-!
# JSON — a text read up to its first flaw

Whoever reads a tree from a JSON text meets the faults of the text and the
faults of the tree in one order, the order of the text: a member of the
wrong type is reported even when the text breaks off behind it. So a text
is not first judged as JSON and then read. It is brought into the form of
a tree as far as it goes, a `Reading`, where a flaw stands in the place
where the text stops, and a consumer that goes through the reading from
left to right meets every fault in its turn.

The tree is built by a machine with a stack of the brackets that are
open. It takes one token at a time, so its run ends with the tokens.
-/

namespace Treedown.Json

/-- The key of a member: its text, or the flaw that a reader meets who
wants it. -/
abbrev Key := Except Flaw Text

/-- **A text read as JSON up to its first flaw.** A list and an object end
with their closing bracket, or halt in front of a separator or a key. -/
inductive Reading
  | null
  | bool (b : Bool)
  | number (n : Except Flaw Number)
  | string (s : Except Flaw Text)
  | list (items : List Reading) (halt : Option Halt)
  | object (members : List (Key × Reading)) (halt : Option Halt)
  /-- No value: the text breaks off in front of it or inside it. -/
  | flawed (halt : Halt)

/-! ## The machine -/

/-- A bracket that is open: the values read inside it, the last first. -/
inductive Frame
  | list (items : List Reading)
  | object (members : List (Key × Reading))
  /-- An object whose last key waits for its value. -/
  | member (members : List (Key × Reading)) (key : Key)

/-- What the machine takes next. -/
inductive Want
  | value
  /-- A value, or the end of a list that has just been opened. -/
  | firstItem
  /-- A key, or the end of an object that has just been opened. -/
  | firstKey
  | key
  | colon
  /-- A comma, or the end of the innermost bracket. -/
  | more

/-- The reading that results when the text halts at a value inside the
open brackets. -/
def unwind (halt : Halt) : Reading → List Frame → Reading
  | r, [] => r
  | r, .list items :: stack => unwind halt (.list (r :: items).reverse (some halt)) stack
  | _, .object members :: stack => unwind halt (.object members.reverse (some halt)) stack
  | r, .member members key :: stack =>
    unwind halt (.object ((key, r) :: members).reverse (some halt)) stack

/-- The reading that results when the text halts in place of a value. -/
def haltAtValue (halt : Halt) (stack : List Frame) : Reading :=
  unwind halt (.flawed halt) stack

/-- The reading that results when the text halts in front of a separator,
a closing bracket or a key. -/
def haltBetween (halt : Halt) : List Frame → Reading
  | .list items :: stack => unwind halt (.list items.reverse (some halt)) stack
  | .object members :: stack => unwind halt (.object members.reverse (some halt)) stack
  | stack => haltAtValue halt stack

/-- What a token leads to. -/
inductive Step
  | proceed (want : Want) (stack : List Frame)
  /-- The outermost value is complete. -/
  | complete (r : Reading)
  | halted (r : Reading)

/-- A value is complete: it goes into the innermost bracket. -/
def settle (r : Reading) : List Frame → Step
  | [] => .complete r
  | .list items :: stack => .proceed .more (.list (r :: items) :: stack)
  | .object members :: stack => .proceed .more (.object members :: stack)
  | .member members key :: stack => .proceed .more (.object ((key, r) :: members) :: stack)

/-- A token in the place of a value. -/
def stepValue (stack : List Frame) : Token → Step
  | .null => settle .null stack
  | .bool b => settle (.bool b) stack
  | .number n => settle (.number n) stack
  | .string s => settle (.string s) stack
  | .openList => .proceed .firstItem (.list [] :: stack)
  | .openObject => .proceed .firstKey (.object [] :: stack)
  | .brokenString halt | .broken halt => .halted (haltAtValue halt stack)
  | .closeList | .closeObject | .comma | .colon =>
    .halted (haltAtValue (.both .malformed) stack)

/-- A token in the place of a key. -/
def stepKey (stack : List Frame) : Token → Step
  | .string key =>
    match stack with
    | .object members :: stack => .proceed .colon (.member members key :: stack)
    | stack => .halted (haltBetween (.both .malformed) stack)
  | .brokenString halt => .halted (haltBetween halt stack)
  | _ => .halted (haltBetween (.both .malformed) stack)

/-- One token. -/
def step (want : Want) (stack : List Frame) (t : Token) : Step :=
  match want, t, stack with
  | .firstItem, .closeList, .list _ :: stack => settle (.list [] none) stack
  | .firstKey, .closeObject, .object _ :: stack => settle (.object [] none) stack
  | .value, t, stack | .firstItem, t, stack => stepValue stack t
  | .key, t, stack | .firstKey, t, stack => stepKey stack t
  | .colon, .colon, stack => .proceed .value stack
  | .colon, _, stack => .halted (haltAtValue (.both .malformed) stack)
  | .more, .comma, .list items :: stack => .proceed .value (.list items :: stack)
  | .more, .comma, .object members :: stack => .proceed .key (.object members :: stack)
  | .more, .closeList, .list items :: stack => settle (.list items.reverse none) stack
  | .more, .closeObject, .object members :: stack => settle (.object members.reverse none) stack
  | .more, _, stack => .halted (haltBetween (.both .malformed) stack)

/-- The reading when the tokens end too early. -/
def stepEnd (want : Want) (stack : List Frame) : Reading :=
  match want with
  | .value | .colon => haltAtValue (.both .truncated) stack
  | .firstItem | .firstKey | .key | .more => haltBetween (.both .truncated) stack

/-- The machine run on a row of tokens, and the tokens behind the
outermost value. -/
def run (want : Want) (stack : List Frame) : List Token → Reading × List Token
  | [] => (stepEnd want stack, [])
  | t :: rest =>
    match step want stack t with
    | .proceed want stack => run want stack rest
    | .complete r => (r, rest)
    | .halted r => (r, [])

/-- **The reading of a text**, and whether anything but blanks follows the
value. -/
def read (s : Text) : Reading × Bool :=
  let (r, rest) := run .value [] (tokens s)
  (r, !rest.isEmpty)

end Treedown.Json
