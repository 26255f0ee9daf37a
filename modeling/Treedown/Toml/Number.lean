import Treedown.Toml.Value
/-!
# TOML — numbers

Whole numbers of 64 bits in four bases, and numbers with a fraction or an
exponent. An underscore may stand between two digits. A number too great to
be finite is refused, but not one that is too small.
-/

namespace Treedown

namespace Toml

/-- Digits with single underscores between them. -/
def moreDigits (p : Char → Bool) : Text → Text × Text
  | '_' :: c :: rest =>
    if p c then (c :: (moreDigits p rest).1, (moreDigits p rest).2) else ([], '_' :: c :: rest)
  | c :: rest =>
    if p c then (c :: (moreDigits p rest).1, (moreDigits p rest).2) else ([], c :: rest)
  | [] => ([], [])

/-- At least one digit. -/
def digits? (p : Char → Bool) : Text → Option (Text × Text)
  | c :: rest =>
    if p c then some (c :: (moreDigits p rest).1, (moreDigits p rest).2) else none
  | [] => none

/-- The value of a digit. -/
def digitValue (c : Char) : Nat :=
  if c.isDigit then c.toNat - 48 else c.toLower.toNat - 87

/-- The number of digits in a base. -/
def ofDigits (base : Nat) (digits : Text) : Nat :=
  digits.foldl (fun n c => base * n + digitValue c) 0

/-- What the whole numbers of 64 bits are below. -/
def integerBound : Nat := Nat.pow 2 63

/-- Whether a whole number has 64 bits. -/
def fits (n : Int) : Bool :=
  -integerBound ≤ n && n < integerBound

/-- A whole number of 64 bits. -/
def integer? (n : Int) (rest : Text) : Option (Value × Text) :=
  if fits n then some (.integer n, rest) else none

/-- The sign in front of a number: whether it is a minus. -/
def sign : Text → Bool × Text
  | '-' :: rest => (true, rest)
  | '+' :: rest => (false, rest)
  | rest => (false, rest)

/-- The whole part of a number: a zero is not followed by digits. -/
def whole? : Text → Option (Text × Text)
  | '0' :: rest => some (['0'], rest)
  | t => digits? Char.isDigit t

/-- The digits behind a point, if there is a point. -/
def fraction? : Text → Option (Text × Text)
  | '.' :: rest => digits? Char.isDigit rest
  | rest => some ([], rest)

/-- The exponent of a number, if there is one. -/
def exponent? : Text → Option (Option Int × Text)
  | [] => some (none, [])
  | e :: rest =>
    if e = 'e' ∨ e = 'E' then
      (digits? Char.isDigit (sign rest).2).map fun (digits, after) =>
        let n : Int := ofDigits 10 digits
        (some (if (sign rest).1 then -n else n), after)
    else some (none, e :: rest)

/-- A number in decimal notation. -/
def decimal? (t : Text) : Option (Value × Text) := do
  let (negative, unsigned) := sign t
  let (whole, afterWhole) ← whole? unsigned
  let (fraction, afterFraction) ← fraction? afterWhole
  let (exponent, rest) ← exponent? afterFraction
  if fraction.isEmpty && exponent.isNone then
    let n : Int := ofDigits 10 whole
    integer? (if negative then -n else n) rest
  else
    match Extended.ofDecimal negative (ofDigits 10 (whole ++ fraction))
      (exponent.getD 0 - fraction.length) with
    | .infinite false => none
    | x => some (.float x, rest)

/-- A number in another base. -/
def based? (base : Nat) (p : Char → Bool) (t : Text) : Option (Value × Text) := do
  let (digits, rest) ← digits? p t
  integer? (ofDigits base digits) rest

/-- An infinite number, or what is no number. -/
def special? (t : Text) : Option (Value × Text) :=
  match (sign t).2 with
  | 'i' :: 'n' :: 'f' :: rest => some (.float (.infinite (sign t).1), rest)
  | 'n' :: 'a' :: 'n' :: rest => some (.float .undefined, rest)
  | _ => none

/-- Whether a character is a hexadecimal digit, in either case. -/
def isHexDigit (c : Char) : Bool :=
  c.isDigit || ('a' ≤ c.toLower && c.toLower ≤ 'f')

/-- **A number.** -/
def number? (t : Text) : Option (Value × Text) :=
  match t with
  | '0' :: 'x' :: rest => based? 16 isHexDigit rest
  | '0' :: 'o' :: rest => based? 8 (fun c => '0' ≤ c && c ≤ '7') rest
  | '0' :: 'b' :: rest => based? 2 (fun c => c == '0' || c == '1') rest
  | t => (special? t).or (decimal? t)

end Toml

end Treedown
