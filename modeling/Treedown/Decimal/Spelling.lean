import Treedown.Decimal.Shortest
import Treedown.Text.Basic
/-!
# Decimal — how a number is spelled

`Spelling.write` spells a binary number by its shortest digits. What is a
matter of taste is in the record: between which powers of ten the number
is written positionally, and whether a whole number carries a point.
-/

namespace Treedown

/-- The choices of a way of writing numbers. -/
structure Spelling where
  /-- The least and the greatest exponent of the leading digit that are
  written positionally; without them every number is. -/
  positional : Option (Int × Int)
  /-- Whether a whole number written positionally ends in `.0`. -/
  pointed : Bool

namespace Spelling

/-- The digits with the decimal point `places` digits from the right, or
with as many zeros in place of digits as are missing. -/
def place (s : Spelling) (digits : Text) (exponent : Int) : Text :=
  if 0 ≤ exponent then
    digits ++ List.replicate exponent.toNat '0' ++ (if s.pointed then ['.', '0'] else [])
  else
    let places := (-exponent).toNat
    let padded := List.replicate (places + 1 - digits.length) '0' ++ digits
    let whole := padded.length - places
    padded.take whole ++ '.' :: padded.drop whole

/-- The digits with the point after the first, and the exponent of that
first digit. -/
def scientific (digits : Text) (leading : Int) : Text :=
  let sign := if leading < 0 then '-' else '+'
  digits.take 1 ++ (if digits.length = 1 then [] else '.' :: digits.drop 1) ++
    ['e', sign] ++ Text.ofNat leading.natAbs

/-- A magnitude in this notation. -/
def writeMagnitude (s : Spelling) (m : Magnitude) : Text :=
  let d := Decimal.shortest m
  let digits := Text.ofNat d.coefficient
  let leading : Int := d.exponent + digits.length - 1
  match s.positional with
  | some (least, greatest) =>
    if m.isZero || (least ≤ leading && leading ≤ greatest) then s.place digits d.exponent
    else scientific digits leading
  | none => s.place digits d.exponent

/-- **A binary number in this notation.** -/
def write (s : Spelling) (x : Binary) : Text :=
  (if x.negative then ['-'] else []) ++ s.writeMagnitude x.magnitude

end Spelling

end Treedown
