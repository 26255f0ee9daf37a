import Treedown.Decimal.Spelling
/-!
# Decimal — all numbers of the binary format

The finite numbers, the two infinite ones, and what is no number. A
decimal of any exponent is read as the nearest of them; beyond the
greatest finite one that is an infinite one.
-/

namespace Treedown

/-- **A number of the binary format.** -/
inductive Extended
  | finite (x : Binary)
  | infinite (negative : Bool)
  | undefined
  deriving DecidableEq, Repr

namespace Extended

/-- A power of ten below every positive number of the format. -/
def lowestPower : Int := -340

/-- A power of ten above every number of the format. -/
def highestPower : Int := 320

/-- **The number nearest to `coefficient · 10 ^ exponent`.** A decimal far
out is settled by its length. -/
def ofDecimal (negative : Bool) (coefficient : Nat) (exponent : Int) : Extended :=
  let length : Int := exponent + (Text.ofNat coefficient).length
  if coefficient = 0 || length < lowestPower then .finite ⟨negative, .zero⟩
  else if highestPower < length then .infinite negative
  else match Magnitude.ofDecimal coefficient exponent with
    | some m => .finite ⟨negative, m⟩
    | none => .infinite negative

/-- Whether a number is zero, of either sign. -/
def isZero : Extended → Bool
  | .finite x => x.magnitude.isZero
  | _ => false

/-- A number in some notation. -/
def write (s : Spelling) : Extended → Text
  | .finite x => s.write x
  | .infinite negative => if negative then "-inf" else "inf"
  | .undefined => "NaN"

end Extended

end Treedown
