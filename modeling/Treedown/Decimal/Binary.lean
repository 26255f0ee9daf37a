/-!
# Decimal — binary floating point in exact arithmetic

A finite number of the 64-bit binary format is a sign and a magnitude
`m · 2 ^ q` with `m` below `2 ^ 53` and `q` not below `-1074`. This module
rounds exact fractions to that format, to the nearest and a half to the
even neighbour, and multiplies and divides in it. Everything is done on
natural numbers, so a value can be reasoned about without the hardware.
-/

namespace Treedown

/-- **A magnitude of the binary format**: `mantissa · 2 ^ exponent`. -/
structure Magnitude where
  mantissa : Nat
  exponent : Int
  deriving DecidableEq, Repr

/-- A finite number of the binary format; zero has a sign too. -/
structure Binary where
  negative : Bool
  magnitude : Magnitude
  deriving DecidableEq, Repr

/-- A positive fraction, or zero: numerator and denominator. -/
structure Fraction where
  num : Nat
  den : Nat
  deriving DecidableEq, Repr

namespace Fraction

/-- The fraction `n · base ^ e`, for an exponent of either sign. -/
def scaled (base n : Nat) (e : Int) : Fraction :=
  if 0 ≤ e then ⟨n * base.pow e.toNat, 1⟩ else ⟨n, base.pow (-e).toNat⟩

/-- The exact product. -/
def mul (a b : Fraction) : Fraction :=
  ⟨a.num * b.num, a.den * b.den⟩

/-- The exact quotient. -/
def div (a b : Fraction) : Fraction :=
  ⟨a.num * b.den, a.den * b.num⟩

/-- The quotient rounded to the nearest whole number, a half to the even
neighbour. -/
def round (a : Fraction) : Nat :=
  let floor := a.num / a.den
  let rest := 2 * (a.num % a.den)
  if rest < a.den then floor
  else if rest > a.den then floor + 1
  else floor + floor % 2

end Fraction

namespace Magnitude

/-- Zero, with the exponent zero. -/
def zero : Magnitude := ⟨0, 0⟩

/-- Whether a magnitude is zero, whatever its exponent. -/
def isZero (m : Magnitude) : Bool :=
  m.mantissa == 0

/-- The exact value. -/
def toFraction (m : Magnitude) : Fraction :=
  .scaled 2 m.mantissa m.exponent

/-- What every mantissa is below. -/
def mantissaBound : Nat := Nat.pow 2 53

/-- The least exponent of the format. -/
def leastExponent : Int := -1074

/-- The greatest exponent of the format. -/
def greatestExponent : Int := 971

/-- The exponent at which a fraction's mantissa has 53 binary digits, but
never one below the least. The logarithms of numerator and denominator
give it up to one. -/
def exponentOf (a : Fraction) : Int :=
  let guess : Int := a.num.log2 - a.den.log2 - 53
  let q := max guess leastExponent
  let scaled := a.div (.scaled 2 1 q)
  if scaled.num / scaled.den < mantissaBound then q else q + 1

/-- **The nearest magnitude of a fraction**, or nothing when it is beyond
the greatest. -/
def ofFraction (a : Fraction) : Option Magnitude :=
  if a.num = 0 then some zero
  else
    let q := exponentOf a
    let m := (a.div (.scaled 2 1 q)).round
    let (m, q) := if m = mantissaBound then (mantissaBound / 2, q + 1) else (m, q)
    if greatestExponent < q then none else some ⟨m, q⟩

/-- The nearest magnitude of a whole number. -/
def ofNat (n : Nat) : Option Magnitude :=
  ofFraction ⟨n, 1⟩

/-- The nearest magnitude of `coefficient · 10 ^ exponent`. -/
def ofDecimal (coefficient : Nat) (exponent : Int) : Option Magnitude :=
  ofFraction (.scaled 10 coefficient exponent)

/-- The rounded product. -/
def mul (a b : Magnitude) : Option Magnitude :=
  ofFraction (a.toFraction.mul b.toFraction)

/-- The rounded quotient. -/
def div (a b : Magnitude) : Option Magnitude :=
  ofFraction (a.toFraction.div b.toFraction)

end Magnitude

end Treedown
