import Treedown.Decimal.Binary
/-!
# Decimal — the shortest digits that read back

A binary number is written with the fewest decimal digits that identify
it: every decimal inside the interval of reals that round to the number
reads back as it, and of the shortest such decimals the nearest is taken.
The search goes through the decimal grids from coarse to fine. If a point
of a grid lies in the interval, then so does one of the two neighbours of
the number on that grid, so only those two are tried.
-/

namespace Treedown

/-- **A decimal**: `coefficient · 10 ^ exponent`. -/
structure Decimal where
  coefficient : Nat
  exponent : Int
  deriving DecidableEq, Repr

namespace Decimal

/-- The number of decimal digits. -/
def digitCount (n : Nat) : Nat :=
  (Nat.toDigits 10 n).length

/-- The exponent of the leading digit of a positive fraction: the `e` with
`10 ^ e ≤ a < 10 ^ (e + 1)`. -/
def leadingExponent (a : Fraction) : Int :=
  if a.den ≤ a.num then (digitCount (a.num / a.den) : Int) - 1
  else
    let d := digitCount (a.den / a.num)
    if a.num * Nat.pow 10 (d - 1) = a.den then 1 - (d : Int) else -(d : Int)

/-- The interval of a magnitude and a grid, brought to one denominator.
The lower end, the value and the upper end are `low`, `value` and `high`
times `unit`; the points of the grid are the multiples of `step`. -/
structure Scale where
  low : Nat
  value : Nat
  high : Nat
  unit : Nat
  step : Nat
  closed : Bool

/-- The scale of a magnitude on the grid of multiples of `10 ^ k`. The
interval reaches half way to the neighbours, and its ends belong to it
when the mantissa is even. Below a power of two the neighbours are twice
as near. -/
def scale (m : Magnitude) (k : Int) : Scale :=
  let narrow := m.mantissa = Magnitude.mantissaBound / 2 && Magnitude.leastExponent < m.exponent
  let q := m.exponent - 2
  { low := 4 * m.mantissa - (if narrow then 1 else 2)
    value := 4 * m.mantissa
    high := 4 * m.mantissa + 2
    unit := Nat.pow 2 q.toNat * Nat.pow 10 (-k).toNat
    step := Nat.pow 10 k.toNat * Nat.pow 2 (-q).toNat
    closed := m.mantissa % 2 == 0 }

/-- Whether the grid's point number `a` reads back as the magnitude. -/
def Scale.holds (s : Scale) (a : Nat) : Bool :=
  let x := a * s.step
  if s.closed then s.low * s.unit ≤ x && x ≤ s.high * s.unit
  else s.low * s.unit < x && x < s.high * s.unit

/-- The point of the grid that is taken, if one reads back: of two the
nearer, and of two equally near ones the even. -/
def Scale.pick (s : Scale) : Option Nat :=
  let below := s.value * s.unit / s.step
  let rest := 2 * (s.value * s.unit % s.step)
  match s.holds below, s.holds (below + 1) with
  | true, true =>
    if rest < s.step then some below
    else if rest > s.step then some (below + 1)
    else some (below + below % 2)
  | true, false => some below
  | false, true => some (below + 1)
  | false, false => none

/-- The decimal without zeros at the end of its coefficient. -/
def trimmed : Nat → Decimal → Decimal
  | 0, d => d
  | fuel + 1, d =>
    if d.coefficient ≠ 0 ∧ d.coefficient % 10 = 0 then
      trimmed fuel ⟨d.coefficient / 10, d.exponent + 1⟩
    else d

/-- **The shortest decimal of a magnitude.** Seventeen digits identify
every magnitude, so the search never fails before its end. -/
def shortest (m : Magnitude) : Decimal :=
  if m.isZero then ⟨0, 0⟩
  else
    let e := leadingExponent m.toFraction
    let found := (List.range 17).findSome? fun (n : Nat) =>
      let k := e - (n : Int)
      (scale m k).pick.map fun a => (⟨a, k⟩ : Decimal)
    match found with
    | some d => trimmed (digitCount d.coefficient) d
    | none => ⟨0, 0⟩

end Decimal

end Treedown
