import CostGate.Number.Binary

/-!
# The shortest decimal of a double

The decimal with the fewest digits that reads back to a given double and, among those, the one
nearest to it. The reals that round to a double form an interval around it; powers of ten are
tried from large to small until one of the two neighbours of the double on the grid of multiples
of the power lies in the interval.
-/
namespace CostGate.Number

/-- The decimal `digits * 10 ^ exponent`. -/
structure Decimal where
  digits : Nat
  exponent : Int
  deriving Repr, DecidableEq

/-- Whether `a * 10 ^ i` is below, equal to or above `n * 2 ^ j`. -/
def compareScaled (a : Nat) (i : Int) (n : Nat) (j : Int) : Ordering :=
  compare (a * Nat.pow 10 i.toNat * Nat.pow 2 (-j).toNat)
    (n * Nat.pow 2 j.toNat * Nat.pow 10 (-i).toNat)

namespace Magnitude

/-- Four times the mantissa of the point halfway to the double below. That neighbour is nearer
when the mantissa is the least of its binade. -/
def lowerEnd (x : Magnitude) : Nat :=
  if x.mantissa = Nat.pow 2 52 ∧ -1074 < x.exponent then 4 * x.mantissa - 1
  else 4 * x.mantissa - 2

/-- Four times the mantissa of the point halfway to the double above. -/
def upperEnd (x : Magnitude) : Nat := 4 * x.mantissa + 2

/-- Whether a decimal rounds to the magnitude: it lies between the two ends, which are included
when the mantissa is even. -/
def readsBack (x : Magnitude) (d : Decimal) : Bool :=
  let low := compareScaled d.digits d.exponent x.lowerEnd (x.exponent - 2)
  let high := compareScaled d.digits d.exponent x.upperEnd (x.exponent - 2)
  let closed := x.mantissa % 2 = 0
  (low == .gt || (closed && low == .eq)) && (high == .lt || (closed && high == .eq))

/-- The greatest multiple of `10 ^ power` that is not above the magnitude. -/
def below (x : Magnitude) (power : Int) : Nat :=
  x.numerator * Nat.pow 10 (-power).toNat / (x.denominator * Nat.pow 10 power.toNat)

/-- The neighbour of the magnitude on the grid of `10 ^ power` that reads back, the nearer one
if both do; `tie` chooses if both are equally near. -/
def onGrid? (tie : Tie) (x : Magnitude) (power : Int) : Option Decimal :=
  let low : Decimal := ⟨x.below power, power⟩
  let high : Decimal := ⟨low.digits + 1, power⟩
  match x.readsBack low, x.readsBack high with
  | true, true =>
    let middle := compareScaled (low.digits + high.digits) power (2 * x.mantissa) x.exponent
    let takeLow := match middle, tie with
      | .gt, _ => true
      | .lt, _ => false
      | .eq, .toEven => low.digits % 2 = 0
      | .eq, .awayFromZero => false
    some (if takeLow then low else high)
  | true, false => some low
  | false, true => some high
  | false, false => none

/-- A power of ten above the magnitude, at most two digits too large. -/
def leadingPower (x : Magnitude) : Int :=
  ((x.mantissa.log2 : Int) + x.exponent + 1) * 30103 / 100000 + 1

/-- The first decimal that reads back on the grids from `10 ^ power` down. Twenty grids always
suffice, because seventeen digits tell all doubles apart; the value itself is the answer when
none of the tried grids has one. -/
def search (tie : Tie) (x : Magnitude) : Nat → Int → Decimal
  | 0, _ =>
    ⟨x.mantissa * Nat.pow 5 (-x.exponent).toNat * Nat.pow 2 x.exponent.toNat, min x.exponent 0⟩
  | grids + 1, power => match x.onGrid? tie power with
    | some d => d
    | none => search tie x grids (power - 1)

/-- The shortest decimal of a positive magnitude. -/
def shortest (tie : Tie) (x : Magnitude) : Decimal := search tie x 22 x.leadingPower

end Magnitude

end CostGate.Number
