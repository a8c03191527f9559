import CostGate.Number.Binary

/-!
# Quantities

Costs, thresholds and ratios are computed over any type of numbers with the operations of
`Quantity`. The program runs on doubles; the same definitions over the rationals say what the
formulas mean when every operation is exact.
-/
namespace CostGate.Number

/-- Numbers that costs and thresholds are computed with. -/
class Quantity (α : Type) extends Add α, Mul α, Div α, LT α, LE α, OfScientific α where
  /-- The number of a count. -/
  ofCount : Nat → α
  /-- The nearest integer, a half going away from zero. -/
  nearest : α → α
  /-- Neither infinite nor undefined. -/
  isFinite : α → Bool
  /-- The value of no operation. -/
  isUndefined : α → Bool
  /-- Comparison is decidable. -/
  decLt : (x y : α) → Decidable (x < y)
  decLe : (x y : α) → Decidable (x ≤ y)

instance Quantity.decidableLT {α : Type} [Quantity α] (x y : α) : Decidable (x < y) :=
  Quantity.decLt x y

instance Quantity.decidableLE {α : Type} [Quantity α] (x y : α) : Decidable (x ≤ y) :=
  Quantity.decLe x y

export Quantity (ofCount nearest isFinite isUndefined)

instance : Quantity Float where
  ofCount := Float.ofNat
  nearest := nearestInteger
  isFinite := Float.isFinite
  isUndefined := Float.isNaN
  decLt := inferInstance
  decLe := inferInstance

/-- The integer nearest to a rational, a half going away from zero. -/
def nearestOfRat (x : Rat) : Rat :=
  if x < 0 then -((-x + 1 / 2).floor : Rat) else ((x + 1 / 2).floor : Rat)

instance : Quantity Rat where
  ofCount n := (n : Rat)
  nearest := nearestOfRat
  isFinite _ := true
  isUndefined _ := false
  decLt := inferInstance
  decLe := inferInstance

variable {α : Type} [Quantity α]

/-- Powers by squaring: `result * base ^ n`, one multiplication for each binary digit of `n`
that is set. -/
def powerOnto (base result : α) (n : Nat) : α :=
  let result := if n % 2 = 1 then result * base else result
  if n / 2 = 0 then result else powerOnto (base * base) result (n / 2)
termination_by n
decreasing_by omega

/-- A power of ten; a negative one is the reciprocal of the positive one. -/
def tenTo (n : Int) : α :=
  let power := powerOnto (10.0 : α) 1.0 n.natAbs
  if n < 0 then 1.0 / power else power

/-- A number rounded to a count of decimal places, a half going away from zero. -/
def roundTo (x : α) (places : Int) : α :=
  let scale : α := tenTo places
  nearest (x * scale) / scale

/-- Whether a number is finite and not below zero. -/
def isNonnegative (x : α) : Bool := isFinite x && decide (0.0 ≤ x)

/-- Whether a number is finite and above zero. -/
def isPositive (x : α) : Bool := isFinite x && decide (0.0 < x)

/-- The sum of a list from the left. -/
def total (xs : List α) : α := xs.foldl (· + ·) 0.0

end CostGate.Number
