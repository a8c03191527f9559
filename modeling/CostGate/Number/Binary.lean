/-!
# Doubles as integers times powers of two

A double is taken apart into its sign, an integer and a power of two. Everything that rounds or
prints a double works on these parts, so it is computed with integers and never with an
approximation.
-/
namespace CostGate.Number

/-- A finite magnitude `mantissa * 2 ^ exponent`. -/
structure Magnitude where
  mantissa : Nat
  exponent : Int
  deriving Repr, DecidableEq

/-- What a double stands for. The flag of a signed value is set when it is negative. -/
inductive Parts where
  | notANumber
  | infinite (negative : Bool)
  | finite (negative : Bool) (magnitude : Magnitude)
  deriving Repr, DecidableEq

namespace Parts

/-- The parts encoded by the sixty-four bits of a double. -/
def ofBits (bits : UInt64) : Parts :=
  let b : Nat := bits.toNat
  let negative := decide (Nat.pow 2 63 ≤ b)
  let biased : Nat := b / Nat.pow 2 52 % Nat.pow 2 11
  let fraction : Nat := b % Nat.pow 2 52
  if biased = 2047 then
    if fraction = 0 then .infinite negative else .notANumber
  else if biased = 0 then .finite negative ⟨fraction, -1074⟩
  else .finite negative ⟨Nat.pow 2 52 + fraction, (biased : Int) - 1075⟩

def ofFloat (x : Float) : Parts := ofBits x.toBits

end Parts

/-- How a quotient that lies exactly between two integers is rounded. -/
inductive Tie where
  | toEven
  | awayFromZero
  deriving Repr, DecidableEq

/-- The integer nearest to `num / den`. -/
def roundQuotient (tie : Tie) (num den : Nat) : Nat :=
  let quotient := num / den
  let twice := 2 * (num % den)
  if twice < den then quotient
  else if den < twice then quotient + 1
  else match tie with
    | .toEven => if quotient % 2 = 0 then quotient else quotient + 1
    | .awayFromZero => quotient + 1

namespace Magnitude

/-- The magnitude as a quotient of naturals. -/
def numerator (x : Magnitude) : Nat := x.mantissa * Nat.pow 2 x.exponent.toNat

/-- The power of two below a magnitude with a negative exponent. -/
def denominator (x : Magnitude) : Nat := Nat.pow 2 (-x.exponent).toNat

theorem denominator_pos (x : Magnitude) : 0 < x.denominator := Nat.two_pow_pos _

/-- The magnitude times a natural, rounded to an integer. -/
def roundTimes (tie : Tie) (x : Magnitude) (factor : Nat) : Nat :=
  roundQuotient tie (x.numerator * factor) x.denominator

end Magnitude

/-- The integer nearest to a double, a half going away from zero. A double with a nonnegative
exponent is an integer already, and the sign survives rounding to zero. -/
def nearestInteger (x : Float) : Float :=
  match Parts.ofFloat x with
  | .finite negative magnitude =>
    if 0 ≤ magnitude.exponent then x
    else
      let whole := Float.ofNat (magnitude.roundTimes .awayFromZero 1)
      if negative then -whole else whole
  | _ => x

end CostGate.Number
