/-!
# Spans of code points

A set of code points is stored as sorted arithmetic progressions. Most spans have step one; a
step of two covers the alphabets in which upper and lower case letters alternate.
-/
namespace CostGate.Text

/-- The code points `first`, `first + step`, and so on up to `last`. -/
structure Span where
  first : Nat
  last : Nat
  step : Nat
  deriving Repr, DecidableEq

namespace Span

/-- Whether a code point is one of the span's. -/
def has (s : Span) (n : Nat) : Bool :=
  s.first ≤ n && n ≤ s.last && (n - s.first) % s.step == 0

/-- Whether a code point lies in one of the spans, which are sorted by their first member. -/
def within : List Span → Nat → Bool
  | [], _ => false
  | s :: rest, n => if n < s.first then false else s.has n || within rest n

end Span

/-- A span whose members all lie at one distance from their counterparts. -/
structure Shift where
  span : Span
  distance : Int
  deriving Repr, DecidableEq

namespace Shift

/-- The counterpart of a code point under the first shift whose span has it. -/
def target? : List Shift → Nat → Option Nat
  | [], _ => none
  | s :: rest, n =>
    if n < s.span.first then none
    else if s.span.has n then some ((n : Int) + s.distance).toNat
    else target? rest n

end Shift

end CostGate.Text
