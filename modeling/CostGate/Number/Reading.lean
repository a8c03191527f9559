import CostGate.Number.Text
import CostGate.Text.Case

/-!
# Reading numbers

The double nearest to a decimal, and the decimals that texts spell.
-/
namespace CostGate.Number

/-- The double nearest to `digits * 10 ^ exponent`. Beyond the range of doubles no power of ten is
computed. -/
def ofDecimal (digits : Nat) (exponent : Int) : Float :=
  let point : Int := (numeral digits).length + exponent
  if digits = 0 then 0.0
  else if 310 < point then 1.0 / 0.0
  else if point < -330 then 0.0
  else if exponent < 0 then Float.ofScientific digits true (-exponent).toNat
  else Float.ofScientific digits false exponent.toNat

/-- The number that decimal digits spell. -/
def ofDigits (ds : List Char) : Nat := ds.foldl (fun n d => 10 * n + Text.digitValue d) 0

/-- The digits in front, and the rest. -/
def takeDigits (s : List Char) : List Char × List Char :=
  (s.takeWhile Text.isAsciiDigit, s.dropWhile Text.isAsciiDigit)

/-- A sign in front, minus being true, and the rest. -/
def takeSign (s : List Char) : Bool × List Char :=
  match s with
  | '-' :: rest => (true, rest)
  | '+' :: rest => (false, rest)
  | rest => (false, rest)

/-- The exponent at the end of a number; none is zero. -/
def exponentAtEnd? (s : List Char) : Option Int :=
  match s with
  | [] => some 0
  | mark :: rest =>
    if mark = 'e' ∨ mark = 'E' then
      let (negative, rest) := takeSign rest
      let (ds, rest) := takeDigits rest
      if ds.isEmpty ∨ !rest.isEmpty then none
      else some (if negative then -(ofDigits ds : Int) else ofDigits ds)
    else none

/-- The double that a decimal without a sign spells. There are digits before the point or behind
it. -/
def unsignedDecimal? (s : List Char) : Option Float := do
  let (integer, rest) := takeDigits s
  let (fraction, rest) := match rest with
    | '.' :: rest => takeDigits rest
    | rest => ([], rest)
  if integer.isEmpty ∧ fraction.isEmpty then none
  else
    let exponent ← exponentAtEnd? rest
    some (ofDecimal (ofDigits (integer ++ fraction)) (exponent - fraction.length))

/-- The double that a text spells: a decimal with an optional sign and exponent, or one of the
words for infinity and for no number in any letter case. -/
def parse? (s : List Char) : Option Float := do
  let (negative, s) := takeSign s
  let word := String.ofList (s.map Text.asciiLower)
  let x ← if word = "inf" ∨ word = "infinity" then some (1.0 / 0.0)
    else if word = "nan" then some (0.0 / 0.0)
    else unsignedDecimal? s
  some (if negative then -x else x)

end CostGate.Number
