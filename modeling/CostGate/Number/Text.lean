import CostGate.Number.Shortest

/-!
# Numbers as text

Three ways to write a double: the shortest decimal without an exponent, the shortest decimal as
data formats write it, and a fixed count of decimal places.
-/
namespace CostGate.Number

/-- The decimal digits of a natural number. -/
def numeral (n : Nat) : List Char := Nat.toDigits 10 n

def zeros (n : Nat) : List Char := List.replicate n '0'

/-- The text of a double whose magnitude is written by `write`; zero is written as `zero`. -/
def signed (zero : List Char) (write : Magnitude → List Char) (x : Float) : List Char :=
  match Parts.ofFloat x with
  | .notANumber => ['N', 'a', 'N']
  | .infinite negative => (if negative then ['-'] else []) ++ ['i', 'n', 'f']
  | .finite negative magnitude =>
    (if negative then ['-'] else []) ++
      (if magnitude.mantissa = 0 then zero else write magnitude)

/-- Digits with a decimal point before the last `places` of them, and a zero before the point if
no digit would stand there. -/
def pointed (ds : List Char) (places : Nat) : List Char :=
  let padded := zeros (places + 1 - ds.length) ++ ds
  padded.take (padded.length - places) ++ '.' :: padded.drop (padded.length - places)

/-- A decimal written out without an exponent. -/
def Decimal.positional (d : Decimal) : List Char :=
  if 0 ≤ d.exponent then numeral d.digits ++ zeros d.exponent.toNat
  else pointed (numeral d.digits) (-d.exponent).toNat

/-- The shortest decimal of a double, never with an exponent: `0`, `-0`, `0.001`, `1000`. -/
def plain (x : Float) : List Char :=
  signed ['0'] (fun m => (m.shortest .awayFromZero).positional) x

/-- A decimal as data formats write it. The point stands after `point` digits; it is written
where it stands from the fifth decimal place to the sixteenth digit, and as an exponent
elsewhere, always with a sign. An integer keeps one zero behind the point. -/
def Decimal.scientific (d : Decimal) : List Char :=
  let ds := numeral d.digits
  let point : Int := ds.length + d.exponent
  if 0 ≤ d.exponent ∧ point ≤ 16 then ds ++ zeros d.exponent.toNat ++ ['.', '0']
  else if -5 < point ∧ point ≤ 16 then pointed ds (-d.exponent).toNat
  else
    let power := point - 1
    (match ds with
      | first :: second :: more => first :: '.' :: second :: more
      | _ => ds) ++
      'e' :: (if power < 0 then '-' else '+') :: numeral power.natAbs

/-- A finite double as data formats write it: `0.0`, `1.5`, `1e+21`. -/
def data (x : Float) : List Char :=
  signed ['0', '.', '0'] (fun m => (m.shortest .toEven).scientific) x

/-- A double rounded to a fixed count of decimal places, which is at least one. The exact value
is rounded, a tie going to the even digit. -/
def fixed (places : Nat) (x : Float) : List Char :=
  let write (m : Magnitude) := pointed (numeral (m.roundTimes .toEven (Nat.pow 10 places))) places
  signed (write ⟨0, 0⟩) write x

def padLeft (width : Nat) (s : List Char) : List Char :=
  List.replicate (width - s.length) ' ' ++ s

end CostGate.Number
