import CostGate.Document.Value
import CostGate.Document.Toml.Text
import CostGate.Number.Reading

/-!
# Numbers and dates of TOML

Numbers may have underscores between their digits. An integer fits into sixty-four bits with a
sign; a decimal may be infinite or undefined only by its word, except far below zero.
-/
namespace CostGate.Document.Toml

open Document (Value)

/-- Digits of a kind with underscores between them, and the rest. An underscore has a digit on
both sides. -/
def digits? (isDigit : Char → Bool) : List Char → Option (List Char × List Char)
  | [] => none
  | c :: rest =>
    if isDigit c then
      match rest with
      | [] => some ([c], [])
      | next :: more =>
        if next = '_' then (digits? isDigit more).map fun (ds, rest) => (c :: ds, rest)
        else if isDigit next then
          (digits? isDigit (next :: more)).map fun (ds, rest) => (c :: ds, rest)
        else some ([c], next :: more)
    else none

/-- Decimal digits without a leading zero, except for zero itself. -/
def integerDigits? (s : List Char) : Option (List Char × List Char) :=
  match s with
  | '0' :: rest => some (['0'], rest)
  | s => digits? Text.isAsciiDigit s

/-- The number that digits of a base spell. -/
def ofBase (base : Nat) (ds : List Char) : Nat :=
  ds.foldl (fun n d => base * n + (Text.hexDigit? d).getD 0) 0

def fitting? (n : Int) : Option Value :=
  if Int64.minValue.toInt ≤ n ∧ n ≤ Int64.maxValue.toInt then some (.whole n) else none

/-- An integer in a base other than ten, behind its mark. -/
def based? (base : Nat) (s : List Char) : Option (Value × List Char) := do
  let isDigit (c : Char) : Bool := (Text.hexDigit? c).any (· < base)
  let (ds, rest) ← digits? isDigit s
  let v ← fitting? (ofBase base ds)
  some (v, rest)

/-- A decimal that is no longer than infinity. -/
def real? (negative : Bool) (digits : List Char) (exponent : Int) : Option Value :=
  let x := Number.ofDecimal (Number.ofDigits digits) exponent
  if negative then some (.real (-x)) else if x.isInf then none else some (.real x)

/-- The exponent behind its mark, which may have leading zeros. -/
def exponent? (s : List Char) : Option (Int × List Char) := do
  let (negative, s) := Number.takeSign s
  let (ds, rest) ← digits? Text.isAsciiDigit s
  let n : Int := Number.ofDigits ds
  some (if negative then -n else n, rest)

/-- The exponent in front of a text, if it starts with the mark. -/
def optionalExponent? (s : List Char) : Option (Option Int × List Char) :=
  match s with
  | 'e' :: rest => (exponent? rest).map fun (n, rest) => (some n, rest)
  | 'E' :: rest => (exponent? rest).map fun (n, rest) => (some n, rest)
  | s => some (none, s)

/-- A number in base ten behind its sign. -/
def decimal? (negative : Bool) (s : List Char) : Option (Value × List Char) := do
  let (integer, rest) ← integerDigits? s
  match rest with
  | '.' :: rest =>
    let (fraction, rest) ← digits? Text.isAsciiDigit rest
    let (exponent, rest) ← optionalExponent? rest
    let v ← real? negative (integer ++ fraction) (exponent.getD 0 - fraction.length)
    some (v, rest)
  | rest =>
    let (exponent, rest) ← optionalExponent? rest
    match exponent with
    | some exponent =>
      let v ← real? negative integer exponent
      some (v, rest)
    | none =>
      let n : Int := Number.ofDigits integer
      let v ← fitting? (if negative then -n else n)
      some (v, rest)

/-- A number behind its sign, or the word for one. -/
def signed? (negative : Bool) (s : List Char) : Option (Value × List Char) :=
  let apply (x : Float) : Value := .real (if negative then -x else x)
  match s with
  | 'i' :: 'n' :: 'f' :: rest => some (apply (1.0 / 0.0), rest)
  | 'n' :: 'a' :: 'n' :: rest => some (apply (0.0 / 0.0), rest)
  | s => decimal? negative s

/-- A number. Other bases have no sign. -/
def number? (s : List Char) : Option (Value × List Char) :=
  match s with
  | '0' :: 'x' :: rest => based? 16 rest
  | '0' :: 'o' :: rest => based? 8 rest
  | '0' :: 'b' :: rest => based? 2 rest
  | s =>
    let (negative, rest) := Number.takeSign s
    signed? negative rest

/-- A count of decimal digits as a number within bounds. -/
def bounded? (count lo hi : Nat) (s : List Char) : Option (Nat × List Char) :=
  let ds := s.take count
  let n := Number.ofDigits ds
  if ds.length = count ∧ ds.all Text.isAsciiDigit ∧ lo ≤ n ∧ n ≤ hi then some (n, s.drop count)
  else none

def daysOf (year month : Nat) : Nat :=
  if month = 2 then
    if year % 4 = 0 ∧ (year % 100 ≠ 0 ∨ year % 400 = 0) then 29 else 28
  else if month = 4 ∨ month = 6 ∨ month = 9 ∨ month = 11 then 30
  else 31

def after? (c : Char) (s : List Char) : Option (List Char) :=
  match s with
  | d :: rest => if c = d then some rest else none
  | [] => none

def afterDate? (s : List Char) : Option (List Char) := do
  let (year, s) ← bounded? 4 0 9999 s
  let (month, s) ← bounded? 2 1 12 (← after? '-' s)
  let (_, s) ← bounded? 2 1 (daysOf year month) (← after? '-' s)
  some s

def afterMinutes? (s : List Char) : Option (List Char) := do
  let (_, s) ← bounded? 2 0 23 s
  let (_, s) ← bounded? 2 0 59 (← after? ':' s)
  some s

def afterTime? (s : List Char) : Option (List Char) := do
  let (_, s) ← bounded? 2 0 60 (← after? ':' (← afterMinutes? s))
  match s with
  | '.' :: rest => if (Number.takeDigits rest).1.isEmpty then none else (Number.takeDigits rest).2
  | s => s

/-- What follows the offset of a time zone, if there is one. -/
def afterOffset? (s : List Char) : Option (List Char) :=
  match s with
  | 'Z' :: rest => some rest
  | 'z' :: rest => some rest
  | '+' :: rest => afterMinutes? rest
  | '-' :: rest => afterMinutes? rest
  | s => some s

/-- What follows a date with or without a time, or a time alone. -/
def afterMoment? (s : List Char) : Option (List Char) :=
  match afterDate? s with
  | none => afterTime? s
  | some [] => some []
  | some (c :: rest) =>
    if c = 'T' ∨ c = 't' ∨ c = ' ' then
      match afterTime? rest with
      | some rest => afterOffset? rest
      | none => some (c :: rest)
    else some (c :: rest)

/-- A date or a time. No setting takes one; it counts as a record with a field of its own. -/
def moment? (s : List Char) : Option (Value × List Char) :=
  (afterMoment? s).map fun rest =>
    (.record [("moment", .text (String.ofList (s.take (s.length - rest.length))))], rest)

end CostGate.Document.Toml
