import CostGate.Document.Value
import CostGate.Number.Reading

/-!
# Reading JSON

A reader for JSON texts. It returns the value and the rest of the text, so that a value can be
read inside another one, and it accepts exactly one value between blanks as a document.

A number without a fraction or an exponent is whole as long as it fits into sixty-four bits. Any
other number is read from its leading decimal digits, as many as fit into sixty-four bits, and
then scaled by a power of ten.
-/
namespace CostGate.Document.Json

open Document (Value)
open Number (ofDigits takeDigits)

/-- The blanks between tokens. -/
def isSpace (c : Char) : Bool := c == ' ' || c == '\n' || c == '\t' || c == '\r'

def skipSpace (s : List Char) : List Char := s.dropWhile isSpace

/-- Four hexadecimal digits and the rest. -/
def hexUnit? : List Char → Option (Nat × List Char)
  | a :: b :: c :: d :: rest => do
    let a ← Text.hexDigit? a
    let b ← Text.hexDigit? b
    let c ← Text.hexDigit? c
    let d ← Text.hexDigit? d
    some (((a * 16 + b) * 16 + c) * 16 + d, rest)
  | _ => none

/-- A piece of a text: a character, or half of a surrogate pair written as an escape. -/
inductive Piece where
  | char (c : Char)
  | half (unit : Nat)
  deriving Repr, DecidableEq

/-- The piece that a four digit escape stands for. -/
def Piece.ofUnit (unit : Nat) : Piece :=
  if 0xD800 ≤ unit ∧ unit ≤ 0xDFFF then .half unit else .char (Char.ofNat unit)

/-- The characters of the pieces; each leading half must be followed by a trailing one. -/
def joinPieces : List Piece → Option (List Char)
  | [] => some []
  | .char c :: rest => (joinPieces rest).map (c :: ·)
  | .half high :: .half low :: rest =>
    if high < 0xDC00 ∧ 0xDC00 ≤ low then
      (joinPieces rest).map
        (Char.ofNat (0x10000 + (high - 0xD800) * 0x400 + (low - 0xDC00)) :: ·)
    else none
  | .half _ :: _ => none

/-- The character of an escape of one letter. -/
def escaped? (c : Char) : Option Char :=
  if c = '"' ∨ c = '\\' ∨ c = '/' then some c
  else if c = 'b' then some '\x08'
  else if c = 'f' then some '\x0c'
  else if c = 'n' then some '\n'
  else if c = 'r' then some '\r'
  else if c = 't' then some '\t'
  else none

/-- The pieces up to the closing quote, and the rest behind it. Control characters are refused. -/
def pieces? : Nat → List Char → Option (List Piece × List Char)
  | 0, _ => none
  | _ + 1, [] => none
  | fuel + 1, c :: rest =>
    if c = '"' then some ([], rest)
    else if c = '\\' then
      match rest with
      | [] => none
      | e :: rest =>
        if e = 'u' then do
          let (unit, rest) ← hexUnit? rest
          let (ps, rest) ← pieces? fuel rest
          some (Piece.ofUnit unit :: ps, rest)
        else do
          let c ← escaped? e
          let (ps, rest) ← pieces? fuel rest
          some (.char c :: ps, rest)
    else if c.toNat < 32 then none
    else do
      let (ps, rest) ← pieces? fuel rest
      some (.char c :: ps, rest)

/-- A text behind its opening quote. The first part is absent when an escape denotes no
character. -/
def string? (s : List Char) : Option (Option (List Char) × List Char) := do
  let (ps, rest) ← pieces? (s.length + 1) s
  some (joinPieces ps, rest)

/-- The leading digits of a number and the power of ten that it takes back. -/
structure Leading where
  significand : Nat
  exponent : Int
  full : Bool
  deriving Repr, DecidableEq

namespace Leading

/-- The next digit joins the significand while that fits into sixty-four bits. A digit before
the point that no longer fits raises the exponent, one behind the point that fits lowers it. -/
def push (fraction : Bool) (n : Leading) (d : Nat) : Leading :=
  let next := n.significand * 10 + d
  if n.full || UInt64.size ≤ next then
    { n with full := true, exponent := if fraction then n.exponent else n.exponent + 1 }
  else { n with significand := next, exponent := if fraction then n.exponent - 1 else n.exponent }

/-- The leading digits of an integer part and a fraction. The fraction tries to join the
significand anew. -/
def ofParts (integer fraction : List Char) : Leading :=
  let n := (integer.map Text.digitValue).foldl (push false) ⟨0, 0, false⟩
  (fraction.map Text.digitValue).foldl (push true) { n with full := false }

/-- A number scaled by a power of ten, one step of at most `10 ^ 308` at a time; absent when it
leaves the range of doubles. -/
def scale? (x : Float) (exponent : Int) : Option Float :=
  let step (n : Nat) := Float.ofScientific 1 false n
  if exponent.natAbs ≤ 308 then
    if 0 ≤ exponent then
      let y := x * step exponent.natAbs
      if y.isInf then none else some y
    else some (x / step exponent.natAbs)
  else if x == 0.0 then some x
  else if 0 ≤ exponent then none
  else some (x / step 308 / step (min 308 (exponent.natAbs - 308)))

/-- The double of the leading digits with a further exponent. -/
def float? (n : Leading) (exponent : Int) : Option Float :=
  scale? (Float.ofNat n.significand) (n.exponent + exponent)

end Leading

/-- The value of a number that has a fraction or an exponent, or too many digits. -/
def realValue (negative : Bool) (n : Leading) (exponent : Int) : Value :=
  match n.float? exponent with
  | some x => .real (if negative then -x else x)
  | none => .unreadable

/-- The value of a number without fraction and exponent. Minus zero is not whole. -/
def wholeValue (negative : Bool) (integer : List Char) : Value :=
  let n : Nat := ofDigits integer
  if negative then
    if n = 0 ∨ UInt64.size / 2 < n then realValue true (Leading.ofParts integer []) 0
    else .whole (-(n : Int))
  else if n < UInt64.size then .whole n
  else realValue false (Leading.ofParts integer []) 0

/-- The exponent of a number behind its mark, and the rest. -/
def exponent? (s : List Char) : Option (Int × List Char) :=
  let (negative, s) := match s with
    | '+' :: rest => (false, rest)
    | '-' :: rest => (true, rest)
    | _ => (false, s)
  let (ds, rest) := takeDigits s
  if ds.isEmpty then none
  else
    let n : Nat := ofDigits ds
    some (if negative then -(n : Int) else n, rest)

/-- A number behind its sign. The integer part has no leading zero, a point is followed by
digits, and so is an exponent mark. -/
def unsigned? (negative : Bool) (s : List Char) : Option (Value × List Char) :=
  let (integer, s) := takeDigits s
  if integer.isEmpty ∨ (integer.length ≠ 1 ∧ integer.head? = some '0') then none
  else
    let exponentOf (s : List Char) : Option (Option Int × List Char) :=
      match s with
      | 'e' :: rest => (exponent? rest).map fun (n, rest) => (some n, rest)
      | 'E' :: rest => (exponent? rest).map fun (n, rest) => (some n, rest)
      | _ => some (none, s)
    match s with
    | '.' :: rest =>
      let (fraction, rest) := takeDigits rest
      if fraction.isEmpty then none
      else do
        let (exponent, rest) ← exponentOf rest
        some (realValue negative (Leading.ofParts integer fraction) (exponent.getD 0), rest)
    | _ => do
      let (exponent, rest) ← exponentOf s
      match exponent with
      | none => some (wholeValue negative integer, rest)
      | some exponent =>
        some (realValue negative (Leading.ofParts integer []) exponent, rest)

def word? (letters : List Char) (v : Value) (s : List Char) : Option (Value × List Char) :=
  if letters.isPrefixOf s then some (v, s.drop letters.length) else none

mutual

/-- A value in front of a text without leading blanks, and the rest. Each bracket takes one unit
of fuel. -/
def value? : Nat → List Char → Option (Value × List Char)
  | 0, _ => none
  | fuel + 1, s => match s with
    | [] => none
    | '"' :: rest => do
      let (chars, rest) ← string? rest
      some (chars.elim .unreadable (.text ∘ String.ofList), rest)
    | '[' :: rest =>
      match skipSpace rest with
      | ']' :: rest => some (.list [], rest)
      | rest => do
        let (items, rest) ← items? fuel rest
        some (.list items, rest)
    | '\x7b' :: rest =>
      match skipSpace rest with
      | '\x7d' :: rest => some (.record [], rest)
      | rest => do
        let (fields, rest) ← fields? fuel rest
        some (fields.elim .unreadable .record, rest)
    | 't' :: _ => word? ['t', 'r', 'u', 'e'] (.flag true) s
    | 'f' :: _ => word? ['f', 'a', 'l', 's', 'e'] (.flag false) s
    | 'n' :: _ => word? ['n', 'u', 'l', 'l'] .null s
    | '-' :: rest => unsigned? true rest
    | _ => unsigned? false s

/-- The items of a list up to its closing bracket. -/
def items? : Nat → List Char → Option (List Value × List Char)
  | 0, _ => none
  | fuel + 1, s => do
    let (v, rest) ← value? fuel s
    match skipSpace rest with
    | ']' :: rest => some ([v], rest)
    | ',' :: rest =>
      let (vs, rest) ← items? fuel (skipSpace rest)
      some (v :: vs, rest)
    | _ => none

/-- The fields of a record up to its closing brace. They are absent when a name is unreadable. -/
def fields? : Nat → List Char → Option (Option (List (String × Value)) × List Char)
  | 0, _ => none
  | fuel + 1, s => match s with
    | '"' :: rest => do
      let (name, rest) ← string? rest
      match skipSpace rest with
      | ':' :: rest =>
        let (v, rest) ← value? fuel (skipSpace rest)
        let first : Option (String × Value) := name.map fun n => (String.ofList n, v)
        match skipSpace rest with
        | '\x7d' :: rest => some (first.map ([·]), rest)
        | ',' :: rest =>
          let (more, rest) ← fields? fuel (skipSpace rest)
          some (do return (← first) :: (← more), rest)
        | _ => none
      | _ => none
    | _ => none

end

def parse? (s : List Char) : Option Value :=
  match value? (s.length + 1) (skipSpace s) with
  | some (v, rest) => if (skipSpace rest).isEmpty then some v else none
  | none => none

end CostGate.Document.Json
