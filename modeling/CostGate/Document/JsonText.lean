import CostGate.Document.Value
import CostGate.Number.Text

/-!
# Writing JSON

The indented and the compact text of a document value. A double is written with its shortest
digits; an infinite or undefined one has no JSON form and becomes `null`.
-/
namespace CostGate.Document.Json

open Document (Value)

/-- The lower case hexadecimal digit of a number below sixteen. -/
def hexDigit (n : Nat) : Char :=
  if n < 10 then Char.ofNat ('0'.toNat + n) else Char.ofNat ('a'.toNat + n - 10)

/-- A character inside quotes. Quotes, backslashes and control characters are escaped. -/
def escape (c : Char) : List Char :=
  if c = '"' then ['\\', '"']
  else if c = '\\' then ['\\', '\\']
  else if c = '\x08' then ['\\', 'b']
  else if c = '\t' then ['\\', 't']
  else if c = '\n' then ['\\', 'n']
  else if c = '\x0c' then ['\\', 'f']
  else if c = '\r' then ['\\', 'r']
  else if c.toNat < 32 then
    ['\\', 'u', '0', '0', hexDigit (c.toNat / 16), hexDigit (c.toNat % 16)]
  else [c]

def quote (s : List Char) : List Char := '"' :: s.flatMap escape ++ ['"']

def integer (n : Int) : List Char :=
  (if n < 0 then ['-'] else []) ++ Number.numeral n.natAbs

/-- A double, or `null` in place of one that has no JSON form. -/
def number (x : Float) : List Char :=
  if x.isFinite then Number.data x else ['n', 'u', 'l', 'l']

def joinWith (separator : List Char) : List (List Char) → List Char
  | [] => []
  | [part] => part
  | part :: parts => part ++ separator ++ joinWith separator parts

/-- A line end and two blanks for each level. -/
def newline (level : Nat) : List Char := '\n' :: List.replicate (2 * level) ' '

/-- Parts between brackets, each on a line of its own one level deeper; nothing between the
brackets if there are no parts. -/
def block (level : Nat) (opening closing : Char) (parts : List (List Char)) : List Char :=
  if parts.isEmpty then [opening, closing]
  else opening :: newline (level + 1) ++ joinWith (',' :: newline (level + 1)) parts ++
    newline level ++ [closing]

/-- The text of a value without an inner structure. -/
def scalar : Value → List Char
  | .flag true => ['t', 'r', 'u', 'e']
  | .flag false => ['f', 'a', 'l', 's', 'e']
  | .whole n => integer n
  | .real x => number x
  | .text s => quote s.toList
  | _ => ['n', 'u', 'l', 'l']

mutual

/-- The indented text of a value at a level. -/
def pretty (level : Nat) : Value → List Char
  | .list items => block level '[' ']' (prettyItems (level + 1) items)
  | .record fields => block level '\x7b' '\x7d' (prettyFields (level + 1) fields)
  | v => scalar v

def prettyItems (level : Nat) : List Value → List (List Char)
  | [] => []
  | v :: vs => pretty level v :: prettyItems level vs

def prettyFields (level : Nat) : List (String × Value) → List (List Char)
  | [] => []
  | (name, v) :: rest =>
    (quote name.toList ++ [':', ' '] ++ pretty level v) :: prettyFields level rest

end

mutual

/-- The text of a value without blanks between its tokens. -/
def compact : Value → List Char
  | .list items => '[' :: joinWith [','] (compactItems items) ++ [']']
  | .record fields => '\x7b' :: joinWith [','] (compactFields fields) ++ ['\x7d']
  | v => scalar v

def compactItems : List Value → List (List Char)
  | [] => []
  | v :: vs => compact v :: compactItems vs

def compactFields : List (String × Value) → List (List Char)
  | [] => []
  | (name, v) :: rest => (quote name.toList ++ [':'] ++ compact v) :: compactFields rest

end

end CostGate.Document.Json
