import CostGate.Text.Classes
import CostGate.Text.CaseTables

/-!
# Case mapping

The full case mappings of a text. A letter may map to several characters, and a capital sigma
maps to its final form at the end of a word. Two letters are the same up to case when they share
an orbit of simple case folding.
-/
namespace CostGate.Text

/-- The lower case form of an ASCII character. -/
def asciiLower (c : Char) : Char := if isAsciiUpper c then Char.ofNat (c.toNat + 32) else c

/-- The upper case form of an ASCII character. -/
def asciiUpper (c : Char) : Char := if isAsciiLower c then Char.ofNat (c.toNat - 32) else c

/-- The lower case form of one character; only the dotted capital I has two characters. -/
def lowerOf (c : Char) : List Char :=
  if isAscii c then [asciiLower c]
  else if c = 'İ' then ['i', Char.ofNat 775]
  else match Shift.target? Table.lowerShifts c.toNat with
    | some n => [Char.ofNat n]
    | none => [c]

/-- The upper case form of one character. -/
def upperOf (c : Char) : List Char :=
  if isAscii c then [asciiUpper c]
  else match Table.upperSequences.lookup c.toNat with
    | some ns => ns.map Char.ofNat
    | none => match Shift.target? Table.upperShifts c.toNat with
      | some n => [Char.ofNat n]
      | none => [c]

/-- Whether the nearest character that is not case ignorable has a case. -/
def meetsCased (s : List Char) : Bool :=
  match s.dropWhile isCaseIgnorable with
  | [] => false
  | c :: _ => isCased c

/-- The lower case of a text that follows the characters `before`, the nearest first. A capital
sigma is final when a cased letter comes before it and none after it. -/
def lowercaseAfter (before : List Char) : List Char → List Char
  | [] => []
  | c :: rest =>
    (if c = 'Σ' then
      [if meetsCased before && !meetsCased rest then 'ς' else 'σ']
    else lowerOf c) ++ lowercaseAfter (c :: before) rest

def lowercase (s : List Char) : List Char := lowercaseAfter [] s

def uppercase (s : List Char) : List Char := s.flatMap upperOf

/-- The characters equal to a given one up to case, the character itself among them. -/
def caseVariants (c : Char) : List Char :=
  match Table.caseOrbits.find? (·.contains c.toNat) with
  | some orbit => orbit.map Char.ofNat
  | none => c :: lowerOf c ++ upperOf c

end CostGate.Text
