import CostGate.Text.Letters
import CostGate.Text.Numerals
import CostGate.Text.Joiners
import CostGate.Text.LetterCase

/-!
# Character classes

The classes of characters on which words, blanks and case are defined. Each is decided for ASCII
by comparison and beyond ASCII by a table, so a statement about ASCII text never meets a table.
-/
namespace CostGate.Text

/-- Between two characters, both included. -/
def between (lo hi c : Char) : Bool := lo ≤ c && c ≤ hi

def isAsciiUpper (c : Char) : Bool := between 'A' 'Z' c

def isAsciiLower (c : Char) : Bool := between 'a' 'z' c

def isAsciiDigit (c : Char) : Bool := between '0' '9' c

def isAsciiLetter (c : Char) : Bool := isAsciiUpper c || isAsciiLower c

/-- The number that a decimal digit of ASCII stands for. -/
def digitValue (c : Char) : Nat := c.toNat - '0'.toNat

/-- The number that a hexadecimal digit stands for. -/
def hexDigit? (c : Char) : Option Nat :=
  if isAsciiDigit c then some (digitValue c)
  else if between 'a' 'f' c then some (c.toNat - 'a'.toNat + 10)
  else if between 'A' 'F' c then some (c.toNat - 'A'.toNat + 10)
  else none

def isAscii (c : Char) : Bool := c.toNat < 128

/-- One of two answers: by comparison within ASCII, by a table of spans beyond it. -/
def classify (ascii : Char → Bool) (table : List Span) (c : Char) : Bool :=
  if isAscii c then ascii c else Span.within table c.toNat

theorem classify_of_isAscii {ascii : Char → Bool} {table : List Span} {c : Char}
    (h : isAscii c = true) : classify ascii table c = ascii c := by
  simp [classify, h]

def isAlphabetic (c : Char) : Bool := classify isAsciiLetter Table.alphabetic c

def isNumeral (c : Char) : Bool := classify isAsciiDigit Table.numerals c

def isDecimalDigit (c : Char) : Bool := classify isAsciiDigit Table.decimalDigits c

def isAlphanumeric (c : Char) : Bool := isAlphabetic c || isNumeral c

def isUppercase (c : Char) : Bool := classify isAsciiUpper Table.uppercase c

def isLowercase (c : Char) : Bool := classify isAsciiLower Table.lowercase c

/-- A letter that has a case at all. -/
def isCased (c : Char) : Bool :=
  isUppercase c || isLowercase c || classify (fun _ => false) Table.titlecase c

/-- A character that is passed over when the neighbouring cased letter is looked for. -/
def isCaseIgnorable (c : Char) : Bool :=
  classify (fun c => c == '\'' || c == '.' || c == ':' || c == '^' || c == (Char.ofNat 96))
    Table.caseIgnorable c

/-- A character of a word in the sense of a search pattern: letters, decimal digits, marks,
connectors such as the underscore, and the join controls. -/
def isWordChar (c : Char) : Bool :=
  isAlphabetic c || isDecimalDigit c || classify (· == '_') Table.joiners c

/-- The code points above ASCII with the Unicode property White_Space. -/
def blanks : List Span :=
  [⟨133, 133, 1⟩, ⟨160, 160, 1⟩, ⟨5760, 5760, 1⟩, ⟨8192, 8202, 1⟩, ⟨8232, 8233, 1⟩,
  ⟨8239, 8239, 1⟩, ⟨8287, 8287, 1⟩, ⟨12288, 12288, 1⟩]

/-- White space: space, the controls from tab to carriage return, and the blanks of Unicode. -/
def isBlank (c : Char) : Bool := classify (fun c => c == ' ' || between '\t' '\r' c) blanks c

end CostGate.Text
