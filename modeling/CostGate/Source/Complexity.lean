import CostGate.Text.Classes

/-!
# Complexity of a line

Keywords of control flow and logical operators make a line complex. Every amount is a multiple of
a quarter, so complexity is counted in quarters.
-/
namespace CostGate.Source

open Text (isAlphabetic isAlphanumeric)

def keywords : List (String × Nat) :=
  [("if", 4), ("else", 2), ("while", 4), ("for", 4), ("switch", 4), ("case", 2), ("goto", 4),
  ("break", 2), ("continue", 2)]

/-- The quarters of a word; words that are no keywords have none. -/
def keywordQuarters (word : List Char) : Nat := (keywords.lookup (String.ofList word)).getD 0

/-- The quarters of a logical operator of two characters. -/
def logicalQuarters : Nat := 2

/-- The quarters of a question mark or of a single colon. -/
def conditionalQuarters : Nat := 1

/-- Whether a character can start a word of the source. -/
def startsWord (c : Char) : Bool := isAlphabetic c || c == '_'

/-- Whether a character can continue a word of the source. -/
def continuesWord (c : Char) : Bool := isAlphanumeric c || c == '_'

/-- The quarters of a text that follows the character `before`. Doubled operators are taken
together, doubled colons count nothing, and neither does a colon behind a colon. -/
def quartersAfter (before : Option Char) : List Char → Nat
  | [] => 0
  | c :: rest =>
    if startsWord c then
      keywordQuarters (c :: rest.takeWhile continuesWord) +
        quartersAfter (some c) (rest.dropWhile continuesWord)
    else if c = '&' ∧ rest.head? = some '&' then
      logicalQuarters + quartersAfter (some '&') rest.tail
    else if c = '|' ∧ rest.head? = some '|' then
      logicalQuarters + quartersAfter (some '|') rest.tail
    else if c = '?' then conditionalQuarters + quartersAfter (some '?') rest
    else if c = ':' then
      if rest.head? = some ':' then quartersAfter (some ':') rest.tail
      else if before = some ':' then quartersAfter (some ':') rest
      else conditionalQuarters + quartersAfter (some ':') rest
    else quartersAfter (some c) rest
termination_by s => s.length
decreasing_by
  all_goals simp only [List.length_cons, List.length_tail]
  · have := (List.dropWhile_sublist continuesWord (l := rest)).length_le
    omega
  all_goals omega

def quarters (line : List Char) : Nat := quartersAfter none line

end CostGate.Source
