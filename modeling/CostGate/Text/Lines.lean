import CostGate.Text.Classes

/-!
# Cutting a text

Pieces between separators, lines, trimming, and the words between blanks.
-/
namespace CostGate.Text

/-- The pieces between the characters at which `p` holds; there is one more than separators. -/
def pieces (p : Char → Bool) : List Char → List (List Char)
  | [] => [[]]
  | c :: rest =>
    if p c then [] :: pieces p rest
    else match pieces p rest with
      | [] => [[c]]
      | w :: ws => (c :: w) :: ws

theorem pieces_ne_nil (p : Char → Bool) (s : List Char) : pieces p s ≠ [] := by
  cases s with
  | nil => simp [pieces]
  | cons c rest =>
    simp only [pieces]
    split
    · simp
    · split <;> simp

/-- A carriage return at the end of a line belongs to the line end. -/
def dropReturn (line : List Char) : List Char :=
  match line.reverse with
  | '\r' :: before => before.reverse
  | _ => line

/-- The lines of a text. A line feed ends a line, so a text that ends with one has no further
line; only a line that a line feed ends loses its carriage return. -/
def linesOf : List (List Char) → List (List Char)
  | [] => []
  | [last] => if last.isEmpty then [] else [last]
  | line :: more => dropReturn line :: linesOf more

/-- The lines of a text, without their ends. -/
def lines (s : List Char) : List (List Char) := linesOf (pieces (· == '\n') s)

def trimStart (s : List Char) : List Char := s.dropWhile isBlank

def trimEnd (s : List Char) : List Char := (s.reverse.dropWhile isBlank).reverse

def trim (s : List Char) : List Char := trimEnd (trimStart s)

theorem length_trimStart_le (s : List Char) : (trimStart s).length ≤ s.length :=
  (List.dropWhile_sublist _).length_le

/-- The longest start of the text without blanks. -/
def firstWord (s : List Char) : List Char := s.takeWhile fun c => !isBlank c

/-- What follows `front` in a text that starts with it. -/
def dropFront? : List Char → List Char → Option (List Char)
  | [], s => some s
  | _ :: _, [] => none
  | p :: front, c :: s => if p = c then dropFront? front s else none

theorem dropFront?_eq_some_iff {front s tail : List Char} :
    dropFront? front s = some tail ↔ s = front ++ tail := by
  induction front generalizing s with
  | nil => simp [dropFront?]
  | cons p front ih =>
    cases s with
    | nil => simp [dropFront?]
    | cons c s =>
      by_cases h : p = c
      · simp [dropFront?, h, ih]
      · simp [dropFront?, h, Ne.symm h]

/-- What precedes `back` in a text that ends with it. -/
def dropBack? (back s : List Char) : Option (List Char) :=
  (dropFront? back.reverse s.reverse).map List.reverse

/-- The texts before and after the first occurrence of `pat`, if it occurs. -/
def splitOnce? (pat : List Char) : List Char → Option (List Char × List Char)
  | [] => if pat.isEmpty then some ([], []) else none
  | c :: rest => match dropFront? pat (c :: rest) with
    | some tail => some ([], tail)
    | none => (splitOnce? pat rest).map fun (before, tail) => (c :: before, tail)

theorem splitOnce?_eq_some {pat s before tail : List Char}
    (h : splitOnce? pat s = some (before, tail)) : s = before ++ pat ++ tail := by
  induction s generalizing before with
  | nil =>
    simp only [splitOnce?] at h
    split at h
    · simp_all
    · simp at h
  | cons c rest ih =>
    simp only [splitOnce?] at h
    split at h
    · rename_i t ht
      simp only [Option.some.injEq, Prod.mk.injEq] at h
      obtain ⟨rfl, rfl⟩ := h
      simpa using dropFront?_eq_some_iff.1 ht
    · simp only [Option.map_eq_some_iff, Prod.mk.injEq, Prod.exists] at h
      obtain ⟨b, t, hbt, rfl, rfl⟩ := h
      simp [ih hbt]

def occurs (pat s : List Char) : Bool := (splitOnce? pat s).isSome

end CostGate.Text
