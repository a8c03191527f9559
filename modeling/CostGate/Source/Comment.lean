import CostGate.Text.Lines

/-!
# Comments

The effective lines of a source text: its lines without surrounding blanks, blank lines and
leading comments. A comment is removed only where it starts a line or follows another removed
comment; behind code it stays part of the line.
-/
namespace CostGate.Source

open Text (trim trimStart trimEnd lines)

inductive CommentStyle where
  /-- Two slashes up to the line end, or a block between slashes and stars. -/
  | slashes
  /-- A hash sign up to the line end. -/
  | hash
  deriving Repr, DecidableEq

/-- The text behind the first end of a block comment. -/
def afterBlock? (s : List Char) : Option (List Char) :=
  (Text.splitOnce? ['*', '/'] s).map (·.2)

theorem length_afterBlock? {s tail : List Char} (h : afterBlock? s = some tail) :
    tail.length + 2 ≤ s.length := by
  simp only [afterBlock?, Option.map_eq_some_iff, Prod.exists] at h
  obtain ⟨b, t, hbt, rfl⟩ := h
  rw [Text.splitOnce?_eq_some hbt]
  simp

/-- The code of a line behind its leading comments, if there is any, and whether a block comment
is open at the end of the line. The flag tells whether one is open at its start. -/
def codeOf (inBlock : Bool) (s : List Char) : Option (List Char) × Bool :=
  if inBlock then
    match _h : afterBlock? s with
    | none => (none, true)
    | some tail => codeOf false (trimStart tail)
  else
    match s with
    | [] => (none, false)
    | '/' :: '/' :: _ => (none, false)
    | '/' :: '*' :: body => codeOf true body
    | code => (some (trimEnd code), false)
termination_by s.length
decreasing_by
  · have := length_afterBlock? _h
    have := Text.length_trimStart_le tail
    omega
  · simp only [List.length_cons]
    omega

/-- The effective lines among trimmed lines with slash comments, from a block state on. -/
def codeLines (inBlock : Bool) : List (List Char) → List (List Char)
  | [] => []
  | line :: rest =>
    if line.isEmpty then codeLines inBlock rest
    else match codeOf inBlock line with
      | (some code, inBlock) => code :: codeLines inBlock rest
      | (none, inBlock) => codeLines inBlock rest

/-- Whether a block comment is open after trimmed lines. -/
def blockAfter (inBlock : Bool) : List (List Char) → Bool
  | [] => inBlock
  | line :: rest =>
    if line.isEmpty then blockAfter inBlock rest else blockAfter (codeOf inBlock line).2 rest

def effectiveLines (style : CommentStyle) (s : List Char) : List (List Char) :=
  let trimmed := (lines s).map trim
  match style with
  | .hash => trimmed.filter fun line => !line.isEmpty && line.head? != some '#'
  | .slashes => codeLines false trimmed

theorem codeLines_append (inBlock : Bool) (xs ys : List (List Char)) :
    codeLines inBlock (xs ++ ys) =
      codeLines inBlock xs ++ codeLines (blockAfter inBlock xs) ys := by
  induction xs generalizing inBlock with
  | nil => rfl
  | cons line rest ih =>
    by_cases h : line.isEmpty
    · simp [codeLines, blockAfter, h, ih]
    · cases hc : codeOf inBlock line with
      | mk code next => cases code <;> simp [codeLines, blockAfter, h, hc, ih]

end CostGate.Source
