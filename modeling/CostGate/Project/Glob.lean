import CostGate.Pattern.Basic

/-!
# Globs of ignore files

A glob describes paths between slashes: a question mark and a star stand for text without a
slash, a class in brackets for one of its members, two stars between slashes for any directories,
and braces for a choice. Globs are compared byte by byte, so a character beyond ASCII counts as
the bytes that encode it.
-/
namespace CostGate

inductive Glob.Token where
  | literal (c : Char)
  | any
  | star
  /-- Two stars and a slash at the beginning. -/
  | fromAnywhere
  /-- A slash and two stars at the end. -/
  | allBelow
  /-- Two stars between slashes. -/
  | directories
  | oneOf (negated : Bool) (ranges : List (Char × Char))
  | choice (branches : List (List Glob.Token))

namespace Glob

/-- What the text behind an opening bracket turns out to be. -/
inductive Members where
  | unclosed
  /-- A range ends before it starts. -/
  | backwards
  | closed (ranges : List (Char × Char)) (rest : List Char)

/-- The members of a class up to its closing bracket. A bracket in front is a member, a hyphen
joins its neighbours, and at either end it is a member. The ranges so far have the last in
front. -/
def membersFrom (first joining : Bool) (ranges : List (Char × Char)) : List Char → Members
  | [] => .unclosed
  | c :: rest =>
    if c = ']' ∧ first = false then
      .closed (if joining then ('-', '-') :: ranges else ranges) rest
    else if c = '-' ∧ first = false ∧ joining = false then membersFrom false true ranges rest
    else match joining, ranges with
      | true, (lo, _) :: others =>
        if c < lo then .backwards else membersFrom false false ((lo, c) :: others) rest
      | _, ranges => membersFrom false false ((c, c) :: ranges) rest

theorem length_of_membersFrom {first joining : Bool} {ranges out : List (Char × Char)}
    {s rest : List Char} (h : membersFrom first joining ranges s = .closed out rest) :
    rest.length < s.length := by
  induction s generalizing first joining ranges with
  | nil => simp [membersFrom] at h
  | cons c s ih =>
    simp only [membersFrom] at h
    split at h
    · simp only [Members.closed.injEq] at h
      simp [h.2]
    · split at h
      · have := ih h
        simp
        omega
      · split at h
        · split at h
          · simp at h
          · have := ih h
            simp
            omega
        · have := ih h
          simp
          omega

/-- A class behind its opening bracket: whether it is negated, and its members. -/
def negatedMembers (s : List Char) : Bool × Members :=
  match s with
  | '!' :: rest => (true, membersFrom true false [] rest)
  | '^' :: rest => (true, membersFrom true false [] rest)
  | s => (false, membersFrom true false [] s)

theorem length_of_negatedMembers {s rest : List Char} {negated : Bool}
    {out : List (Char × Char)} (h : negatedMembers s = (negated, .closed out rest)) :
    rest.length < s.length := by
  unfold negatedMembers at h
  split at h <;> simp only [Prod.mk.injEq] at h <;> have := length_of_membersFrom h.2 <;>
    simp <;> omega

/-- A choice that has been opened: its finished branches and the tokens read since. The last
stands in front. -/
structure Frame where
  branches : List (List Token)
  current : List Token

structure Reader where
  frame : Frame
  /-- The frames around it, the innermost first. -/
  outer : List Frame
  /-- A bracket without its partner has been met; from there on brackets are literal. -/
  lone : Bool

namespace Reader

def start : Reader := ⟨⟨[], []⟩, [], false⟩

def nested (r : Reader) : Bool := !r.outer.isEmpty

def push (r : Reader) (t : Token) : Reader :=
  { r with frame := { r.frame with current := t :: r.frame.current } }

/-- The last token becomes another one, unless it already leads across directories. -/
def replaceLast (r : Reader) (t : Token) : Reader :=
  match r.frame.current with
  | .fromAnywhere :: _ => r
  | .allBelow :: _ => r
  | _ :: before => { r with frame := { r.frame with current := t :: before } }
  | [] => r.push t

def openChoice (r : Reader) : Reader :=
  { r with frame := ⟨[], []⟩, outer := r.frame :: r.outer }

/-- The branches of the innermost frame in order. -/
def branches (r : Reader) : List (List Token) :=
  (r.frame.current.reverse :: r.frame.branches).reverse

def nextBranch (r : Reader) : Reader :=
  { r with frame := ⟨r.frame.current.reverse :: r.frame.branches, []⟩ }

/-- The choice becomes a token of the frame around it. -/
def closeChoice? (r : Reader) : Option Reader :=
  match r.outer with
  | [] => none
  | frame :: outer => some (push { r with frame, outer } (.choice r.branches))

end Reader

/-- The tokens of a glob whose start has been read, `before` being its last character. A glob
with a brace too many or too few, a backslash at the end or a range backwards has none. -/
def tokensFrom (r : Reader) (before : Option Char) (s : List Char) : Option (List Token) :=
  match s with
  | [] => if r.nested then none else some r.frame.current.reverse
  | '?' :: rest => tokensFrom (r.push .any) (some '?') rest
  | '*' :: '*' :: rest =>
    let stars := (r.push .star).push .star
    if r.frame.current.isEmpty then
      if rest.head?.all (· == '/') then tokensFrom (r.push .fromAnywhere) (some '/') (rest.drop 1)
      else tokensFrom stars (some '*') rest
    else if before = some '/' ∨ (r.nested ∧ (before = some ',' ∨ before = some '\x7b')) then
      match rest with
      | [] => tokensFrom (r.replaceLast .allBelow) (some '*') []
      | '/' :: rest => tokensFrom (r.replaceLast .directories) (some '/') rest
      | c :: rest =>
        if r.nested ∧ (c = ',' ∨ c = '\x7d') then
          tokensFrom (r.replaceLast .allBelow) (some '*') (c :: rest)
        else tokensFrom stars (some '*') (c :: rest)
    else tokensFrom stars (some '*') rest
  | '*' :: rest => tokensFrom (r.push .star) (some '*') rest
  | '[' :: rest =>
    if r.lone then tokensFrom (r.push (.literal '[')) (some '[') rest
    else match _h : negatedMembers rest with
      | (_, .unclosed) =>
        tokensFrom ({ r with lone := true }.push (.literal '[')) (some '[') rest
      | (_, .backwards) => none
      | (negated, .closed ranges rest) =>
        tokensFrom (r.push (.oneOf negated ranges)) (some ']') rest
  | '\x7b' :: rest => tokensFrom r.openChoice (some '\x7b') rest
  | '\x7d' :: rest =>
    match r.closeChoice? with
    | none => none
    | some r => tokensFrom r (some '\x7d') rest
  | ',' :: rest =>
    tokensFrom (if r.nested then r.nextBranch else r.push (.literal ',')) (some ',') rest
  | '\\' :: c :: rest => tokensFrom (r.push (.literal c)) (some c) rest
  | ['\\'] => none
  | c :: rest => tokensFrom (r.push (.literal c)) (some c) rest
termination_by s.length
decreasing_by
  all_goals simp only [List.length_cons, List.length_nil, List.length_drop]
  any_goals omega
  have := length_of_negatedMembers _h
  omega

def tokens? (s : List Char) : Option (List Token) := tokensFrom .start none s

/-- The bytes that encode a character, each as the character of that number. -/
def bytes (c : Char) : List Char :=
  (String.utf8EncodeChar c).map fun b => Char.ofNat b.toNat

/-- A text as the characters of its bytes. -/
def byteText (s : List Char) : List Char := s.flatMap bytes

/-- The spans of bytes of a range of a class: only the last byte of the first character and the
first byte of the last are joined. -/
def spans? (range : Char × Char) : Option (List (Char × Char)) :=
  let (lo, hi) := range
  let each (cs : List Char) := cs.map fun c => (c, c)
  if lo = hi then some (each (bytes lo))
  else match (bytes lo).getLast?, bytes hi with
    | some a, b :: more =>
      if a ≤ b then some (each (bytes lo).dropLast ++ (a, b) :: each more) else none
    | _, _ => none

def inSequence : Pattern → Pattern → Pattern
  | .empty, q => q
  | p, .empty => p
  | p, q => .sequence p q

/-- One of several patterns, of which the empty ones do not count. -/
def oneOfPatterns : List Pattern → Pattern
  | [] => .empty
  | .empty :: ps => oneOfPatterns ps
  | p :: ps => match oneOfPatterns ps with
    | .empty => p
    | q => .choice p q

def slash : Pattern := .one (· == '/')

def anyText : Pattern := .repeated (.one fun _ => true) 0 none

/-- A byte that ends no name. -/
def inName : Pattern := .one (· != '/')

mutual

/-- The pattern of a token; a class has none if it joins bytes backwards. -/
def Token.pattern? : Token → Option Pattern
  | .literal c => some ((bytes c).foldr (fun b p => inSequence (.one (· == b)) p) .empty)
  | .any => some inName
  | .star => some (.repeated inName 0 none)
  | .fromAnywhere => some (.choice (.repeated slash 0 (some 1)) (.sequence anyText slash))
  | .allBelow => some (.sequence slash anyText)
  | .directories => some (.choice slash (.sequence slash (.sequence anyText slash)))
  | .oneOf negated ranges => do
    let spans ← ranges.mapM spans?
    some (.one fun b => (spans.flatten.any fun (lo, hi) => lo ≤ b && b ≤ hi) != negated)
  | .choice branches => (branchPatterns? branches).map oneOfPatterns

def sequencePattern? : List Token → Option Pattern
  | [] => some .empty
  | t :: ts => do
    let p ← t.pattern?
    let q ← sequencePattern? ts
    some (inSequence p q)

def branchPatterns? : List (List Token) → Option (List Pattern)
  | [] => some []
  | b :: bs => do
    let p ← sequencePattern? b
    let ps ← branchPatterns? bs
    some (p :: ps)

end

/-- The pattern of a whole path. Two stars alone match every path. -/
def wholePattern? (ts : List Token) : Option Pattern := do
  let p ← match ts with
    | [.fromAnywhere] => some anyText
    | ts => sequencePattern? ts
  some (.sequence (.condition .textStart) (.sequence p (.condition .textEnd)))

end Glob

end CostGate
