import CostGate.Text.Case

/-!
# Search patterns

A pattern describes texts by single characters, sequence, choice, repetition and conditions on
the surroundings of a place. A name matches a pattern when the pattern describes some part of it,
so only conditions tie a match to the ends of the name.

A place in a text is the number of characters in front of it. Matching leads a set of places to
the set of places at which a match can end. Which of several matches would be preferred plays no
part.
-/
namespace CostGate.Pattern

open Text (isWordChar)

/-- Which characters make up words. -/
inductive WordKind where
  | unicode
  | ascii
  deriving Repr, DecidableEq

/-- Whether a character belongs to words. -/
def WordKind.has : WordKind → Char → Bool
  | unicode, c => isWordChar c
  | ascii, c => Text.isAsciiLetter c || Text.isAsciiDigit c || c == '_'

/-- A condition on a place that consumes nothing. -/
inductive Condition where
  | textStart
  | textEnd
  | lineStart
  | lineEnd
  /-- Line starts and ends where a return, a feed, or both in a row end a line. -/
  | returnLineStart
  | returnLineEnd
  | wordEdge (words : WordKind)
  | noWordEdge (words : WordKind)
  | wordStart (words : WordKind)
  | wordEnd (words : WordKind)
  | noWordBefore (words : WordKind)
  | noWordAfter (words : WordKind)
  deriving Repr, DecidableEq

namespace Condition

/-- Whether the condition holds between two neighbours, of which the ends of the text lack one. -/
def holdsBetween (k : Condition) (before next : Option Char) : Bool :=
  let inWord (words : WordKind) (c : Option Char) : Bool := c.any words.has
  match k with
  | textStart => before.isNone
  | textEnd => next.isNone
  | lineStart => before.all (· == '\n')
  | lineEnd => next.all (· == '\n')
  | returnLineStart => before.all fun c => c == '\n' || (c == '\r' && next != some '\n')
  | returnLineEnd => next.all fun c => c == '\r' || (c == '\n' && before != some '\r')
  | wordEdge words => inWord words before != inWord words next
  | noWordEdge words => inWord words before == inWord words next
  | wordStart words => !inWord words before && inWord words next
  | wordEnd words => inWord words before && !inWord words next
  | noWordBefore words => !inWord words before
  | noWordAfter words => !inWord words next

/-- Whether the condition holds at a place. -/
def holds (k : Condition) (s : Array Char) (i : Nat) : Bool :=
  k.holdsBetween (if i = 0 then none else s[i - 1]?) s[i]?

end Condition

end Pattern

inductive Pattern where
  | empty
  | one (has : Char → Bool)
  | condition (k : Pattern.Condition)
  | sequence (p q : Pattern)
  | choice (p q : Pattern)
  /-- At least `least` times, and at most `most` times if there is a bound. -/
  | repeated (p : Pattern) (least : Nat) (most : Option Nat)

namespace Pattern

/-- The places of two ascending lists in one. -/
def union : List Nat → List Nat → List Nat
  | [], js => js
  | is, [] => is
  | i :: is, j :: js =>
    if i < j then i :: union is (j :: js)
    else if j < i then j :: union (i :: is) js
    else i :: union is js

theorem mem_union {k : Nat} {is js : List Nat} : k ∈ union is js ↔ k ∈ is ∨ k ∈ js := by
  induction is, js using union.induct with
  | case1 js => simp [union]
  | case2 is h => cases is <;> simp [union]
  | case3 i is j js h ih => simp [union, h, ih, or_assoc]
  | case4 i is j js h h' ih => simp [union, h, h', ih, or_left_comm]
  | case5 i is j js h h' ih =>
    have : i = j := by omega
    subst this
    simp [union, ih]
    grind

/-- The places of one ascending list that another one lacks. -/
def without : List Nat → List Nat → List Nat
  | [], _ => []
  | is, [] => is
  | i :: is, j :: js =>
    if i < j then i :: without is (j :: js)
    else if j < i then without (i :: is) js
    else without is (j :: js)

theorem mem_of_mem_without {k : Nat} {is js : List Nat} (h : k ∈ without is js) : k ∈ is := by
  induction is, js using without.induct <;> grind [without]

theorem mem_without_or {k : Nat} {is js : List Nat} (h : k ∈ is) : k ∈ without is js ∨ k ∈ js := by
  induction is, js using without.induct <;> grind [without]

/-- The places that exactly `n` steps lead to. -/
def afterSteps (step : List Nat → List Nat) : Nat → List Nat → List Nat
  | 0, is => is
  | n + 1, is => afterSteps step n (step is)

/-- The places `seen` and those that at most `n` steps lead to from the ones among them that are
`fresh`. -/
def withinSteps (step : List Nat → List Nat) : Nat → List Nat → List Nat → List Nat
  | 0, seen, _ => seen
  | n + 1, seen, fresh =>
    let fresh := without (step fresh) seen
    if fresh.isEmpty then seen else withinSteps step n (union seen fresh) fresh

/-- The places at which a match that starts at one of several places can end. Lists of places are
ascending. A repetition without bound needs no more steps than there are places, since a step that
consumes nothing leads nowhere new. -/
def reach (s : Array Char) : Pattern → List Nat → List Nat
  | empty, is => is
  | one has, is => (is.filter fun i => s[i]?.any has).map (· + 1)
  | condition k, is => is.filter (k.holds s)
  | sequence p q, is => q.reach s (p.reach s is)
  | choice p q, is => union (p.reach s is) (q.reach s is)
  | repeated p least most, is =>
    let further := match most with
      | some most => min (most - least) (s.size + 1)
      | none => s.size + 1
    let reached := afterSteps (p.reach s) least is
    withinSteps (p.reach s) further reached reached

/-- Whether the pattern describes some part of a text. -/
def isMatch (p : Pattern) (s : List Char) : Bool :=
  !(p.reach s.toArray (List.range (s.length + 1))).isEmpty

end Pattern

end CostGate
