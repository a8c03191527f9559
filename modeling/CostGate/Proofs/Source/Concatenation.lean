import CostGate.Proofs.Source.Comment
import CostGate.Source.Measure

/-!
# Texts put together

A text behind which no block comment is open can be followed by another one: the effective lines
are those of both texts, and so are the sums over them. The number of functions is not such a sum.
It is floored at zero for each text, so a text with more type declarations than braces takes from
the other one when they are put together.
-/
namespace CostGate

open Number (Quantity ofCount)

/-- Two texts and the text that they make together, up to functions that get lost. -/
structure Metrics.AddUp (first second whole : Metrics ℚ) : Prop where
  lines_eq : whole.lines = first.lines + second.lines
  complexity_eq : whole.complexity = first.complexity + second.complexity
  dependencies_eq : whole.dependencies = first.dependencies + second.dependencies
  includes_eq : whole.includes = first.includes + second.includes
  functions_le : whole.functions ≤ first.functions + second.functions

namespace Source

/-- What the effective lines of a text add up to. -/
def tally {α : Type} [Quantity α] (weights : IncludeWeights α) (style : CommentStyle)
    (s : List Char) : Tally α :=
  Tally.ofLines weights (effectiveLines style s)

namespace Tally

def add {α : Type} [Quantity α] (t u : Tally α) : Tally α where
  lines := t.lines + u.lines
  quarters := t.quarters + u.quarters
  dependencies := t.dependencies + u.dependencies
  includes := t.includes + u.includes
  braces := t.braces + u.braces
  declarations := t.declarations + u.declarations

/-- At least as many braces as type declarations. -/
def CoversDeclarations {α : Type} (t : Tally α) : Prop := t.declarations ≤ t.braces

instance {α : Type} (t : Tally α) : Decidable t.CoversDeclarations :=
  inferInstanceAs (Decidable (t.declarations ≤ t.braces))

variable {weights : IncludeWeights ℚ}

theorem add_zero (t : Tally ℚ) : t.add zero = t := by
  have hincludes : t.includes + (0.0 : ℚ) = t.includes := by norm_num
  simp only [add, zero, hincludes, Nat.add_zero]

theorem add_addLine (t u : Tally ℚ) (line : List Char) :
    t.add (u.addLine weights line) = (t.add u).addLine weights line := by
  cases htarget : directiveTarget? line with
  | none => simp only [addLine, add, htarget, Nat.add_assoc]
  | some target => simp only [addLine, add, htarget, add_assoc]

theorem add_foldl_addLine (t u : Tally ℚ) (ls : List (List Char)) :
    t.add (ls.foldl (addLine weights) u) = ls.foldl (addLine weights) (t.add u) := by
  induction ls generalizing u with
  | nil => rfl
  | cons line ls ih => rw [List.foldl_cons, List.foldl_cons, ih, add_addLine]

theorem ofLines_append (xs ys : List (List Char)) :
    ofLines weights (xs ++ ys) = (ofLines weights xs).add (ofLines weights ys) := by
  rw [ofLines, List.foldl_append, ofLines, ofLines, add_foldl_addLine, add_zero]

/-- Braces that are left over in one text may be used up by the declarations of the other. -/
theorem functions_add_le (t u : Tally ℚ) : (t.add u).functions ≤ t.functions + u.functions := by
  simp only [functions, add]
  omega

theorem functions_add {t u : Tally ℚ} (ht : t.CoversDeclarations) (hu : u.CoversDeclarations) :
    (t.add u).functions = t.functions + u.functions := by
  simp only [CoversDeclarations] at ht hu
  simp only [functions, add]
  omega

theorem addUp_metrics (t u : Tally ℚ) : t.metrics.AddUp u.metrics (t.add u).metrics where
  lines_eq := rfl
  complexity_eq := by
    have hcount : (ofCount (t.quarters + u.quarters) : ℚ) =
        ofCount t.quarters + ofCount u.quarters :=
      Nat.cast_add t.quarters u.quarters
    exact (congrArg (· * (0.25 : ℚ)) hcount).trans (add_mul _ _ _)
  dependencies_eq := rfl
  includes_eq := rfl
  functions_le := functions_add_le t u

end Tally

theorem effectiveLines_append {style : CommentStyle} {s : List Char}
    (h : opensBlock style s = false) (t : List Char) :
    effectiveLines style (s ++ '\n' :: t) = effectiveLines style s ++ effectiveLines style t := by
  cases style with
  | hash =>
    simp only [effectiveLines_hash, Text.contentLines_append, List.filter_append]
  | slashes =>
    rw [opensBlock_slashes] at h
    simp only [effectiveLines_slashes, reading_append, h]

theorem tally_append (weights : IncludeWeights ℚ) {style : CommentStyle} {s : List Char}
    (h : opensBlock style s = false) (t : List Char) :
    tally weights style (s ++ '\n' :: t) = (tally weights style s).add (tally weights style t) := by
  rw [tally, effectiveLines_append h, Tally.ofLines_append]
  rfl

theorem measure_append (weights : IncludeWeights ℚ) {style : CommentStyle} {s : List Char}
    (h : opensBlock style s = false) (t : List Char) :
    (measure weights style s).AddUp (measure weights style t)
        (measure weights style (s ++ '\n' :: t)) ∧
      ((tally weights style s).CoversDeclarations → (tally weights style t).CoversDeclarations →
        (measure weights style (s ++ '\n' :: t)).functions =
          (measure weights style s).functions + (measure weights style t).functions) := by
  have hwhole : measure weights style (s ++ '\n' :: t) =
      ((tally weights style s).add (tally weights style t)).metrics :=
    congrArg Tally.metrics (tally_append weights h t)
  rw [hwhole]
  exact ⟨Tally.addUp_metrics _ _, Tally.functions_add⟩

/-- A type with its brace, up to a carriage return. -/
def typeSource : List Char := ['e', 'n', 'u', 'm', ' ', 'E', ' ', '\x7b', '\r']

def functionSource : List Char := ['/', '*', '*', '/', 'f', '(', ')', ' ', '\x7b']

theorem measure_append_type :
    opensBlock .slashes typeSource = false ∧
      (tally (.default ℚ) .slashes typeSource).CoversDeclarations ∧
      (tally (.default ℚ) .slashes functionSource).CoversDeclarations ∧
      (measure (.default ℚ) .slashes (typeSource ++ '\n' :: functionSource)).lines = 2 ∧
      (measure (.default ℚ) .slashes (typeSource ++ '\n' :: functionSource)).functions = 1 := by
  have hclosed : opensBlock .slashes typeSource = false := by decide +kernel
  have htype : (tally (.default ℚ) .slashes typeSource).CoversDeclarations := by decide +kernel
  have hfunction : (tally (.default ℚ) .slashes functionSource).CoversDeclarations := by
    decide +kernel
  obtain ⟨hsum, hfunctions⟩ := measure_append (.default ℚ) hclosed functionSource
  refine ⟨hclosed, htype, hfunction, hsum.lines_eq.trans ?_,
    (hfunctions htype hfunction).trans ?_⟩
  · decide +kernel
  · decide +kernel

end Source

end CostGate
