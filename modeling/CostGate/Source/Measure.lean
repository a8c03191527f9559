import CostGate.Source.Comment
import CostGate.Source.Complexity
import CostGate.Source.Directive

/-!
# Measuring source text

Every effective line adds to the tally of a text: one line, its complexity, its directive with
the weight of the target, its opening braces and its type declarations. The number of functions
is estimated as the braces that no type declaration accounts for.
-/
namespace CostGate.Source

open Number (Quantity ofCount)

/-- What the effective lines of a text add up to. -/
structure Tally (α : Type) where
  lines : Nat
  quarters : Nat
  dependencies : Nat
  includes : α
  braces : Nat
  declarations : Nat

/-- The number of maximal words of a text among the given ones. -/
def countWords (words : List String) (s : List Char) : Nat :=
  (Text.pieces (fun c => !Text.isWordChar c) s).countP fun w => words.contains (String.ofList w)

/-- The words that open a type declaration with a brace. -/
def declarationWords : List String := ["struct", "enum"]

namespace Tally

variable {α : Type} [Quantity α]

def zero : Tally α := ⟨0, 0, 0, 0.0, 0, 0⟩

def addLine (weights : IncludeWeights α) (t : Tally α) (line : List Char) : Tally α :=
  let target := directiveTarget? line
  { lines := t.lines + 1
    quarters := t.quarters + Source.quarters line
    dependencies := t.dependencies + if target.isSome then 1 else 0
    includes := match target with
      | some target => t.includes + includeWeight weights target
      | none => t.includes
    braces := t.braces + line.count '\x7b'
    declarations := t.declarations + countWords declarationWords line }

def ofLines (weights : IncludeWeights α) (ls : List (List Char)) : Tally α :=
  ls.foldl (addLine weights) zero

def functions (t : Tally α) : Nat := t.braces - t.declarations

/-- The metrics of a tally, without costs. -/
def metrics (t : Tally α) : Metrics α where
  lines := t.lines
  complexity := ofCount t.quarters * 0.25
  dependencies := t.dependencies
  includes := t.includes
  functions := t.functions
  baseCost := 0.0
  finalCost := 0.0

end Tally

def measure {α : Type} [Quantity α] (weights : IncludeWeights α) (style : CommentStyle)
    (s : List Char) : Metrics α :=
  (Tally.ofLines weights (effectiveLines style s)).metrics

end CostGate.Source
