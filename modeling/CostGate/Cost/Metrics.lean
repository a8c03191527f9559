import CostGate.Number.Quantity

/-!
# Metrics of source text

What is measured in one source file, and the sum over several of them.
-/
namespace CostGate

open Number (Quantity)

/-- The raw counts of a file, its weighted measures, and the two costs computed from them. -/
structure Metrics (α : Type) where
  lines : Nat
  complexity : α
  dependencies : Nat
  includes : α
  functions : Nat
  baseCost : α
  finalCost : α
  deriving Repr, DecidableEq

namespace Metrics

variable {α : Type} [Quantity α]

def zero : Metrics α := ⟨0, 0.0, 0, 0.0, 0, 0.0, 0.0⟩

/-- The metrics of two parts taken together. -/
def add (m n : Metrics α) : Metrics α where
  lines := m.lines + n.lines
  complexity := m.complexity + n.complexity
  dependencies := m.dependencies + n.dependencies
  includes := m.includes + n.includes
  functions := m.functions + n.functions
  baseCost := m.baseCost + n.baseCost
  finalCost := m.finalCost + n.finalCost

/-- The metrics of a list of parts, added from the left. -/
def sum (ms : List (Metrics α)) : Metrics α := ms.foldl add zero

/-- The running totals while parts are added from the left. -/
def totalsFrom (acc : Metrics α) : List (Metrics α) → List (Metrics α)
  | [] => []
  | m :: ms => acc.add m :: totalsFrom (acc.add m) ms

end Metrics

end CostGate
