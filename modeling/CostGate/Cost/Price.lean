import CostGate.Config.Basic
import CostGate.Cost.Classification

/-!
# Prices

The base cost of a file is the weighted sum of its metrics; the final cost scales it by the kind
of the file and by its phase. The dominant phase of several files is the one with the largest
share of their final cost.
-/
namespace CostGate

open Number (Quantity ofCount total)

variable {α : Type}

def KindMultipliers.of (m : KindMultipliers α) : FileKind → α
  | .implementation => m.implementation
  | .test => m.test
  | .header => m.header

def PhaseMultipliers.of (m : PhaseMultipliers α) : Phase → α
  | .design => m.design
  | .implementation => m.implementation
  | .validation => m.validation
  | .deployment => m.deployment

variable [Quantity α]

def CostWeights.base (w : CostWeights α) (m : Metrics α) : α :=
  w.lines * ofCount m.lines + w.complexity * m.complexity + w.dependency * ofCount m.dependencies
    + w.function * ofCount m.functions + w.includes * m.includes

/-- Metrics with both costs, for a file of some kind and phase. -/
def Config.priceAs (config : Config α) (kind : FileKind) (phase : Phase) (m : Metrics α) :
    Metrics α :=
  let base := config.weights.base m
  { m with
    baseCost := base
    finalCost := base * config.fileTypes.of kind * config.phases.of phase }

/-- Metrics with both costs, for the file at a path. -/
def Config.price (config : Config α) (path : List Char) (m : Metrics α) : Metrics α :=
  config.priceAs (Classification.kind path) (Classification.phase path) m

/-- The final cost of all files of a phase. -/
def costOfPhase (costs : List (Phase × α)) (p : Phase) : α :=
  total ((costs.filter fun entry => entry.1 = p).map (·.2))

/-- The phase with the largest final cost, the earliest of several; implementation if no cost is
positive in sum. -/
def dominantPhase (costs : List (Phase × α)) : Phase :=
  let cost := costOfPhase costs
  if total (Phase.all.map cost) ≤ 0.0 then .implementation
  else Phase.all.foldl (fun best p => if cost best < cost p then p else best) .design

end CostGate
