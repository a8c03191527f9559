import CostGate.Config.Basic
import CostGate.Gate.Severity

/-!
# Violations

The assessment of one component against a threshold, and the violations among the assessed
components in the order in which they are reported: highest ratio first, then by path.
-/
namespace CostGate

open Number (Quantity roundTo)

/-- A component whose cost exceeds the threshold. -/
structure Violation (α : Type) where
  path : String
  cost : α
  threshold : α
  severity : Severity
  ratio : α
  deriving Repr, DecidableEq

/-- Zone and severity of one component. -/
structure Assessment (α : Type) where
  path : String
  cost : α
  zone : Zone
  severity : Severity
  deriving Repr, DecidableEq

variable {α : Type} [Quantity α]

/-- The governance zone is checked first, so a threshold at or below the autonomous limit still
flags costs above it. -/
def Limits.zone (limits : Limits α) (cost threshold : α) : Zone :=
  if threshold < cost then .governance
  else if cost ≤ limits.autonomous then .autonomous
  else .warning

/-- Cost over threshold, to four decimal places. -/
def violationRatio (cost threshold : α) : α := roundTo (cost / threshold) 4

/-- The severity of a ratio; the emergency multiplier is looked at first. -/
def Limits.severityOfRatio (limits : Limits α) (ratio : α) : Severity :=
  if limits.emergencyMultiplier ≤ ratio then .emergency
  else if limits.criticalMultiplier ≤ ratio then .critical
  else .warning

def Limits.severityIn (limits : Limits α) (cost threshold : α) : Zone → Severity
  | .autonomous => .autonomous
  | .warning => .warning
  | .governance => limits.severityOfRatio (violationRatio cost threshold)

def Limits.assess (limits : Limits α) (path : String) (cost threshold : α) : Assessment α :=
  let zone := limits.zone cost threshold
  ⟨path, cost, zone, limits.severityIn cost threshold zone⟩

/-- The violation of a component in the governance zone. -/
def Assessment.violation? (threshold : α) (a : Assessment α) : Option (Violation α) :=
  if a.zone = .governance then
    some ⟨a.path, a.cost, threshold, a.severity, violationRatio a.cost threshold⟩
  else none

namespace Violation

/-- Whether one violation is reported before another. Ratios that cannot be compared leave the
order to the paths. -/
def before (v w : Violation α) : Bool :=
  if w.ratio < v.ratio then true
  else if v.ratio < w.ratio then false
  else v.path < w.path

/-- A violation put into a list in reverse order, behind those that are reported after it. -/
def insertReversed (v : Violation α) : List (Violation α) → List (Violation α)
  | [] => [v]
  | w :: ws => if v.before w then w :: insertReversed v ws else v :: w :: ws

/-- The violations in the order of the report; equal ones keep their order. -/
def sort (vs : List (Violation α)) : List (Violation α) :=
  (vs.foldl (fun sorted v => insertReversed v sorted) []).reverse

end Violation

end CostGate
