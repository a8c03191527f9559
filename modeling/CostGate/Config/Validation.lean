import CostGate.Config.Basic
import CostGate.Number.Text
import CostGate.Pattern.Reader

/-!
# Validation

What makes a configuration unfit for a run. Weights, multipliers and the autonomous limit are not
negative, thresholds and branch multipliers are positive, the multipliers of the severities are in
order, the emergency triggers can be reached, and branch patterns can be read. Of several faults
the first in this order counts.
-/
namespace CostGate

open Number (Quantity isFinite isNonnegative isPositive)

inductive ConfigFault (α : Type) where
  | negative (setting : String) (value : α)
  | notPositive (setting : String) (value : α)
  | criticalMultiplier (value : α)
  | emergencyMultiplier (value critical : α)
  | emergencyCount
  | emergencyPercentage (value : α)
  | branchMultiplier (index : Nat) (value : α)
  | branchPattern (index : Nat) (text : String)
  deriving Repr, DecidableEq

namespace Config

variable {α : Type}

/-- The settings that may not be negative, by name. -/
def nonnegativeSettings (c : Config α) : List (String × α) :=
  [("weights.lines", c.weights.lines),
  ("weights.complexity", c.weights.complexity),
  ("weights.dependency", c.weights.dependency),
  ("weights.function", c.weights.function),
  ("weights.include", c.weights.includes),
  ("includes.relative", c.includes.relative),
  ("includes.deep", c.includes.deep),
  ("includes.namespaced", c.includes.namespaced),
  ("file_types.implementation", c.fileTypes.implementation),
  ("file_types.test", c.fileTypes.test),
  ("file_types.header", c.fileTypes.header),
  ("phases.design", c.phases.design),
  ("phases.implementation", c.phases.implementation),
  ("phases.validation", c.phases.validation),
  ("phases.deployment", c.phases.deployment),
  ("limits.autonomous", c.limits.autonomous)]

/-- The settings that have to be positive, by name. -/
def positiveSettings (c : Config α) : List (String × α) :=
  [("thresholds.development", c.thresholds.development),
  ("thresholds.test", c.thresholds.test),
  ("thresholds.ci", c.thresholds.ci),
  ("thresholds.production", c.thresholds.production),
  ("default_branch_multiplier", c.defaultBranchMultiplier)]

variable [Quantity α]

def negativeFault? (c : Config α) : Option (ConfigFault α) :=
  (c.nonnegativeSettings.find? fun s => !isNonnegative s.2).map fun s => .negative s.1 s.2

def positiveFault? (c : Config α) : Option (ConfigFault α) :=
  (c.positiveSettings.find? fun s => !isPositive s.2).map fun s => .notPositive s.1 s.2

/-- The first fault of the limits, apart from the autonomous one. -/
def limitFault? (l : Limits α) : Option (ConfigFault α) :=
  if !isFinite l.criticalMultiplier || decide (l.criticalMultiplier < 1.0) then
    some (.criticalMultiplier l.criticalMultiplier)
  else if !isFinite l.emergencyMultiplier ||
      decide (l.emergencyMultiplier < l.criticalMultiplier) then
    some (.emergencyMultiplier l.emergencyMultiplier l.criticalMultiplier)
  else if l.emergencyCount = 0 then some .emergencyCount
  else if decide (0.0 < l.emergencyPercentage) && decide (l.emergencyPercentage ≤ 100.0) then none
  else some (.emergencyPercentage l.emergencyPercentage)

/-- The first fault of branch rules, the first of which has the given index. -/
def branchFault? (index : Nat) : List (BranchRule α) → Option (ConfigFault α)
  | [] => none
  | r :: rs =>
    if !isPositive r.multiplier then some (.branchMultiplier index r.multiplier)
    else if (Pattern.parse? r.pattern).isNone then some (.branchPattern index r.pattern)
    else branchFault? (index + 1) rs

def fault? (c : Config α) : Option (ConfigFault α) :=
  c.negativeFault?.or (c.positiveFault?.or ((limitFault? c.limits).or (branchFault? 0 c.branches)))

end Config

namespace ConfigFault

def message : ConfigFault Float → String
  | negative setting value =>
    setting ++ " must be a non-negative number, got " ++ text value
  | notPositive setting value => setting ++ " must be greater than zero, got " ++ text value
  | criticalMultiplier value =>
    "limits.critical_multiplier must be at least 1.0, got " ++ text value
  | emergencyMultiplier value critical =>
    "limits.emergency_multiplier (" ++ text value ++
      ") must not be below limits.critical_multiplier (" ++ text critical ++ ")"
  | emergencyCount => "limits.emergency_count must be at least 1"
  | emergencyPercentage value =>
    "limits.emergency_percentage must be in (0, 100], got " ++ text value
  | branchMultiplier index value =>
    rule index ++ ".multiplier must be greater than zero, got " ++ text value
  | branchPattern index pattern =>
    rule index ++ ".pattern '" ++ pattern ++ "' is not a valid regex"
where
  text (x : Float) : String := String.ofList (Number.plain x)
  rule (index : Nat) : String := "branches[" ++ String.ofList (Number.numeral index) ++ "]"

end ConfigFault

end CostGate
