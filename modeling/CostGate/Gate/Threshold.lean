import CostGate.Config.Basic
import CostGate.Gate.Context
import CostGate.Pattern.Reader

/-!
# The threshold of a run

The threshold is the base of the environment times the multiplier of the branch, to three decimal
places. The first rule of the branch table with a match wins; a branch without a match takes the
default multiplier.
-/
namespace CostGate

open Number (Quantity roundTo isPositive)

/-- A branch rule whose pattern has been read. -/
structure BranchTable.Rule (α : Type) where
  rule : BranchRule α
  pattern : Pattern

/-- The branch rules in order and the multiplier of all other branches. -/
structure BranchTable (α : Type) where
  rules : List (BranchTable.Rule α)
  default : α

/-- The threshold of a run and what it came from. -/
structure Threshold (α : Type) where
  base : α
  branchMultiplier : α
  /-- The pattern of the rule that matched. -/
  matchedRule : Option String
  value : α
  deriving Repr, DecidableEq

/-- Why a run has no threshold. -/
inductive ThresholdError (α : Type) where
  | pattern (text : String)
  | value (environment : Environment) (branch : String) (value : α)
  deriving Repr, DecidableEq

namespace BranchTable

variable {α : Type}

/-- The rules with their patterns, or the first text that is no pattern. -/
def readRules : List (BranchRule α) → Except String (List (Rule α))
  | [] => .ok []
  | r :: rs => match Pattern.parse? r.pattern with
    | none => .error r.pattern
    | some p => (readRules rs).map (⟨r, p⟩ :: ·)

/-- The branch table of a configuration, or a text in it that is no pattern. -/
def ofConfig (config : Config α) : Except String (BranchTable α) :=
  (readRules config.branches).map fun rules => ⟨rules, config.defaultBranchMultiplier⟩

/-- The first rule with a match in a branch name. -/
def find? (table : BranchTable α) (branch : String) : Option (BranchRule α) :=
  (table.rules.find? fun r => r.pattern.isMatch branch.toList).map (·.rule)

/-- The multiplier of a branch and the pattern it comes from. -/
def lookup (table : BranchTable α) (branch : String) : α × Option String :=
  match table.find? branch with
  | some r => (r.multiplier, some r.pattern)
  | none => (table.default, none)

end BranchTable

namespace Threshold

variable {α : Type} [Quantity α]

/-- The threshold of a context, which must be positive. -/
def ofTable (bases : BaseThresholds α) (table : BranchTable α) (context : Context) :
    Except (ThresholdError α) (Threshold α) :=
  let base := bases.of context.environment
  let (multiplier, rule) := table.lookup context.branch
  let value := roundTo (base * multiplier) 3
  if isPositive value then .ok ⟨base, multiplier, rule, value⟩
  else .error (.value context.environment context.branch value)

/-- The threshold of a context under a configuration. -/
def resolve (config : Config α) (context : Context) : Except (ThresholdError α) (Threshold α) :=
  match BranchTable.ofConfig config with
  | .error text => .error (.pattern text)
  | .ok table => ofTable config.thresholds table context

end Threshold

end CostGate
