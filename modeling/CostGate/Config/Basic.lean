import CostGate.Cost.Metrics
import CostGate.Gate.Environment

/-!
# Configuration

The values that a run depends on, with their defaults. A configuration over doubles is what files
hold; the weights and limits may be any quantities.
-/
namespace CostGate

open Number (Quantity)

structure CostWeights (α : Type) where
  lines : α
  complexity : α
  dependency : α
  function : α
  includes : α
  deriving Repr, DecidableEq

/-- What an include adds: for climbing out of its directory, for more than three segments, and
for being qualified by a package. -/
structure IncludeWeights (α : Type) where
  relative : α
  deep : α
  namespaced : α
  deriving Repr, DecidableEq

structure KindMultipliers (α : Type) where
  implementation : α
  test : α
  header : α
  deriving Repr, DecidableEq

/-- Cost multipliers by phase of development. -/
structure PhaseMultipliers (α : Type) where
  design : α
  implementation : α
  validation : α
  deployment : α
  deriving Repr, DecidableEq

/-- The base threshold of each environment. -/
structure BaseThresholds (α : Type) where
  development : α
  test : α
  ci : α
  production : α
  deriving Repr, DecidableEq

/-- Zone boundaries and emergency triggers. -/
structure Limits (α : Type) where
  /-- A cost up to this is autonomous. -/
  autonomous : α
  /-- The ratio from which a violation is critical. -/
  criticalMultiplier : α
  /-- The ratio from which a violation is an emergency. -/
  emergencyMultiplier : α
  /-- So many critical violations and emergencies force emergency action. -/
  emergencyCount : Nat
  /-- Such a percentage of violations forces emergency action. -/
  emergencyPercentage : α
  deriving Repr, DecidableEq

/-- A branch whose name has a match of the pattern takes the multiplier. -/
structure BranchRule (α : Type) where
  pattern : String
  multiplier : α
  deriving Repr, DecidableEq

/-- Which paths are left out of a run. -/
structure Exclusion where
  paths : List String
  skipDefaults : Bool
  deriving Repr, DecidableEq

structure Config (α : Type) where
  weights : CostWeights α
  includes : IncludeWeights α
  fileTypes : KindMultipliers α
  phases : PhaseMultipliers α
  thresholds : BaseThresholds α
  limits : Limits α
  branches : List (BranchRule α)
  defaultBranchMultiplier : α
  exclusion : Exclusion
  /-- How many violations a console report details. -/
  top : Nat
  deriving Repr, DecidableEq

section Defaults

variable (α : Type) [Quantity α]

def CostWeights.default : CostWeights α := ⟨0.001, 0.01, 0.02, 0.005, 0.0⟩

def IncludeWeights.default : IncludeWeights α := ⟨1.0, 0.5, 0.25⟩

def KindMultipliers.default : KindMultipliers α := ⟨1.0, 0.6, 0.4⟩

def PhaseMultipliers.default : PhaseMultipliers α := ⟨0.8, 1.0, 0.7, 0.9⟩

def BaseThresholds.default : BaseThresholds α := ⟨0.8, 0.7, 0.6, 0.5⟩

def Limits.default : Limits α := ⟨0.5, 1.5, 2.0, 5, 15.0⟩

/-- Main lines and releases, development lines, staging, and short-lived branches. -/
def BranchRule.defaults : List (BranchRule α) :=
  [⟨"^(main|master)$", 1.0⟩,
  ⟨"^(release|hotfix)([/-].*)?$", 1.0⟩,
  ⟨"^(develop|development|dev)$", 1.2⟩,
  ⟨"^(staging|stage)$", 1.1⟩,
  ⟨"^(feature|feat|bugfix|fix)[/-].+", 1.7⟩]

def Exclusion.default : Exclusion := ⟨[], false⟩

def Config.default : Config α where
  weights := CostWeights.default α
  includes := IncludeWeights.default α
  fileTypes := KindMultipliers.default α
  phases := PhaseMultipliers.default α
  thresholds := BaseThresholds.default α
  limits := Limits.default α
  branches := BranchRule.defaults α
  defaultBranchMultiplier := 1.3
  exclusion := Exclusion.default
  top := 10

end Defaults

/-- The base threshold of an environment. -/
def BaseThresholds.of {α : Type} (t : BaseThresholds α) : Environment → α
  | .development => t.development
  | .test => t.test
  | .ci => t.ci
  | .production => t.production

end CostGate
