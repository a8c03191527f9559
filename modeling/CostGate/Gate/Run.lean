import CostGate.Gate.Error
import CostGate.Project.Repository
import CostGate.Report.Basic

/-!
# Runs

A run validates its configuration, settles context and threshold, collects the project, evaluates
the components and decides. It moves on one stage between these steps. The first step that fails
ends it.
-/
namespace CostGate

open Number (Quantity)

structure RunOptions where
  environment : Option Environment
  branch : Option String
  /-- Whether violations fail the run; without a choice the environment tells. -/
  failOnViolations : Option Bool
  deriving Repr, DecidableEq

/-- What a run works on. -/
structure RunInput (α : Type) where
  tree : Tree
  site : Site
  config : Config α
  env : Variables
  /-- What the repository says about the branch. -/
  lookup : Except LookupFailure String
  /-- When the report is generated. -/
  generatedAt : String

structure RunOutcome (α : Type) where
  context : Context
  threshold : Threshold α
  report : Report α
  fails : Bool
  processed : Nat
  failed : Nat

variable {α : Type} [Quantity α]

/-- The threshold of a valid configuration. -/
def Config.thresholdFor (config : Config α) (context : Context) :
    Except (GateError α) (Threshold α) :=
  match config.fault? with
  | some fault => .error (.config fault)
  | none => match Threshold.resolve config context with
    | .error cause => .error (.threshold cause)
    | .ok threshold => .ok threshold

def Collection.evaluate (c : Collection α) (limits : Limits α) (threshold : α) :
    Except (GateError α) (Evaluation α) :=
  match limits.evaluate (c.components.map fun k => (k.name, k.cost)) threshold c.files.length with
  | .error cause => .error (.evaluation cause c.files.length)
  | .ok evaluation => .ok evaluation

/-- The stage after a given one, unless the run is over. -/
def Stage.advance (stage : Stage) (processed : Nat) : Except (GateError α) Stage :=
  match stage.next with
  | some next => .ok next
  | none => .error (.finished processed)

def run (input : RunInput α) (options : RunOptions) : Except (GateError α) (RunOutcome α) := do
  let config := input.config
  let context :=
    Context.resolve options.environment options.branch input.env input.lookup
  let threshold ← config.thresholdFor context
  let stage ← Stage.init.advance 0
  let collection ← (input.site.collect input.tree config).mapError .collection
  let stage ← stage.advance collection.processed
  let evaluation ← collection.evaluate config.limits threshold.value
  let stage ← stage.advance collection.processed
  let header :=
    ReportHeader.ofContext context threshold.value config.limits.autonomous input.generatedAt
  let report := Report.ofEvaluation evaluation header
  let stage ← stage.advance collection.processed
  let fails := report.summary.fails context.environment options.failOnViolations
  let _ ← stage.advance collection.processed
  .ok
    { context
      threshold
      report
      fails
      processed := collection.processed
      failed := collection.failed }

/-- What the repository around a project says about the branch. -/
def Site.lookupBranch (s : Site) (t : Tree) : Except LookupFailure String :=
  match s.place? t with
  | some place => Repository.branch t place
  | none => .error .repository

end CostGate
