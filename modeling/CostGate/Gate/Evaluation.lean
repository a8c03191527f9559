import CostGate.Gate.Violation

/-!
# Evaluation

All components of a project are assessed against one threshold. The summary counts zones and
severities and decides whether emergency action is required; the isolation lists say what has to
be taken apart and what has to be reviewed.
-/
namespace CostGate

open Number (Quantity roundTo ofCount isUndefined)

/-- The counts of an evaluation. -/
structure Summary (α : Type) where
  components : Nat
  violations : Nat
  critical : Nat
  emergency : Nat
  autonomous : Nat
  warningZone : Nat
  percentage : α
  emergencyAction : Bool
  filesScanned : Nat
  deriving Repr, DecidableEq

/-- Violations that must be isolated, and those that should be reviewed. -/
structure Isolation (α : Type) where
  mustIsolate : List (Violation α)
  shouldReview : List (Violation α)
  deriving Repr, DecidableEq

structure Evaluation (α : Type) where
  violations : List (Violation α)
  assessments : List (Assessment α)
  summary : Summary α
  isolation : Isolation α
  deriving Repr, DecidableEq

inductive EvaluationError (α : Type) where
  | threshold (value : α)
  | cost (component : String) (value : α)
  deriving Repr, DecidableEq

variable {α : Type} [Quantity α]

def countSeverity (s : Severity) (vs : List (Violation α)) : Nat :=
  vs.countP fun v => v.severity = s

def countZone (z : Zone) (as : List (Assessment α)) : Nat := as.countP fun a => a.zone = z

/-- The unrounded percentage that a part is of a whole; nothing of nothing is zero. -/
def percentage (part whole : Nat) : α :=
  if whole = 0 then 0.0 else ofCount part / ofCount whole * 100.0

/-- Emergency action is required when enough violations are critical or worse, or when enough
components are violations. The percentage is compared unrounded. -/
def Limits.requiresEmergencyAction (limits : Limits α) (severe : Nat) (percentage : α) : Bool :=
  limits.emergencyCount ≤ severe || limits.emergencyPercentage ≤ percentage

def Limits.summarize (limits : Limits α) (as : List (Assessment α)) (vs : List (Violation α))
    (filesScanned : Nat) : Summary α :=
  let critical := countSeverity .critical vs
  let emergency := countSeverity .emergency vs
  let exact : α := percentage vs.length as.length
  { components := as.length
    violations := vs.length
    critical
    emergency
    autonomous := countZone .autonomous as
    warningZone := countZone .warning as
    percentage := roundTo exact 2
    emergencyAction := limits.requiresEmergencyAction (critical + emergency) exact
    filesScanned }

/-- Whether a violation has to be isolated. -/
def Limits.mustIsolate (limits : Limits α) (v : Violation α) : Bool :=
  .critical ≤ v.severity || limits.criticalMultiplier ≤ v.ratio

/-- The violations of both tiers, each in the order of the report. -/
def Limits.isolate (limits : Limits α) (vs : List (Violation α)) : Isolation α where
  mustIsolate := Violation.sort (vs.filter limits.mustIsolate)
  shouldReview := Violation.sort (vs.filter fun v => !limits.mustIsolate v)

/-- A cost that no evaluation accepts. -/
def isBadCost (cost : α) : Bool := isUndefined cost || decide (cost < 0.0)

/-- A threshold that no evaluation accepts. -/
def isBadThreshold (threshold : α) : Bool := isUndefined threshold || decide (threshold ≤ 0.0)

/-- The assessments of all components, unless a cost is bad. -/
def Limits.assessAll (limits : Limits α) (threshold : α) :
    List (String × α) → Except (EvaluationError α) (List (Assessment α))
  | [] => .ok []
  | (name, cost) :: rest =>
    if isBadCost cost then .error (.cost name cost)
    else (assessAll limits threshold rest).map (limits.assess name cost threshold :: ·)

/-- The evaluation of named costs against a threshold. -/
def Limits.evaluate (limits : Limits α) (components : List (String × α)) (threshold : α)
    (filesScanned : Nat) : Except (EvaluationError α) (Evaluation α) :=
  if isBadThreshold threshold then .error (.threshold threshold)
  else do
    let as ← limits.assessAll threshold components
    let vs := Violation.sort (as.filterMap (·.violation? threshold))
    .ok ⟨vs, as, limits.summarize as vs filesScanned, limits.isolate vs⟩

end CostGate
