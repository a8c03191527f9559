import CostGate.Gate.Context
import CostGate.Gate.Decision

/-!
# Reports

The one value from which every output is rendered.
-/
namespace CostGate

/-- What a report says about its run. -/
structure ReportHeader (α : Type) where
  generatedAt : String
  generator : String
  formatVersion : String
  environment : String
  branch : String
  threshold : α
  autonomousLimit : α
  deriving Repr, DecidableEq

/-- The verdict in a report. -/
structure Compliance where
  compliant : Bool
  emergencyAction : Bool
  level : String
  deriving Repr, DecidableEq

structure Report (α : Type) where
  header : ReportHeader α
  summary : Summary α
  violations : List (Violation α)
  compliance : Compliance
  isolation : Isolation α
  components : List (Assessment α)
  deriving Repr, DecidableEq

def ReportHeader.programName : String := "archgate"

def ReportHeader.version : String := "1.0"

variable {α : Type}

def ReportHeader.ofContext (context : Context) (threshold autonomousLimit : α)
    (generatedAt : String) : ReportHeader α where
  generatedAt
  generator := programName
  formatVersion := version
  environment := context.environment.name
  branch := context.branch
  threshold
  autonomousLimit

/-- A project complies when nothing violates the threshold. -/
def Summary.compliance (s : Summary α) : Compliance where
  compliant := s.violations = 0
  emergencyAction := s.emergencyAction
  level := s.level.name

def Report.ofEvaluation (e : Evaluation α) (header : ReportHeader α) : Report α where
  header
  summary := e.summary
  violations := e.violations
  compliance := e.summary.compliance
  isolation := e.isolation
  components := e.assessments

end CostGate
