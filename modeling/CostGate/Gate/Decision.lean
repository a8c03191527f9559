import CostGate.Gate.Evaluation

/-!
# The verdict of a run

The level of an evaluation, the decision whether a run fails, and the stages that a run passes
through.
-/
namespace CostGate

variable {α : Type}

/-- The level that an evaluation has reached. -/
inductive Level where
  | autonomous
  | warning
  | governance
  | emergency
  deriving Repr, DecidableEq

namespace Level

def name : Level → String
  | autonomous => "autonomous"
  | warning => "warning"
  | governance => "governance"
  | emergency => "emergency"

end Level

/-- The worst thing that the summary knows of. -/
def Summary.level (s : Summary α) : Level :=
  if s.emergencyAction then .emergency
  else if 0 < s.violations then .governance
  else if 0 < s.warningZone then .warning
  else .autonomous

/-- Whether the run fails. Emergency action always fails it. Violations fail it when the caller
says so, or in a strict environment when the caller says nothing. -/
def Summary.fails (s : Summary α) (environment : Environment) (choice : Option Bool) : Bool :=
  s.emergencyAction || (choice.getD environment.isStrict && 0 < s.violations)

/-- The stages of a run. -/
inductive Stage where
  | init
  | collect
  | evaluate
  | report
  | decide
  | done
  deriving Repr, DecidableEq

namespace Stage

def name : Stage → String
  | init => "Init"
  | collect => "Collect"
  | evaluate => "Evaluate"
  | report => "Report"
  | decide => "Decide"
  | done => "Done"

def all : List Stage := [init, collect, evaluate, report, decide, done]

def next : Stage → Option Stage
  | init => some collect
  | collect => some evaluate
  | evaluate => some report
  | report => some decide
  | decide => some done
  | done => none

def remaining : Stage → Nat
  | init => 5
  | collect => 4
  | evaluate => 3
  | report => 2
  | decide => 1
  | done => 0

theorem remaining_next {s t : Stage} (h : s.next = some t) : t.remaining < s.remaining := by
  cases s <;> cases t <;> simp_all [next, remaining]

def onward (s : Stage) : List Stage :=
  match _h : s.next with
  | none => [s]
  | some t => s :: onward t
termination_by s.remaining
decreasing_by exact remaining_next _h

end Stage

end CostGate
