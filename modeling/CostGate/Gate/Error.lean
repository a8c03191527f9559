import CostGate.Config.Loading
import CostGate.Config.Validation
import CostGate.Gate.Evaluation
import CostGate.Gate.Threshold
import CostGate.Project.Collection

/-!
# Errors of a run

Everything that ends a run without a verdict. An error is one of three kinds, and it tells how
many files had been processed.
-/
namespace CostGate

/-- Why a run has no verdict. -/
inductive GateError (α : Type) where
  | loading (cause : LoadingError)
  | config (fault : ConfigFault α)
  | threshold (cause : ThresholdError α)
  | collection (cause : CollectionError α)
  | evaluation (cause : EvaluationError α) (filesScanned : Nat)
  /-- A run that is done was told to go on. -/
  | finished (processed : Nat)

inductive ErrorKind where
  | configuration
  | project
  | invariant
  deriving Repr, DecidableEq

def ErrorKind.label : ErrorKind → String
  | configuration => "Invalid configuration"
  | project => "Project structure error"
  | invariant => "Invariant violated"

namespace GateError

variable {α : Type}

def kind : GateError α → ErrorKind
  | loading _ => .configuration
  | config _ => .configuration
  | threshold _ => .configuration
  | collection (.noDirectory _) => .project
  | collection (.noComponents _ _) => .project
  | collection (.cost _ _ _) => .invariant
  | evaluation _ _ => .invariant
  | finished _ => .invariant

/-- The files that were processed before the error. -/
def filesProcessed : GateError α → Nat
  | collection (.cost _ _ processed) => processed
  | evaluation _ filesScanned => filesScanned
  | finished processed => processed
  | _ => 0

/-- The exit code of a run without a verdict. -/
def exitCode : Nat := 2

def number (x : Float) : String := String.ofList (Number.plain x)

def count (n : Nat) : String := String.ofList (Number.numeral n)

/-- What happened, without its kind. -/
def detail : GateError Float → String
  | loading cause => cause.message
  | config fault => fault.message
  | threshold (.pattern text) => "invalid branch pattern '" ++ text ++ "'"
  | threshold (.value environment branch value) =>
    "threshold for " ++ environment.name ++ " on '" ++ branch ++ "' resolved to " ++
      number value ++ " (must be > 0)"
  | collection (.noDirectory root) =>
    "project root " ++ root ++ " does not exist or is not a directory"
  | collection (.noComponents root files) =>
    "no component directories found under " ++ root ++ " (" ++ count files ++
      " source files discovered)"
  | collection (.cost file value _) =>
    "cost of " ++ file ++ " is " ++ number value ++ " (must be a non-negative number)"
  | evaluation (.threshold value) _ => "threshold must be positive, got " ++ number value
  | evaluation (.cost component value) _ =>
    "component " ++ component ++ " has negative cost " ++ number value
  | finished _ => "run already finished"

def message (e : GateError Float) : String := e.kind.label ++ ": " ++ e.detail

end GateError

end CostGate
