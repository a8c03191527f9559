import CostGate.Text.Case
import CostGate.Text.Lines

/-!
# Environments

Where a run takes place. Continuous integration and production are strict: there every violation
fails the run unless the caller says otherwise.
-/
namespace CostGate

inductive Environment where
  | development
  | test
  | ci
  | production
  deriving Repr, DecidableEq

namespace Environment

def name : Environment → String
  | development => "development"
  | test => "test"
  | ci => "ci"
  | production => "production"

def isStrict : Environment → Bool
  | development => false
  | test => false
  | ci => true
  | production => true

/-- The environment of a name, which may be abbreviated, in any letter case and between blanks;
otherwise the name as it was understood. -/
def parse (s : String) : Except String Environment :=
  let name := String.ofList (Text.lowercase (Text.trim s.toList))
  if name = "development" ∨ name = "dev" then .ok development
  else if name = "ci" then .ok ci
  else if name = "test" then .ok test
  else if name = "production" ∨ name = "prod" then .ok production
  else .error name

/-- What is said about a name that no environment has. -/
def unknownMessage (name : String) : String :=
  "Unknown environment '" ++ name ++ "'. Valid environments: development, ci, test, production"

end Environment

end CostGate
