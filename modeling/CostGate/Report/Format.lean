import CostGate.Text.Case

/-!
# Output formats
-/
namespace CostGate

/-- The forms in which a report is rendered. -/
inductive OutputFormat where
  | console
  | json
  | markdown
  deriving Repr, DecidableEq

namespace OutputFormat

def name : OutputFormat → String
  | console => "console"
  | json => "json"
  | markdown => "markdown"

/-- Formats whose output has to stand alone. -/
def isMachineReadable : OutputFormat → Bool
  | console => false
  | json => true
  | markdown => true

/-- The format of a name in any letter case. -/
def parse? (s : String) : Option OutputFormat :=
  let name := String.ofList (Text.lowercase s.toList)
  if ["console", "text", "txt", "terminal"].contains name then some console
  else if name = "json" then some json
  else if name = "markdown" ∨ name = "md" then some markdown
  else none

/-- What is said about a name that no format has. -/
def unknownMessage (name : String) : String :=
  "Unknown format '" ++ name ++ "'. Valid formats: console, json, markdown"

end OutputFormat

end CostGate
