import CostGate.Gate.Environment

/-!
# The context of a run

Environment and branch are settled once, before anything is measured. An explicit choice wins;
then the environment variables and the repository are asked, in a fixed order.
-/
namespace CostGate

abbrev Variables := String → Option String

/-- Why the repository does not tell the branch. -/
inductive LookupFailure where
  | repository
  | detached
  | timeout
  | lost
  deriving Repr, DecidableEq

structure Context where
  environment : Environment
  branch : String
  deriving Repr, DecidableEq

namespace Context

/-- The variable that names the environment. -/
def environmentVariable : String := "ARCHGATE_ENVIRONMENT"

/-- Variables that are set only where changes are integrated automatically. -/
def integrationVariables : List String :=
  ["GITHUB_ACTIONS", "GITLAB_CI", "JENKINS_URL", "BUILDKITE", "CIRCLECI", "TF_BUILD"]

/-- Variables that hold the branch being built. -/
def branchVariables : List String :=
  ["GITHUB_HEAD_REF", "GITHUB_REF_NAME", "CI_COMMIT_REF_NAME", "BRANCH_NAME"]

/-- The branch when nothing tells it. -/
def unknownBranch : String := "unknown"

def trimmed (s : String) : String := String.ofList (Text.trim s.toList)

/-- Whether the variables say that changes are being integrated: `CI` affirms it, or one of the
integration variables is set at all. -/
def isIntegration (env : Variables) : Bool :=
  let affirms (v : String) : Bool :=
    let answer := String.ofList (Text.lowercase (Text.trim v.toList))
    answer == "true" || answer == "1" || answer == "yes"
  (env "CI").any affirms || integrationVariables.any fun name => (env name).isSome

/-- The environment that the variables tell. A name that no environment has is passed over. -/
def environmentOf (env : Variables) : Environment :=
  let fallback := if isIntegration env then .ci else .development
  match env environmentVariable with
  | none => fallback
  | some name => match Environment.parse name with
    | .ok e => e
    | .error _ => fallback

/-- The first branch variable that is not blank. -/
def branchOf (env : Variables) : String :=
  let names := (branchVariables.filterMap env).map trimmed
  (names.find? fun name => !name.isEmpty).getD unknownBranch

/-- The context from explicit choices, variables and repository. A blank branch is no choice. -/
def resolve (environment : Option Environment) (branch : Option String) (env : Variables)
    (lookup : Except LookupFailure String) : Context where
  environment := environment.getD (environmentOf env)
  branch :=
    let choice := (branch.map trimmed).getD ""
    if !choice.isEmpty then choice
    else match lookup with
      | .ok name => name
      | .error _ => branchOf env

end Context

end CostGate
