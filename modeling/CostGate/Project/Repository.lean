import CostGate.Gate.Context
import CostGate.Project.Ignore

/-!
# The branch of a repository

The repository of a project is found from its root upwards. Its head names a branch, or else a
commit, in which case it is detached.
-/
namespace CostGate

namespace Repository

/-- Whether a directory holds a repository: a head, objects and references. -/
def isRepository (t : Tree) (p : Place) : Bool :=
  let isFile := match t.get? (p ++ ["HEAD"]) with
    | some (.file _) => true
    | some .locked => true
    | _ => false
  let isDirectory (name : String) := match t.get? (p ++ [name]) with
    | some .directory => true
    | _ => false
  isFile && isDirectory "objects" && isDirectory "refs"

/-- White space at the end of a line of a repository's files. -/
def isSpace (b : UInt8) : Bool := b == 32 || (9 ≤ b && b ≤ 13)

def trimEnd (bs : List UInt8) : List UInt8 := (bs.reverse.dropWhile isSpace).reverse

def afterText? (text : String) (bs : List UInt8) : Option (List UInt8) :=
  let front := text.toUTF8.toList
  if front.isPrefixOf bs then some (bs.drop front.length) else none

def decode? (bs : List UInt8) : Option String := String.fromUTF8? ⟨bs.toArray⟩

/-- The place that a file in lieu of a repository points to. -/
def linked? (t : Tree) (p : Place) (content : ByteArray) : Option Place := do
  let link ← decode? ((← afterText? "gitdir:" (trimEnd content.toList)).dropWhile isSpace)
  match t.locate p link with
  | .ok q => if (t.get? q).isSome then some q else none
  | .error _ => none

/-- The first repository in or at one of several directories. A file that points nowhere ends the
search. -/
def discover? (t : Tree) : List Place → Option Place
  | [] => none
  | p :: rest =>
    let here := if isRepository t p then some p else discover? t rest
    match t.get? (p ++ [".git"]) with
    | some (.file content) => match linked? t p content with
      | none => none
      | some q => if isRepository t q then some q else here
    | _ => if isRepository t (p ++ [".git"]) then some (p ++ [".git"]) else here

def isHexDigit (b : UInt8) : Bool :=
  (48 ≤ b && b ≤ 57) || (65 ≤ b && b ≤ 70) || (97 ≤ b && b ≤ 102)

/-- Whether a head names a commit: forty hexadecimal digits, and nothing right behind them. -/
def namesCommit (head : List UInt8) : Bool :=
  (head.take 40).length = 40 && (head.take 40).all isHexDigit &&
    (head.drop 40).head?.all fun b => b == 0 || isSpace b

/-- The branch that a head names. A reference outside of the branches counts with its whole
name. -/
def branchOfHead (head : List UInt8) : Except LookupFailure String :=
  match afterText? "ref: " head with
  | none => .error (if namesCommit head then .detached else .repository)
  | some _ =>
    let target := (trimEnd head).drop 5
    if target.isEmpty then .error .repository
    else
      let target := target.takeWhile (· != 0)
      match decode? ((afterText? "refs/heads/" target).getD target) with
      | some name => .ok name
      | none => .error .detached

/-- The branch of the repository around a place. -/
def branch (t : Tree) (p : Place) : Except LookupFailure String :=
  match discover? t (p :: Ignore.above p) with
  | none => .error .repository
  | some repository => match t.content? (repository ++ ["HEAD"]) with
    | some head => branchOfHead head.toList
    | none => .error .repository

end Repository

end CostGate
