import CostGate.Config.Reading
import CostGate.Document.Json
import CostGate.Document.Toml
import CostGate.Project.Path
import CostGate.Project.Tree

/-!
# Loading a configuration

A project is configured by an explicit file, by one of two files in its root, or by the defaults.
-/
namespace CostGate

/-- Why a configuration file cannot be used. -/
inductive LoadingError where
  | missing (path : String)
  | access (path : String) (cause : AccessError)
  | encoding (path : String)
  | malformed (path : String)
  deriving Repr, DecidableEq

def LoadingError.message : LoadingError → String
  | missing path => "config file not found: " ++ path
  | access path cause => "failed to read " ++ path ++ ": " ++ cause.message
  | encoding path => "failed to read " ++ path ++ ": stream did not contain valid UTF-8"
  | malformed path => "failed to parse " ++ path

namespace Config

/-- The configuration files of a project, the stronger first. -/
def fileNames : List String := ["archgate.toml", ".archgaterc.json"]

/-- Whether a file is written in JSON, by its extension in any letter case. -/
def isJson (path : String) : Bool :=
  (Path.ofString path).extension?.any fun e => e.toList.map Text.asciiLower == ['j', 's', 'o', 'n']

/-- The configuration that the text of a file describes. -/
def ofText? (path text : String) : Option (Config Float) :=
  if isJson path then (Document.Json.parse? text.toList).bind (Config.ofValue? .refuse)
  else (Document.Toml.parse? text.toList).bind (Config.ofValue? .drop)

def loadFile (t : Tree) (workingDirectory : Place) (path : String) :
    Except LoadingError (Config Float) :=
  match t.read workingDirectory path with
  | .error cause => .error (.access path cause)
  | .ok content => match String.fromUTF8? content with
    | none => .error (.encoding path)
    | some text => match ofText? path text with
      | none => .error (.malformed path)
      | some config => .ok config

/-- The configuration of a project. A file in its root counts only if it exists; an explicit file
has to. -/
def load (t : Tree) (workingDirectory : Place) (root : String) (explicit : Option String) :
    Except LoadingError (Config Float) :=
  match explicit with
  | some path =>
    if t.isFile workingDirectory path then loadFile t workingDirectory path
    else .error (.missing path)
  | none =>
    match (fileNames.map (Path.join root)).find? (t.isFile workingDirectory) with
    | some path => loadFile t workingDirectory path
    | none => .ok (Config.default Float)

end Config

end CostGate
