import CostGate.Project.Path
import CostGate.Source.Comment
import CostGate.Text.Case

/-!
# Classification of files

The kind of a file, its phase of development and the spelling of its comments follow from its
path alone. The words of the path are its letters and digits, cut where a capital letter follows a
small letter or a digit.
-/
namespace CostGate

inductive FileKind where
  | implementation
  | test
  | header
  deriving Repr, DecidableEq

def FileKind.name : FileKind → String
  | implementation => "implementation"
  | test => "test"
  | header => "header"

/-- Where in its development a source file belongs. -/
inductive Phase where
  | design
  | implementation
  | validation
  | deployment
  deriving Repr, DecidableEq

namespace Phase

def name : Phase → String
  | design => "design"
  | implementation => "implementation"
  | validation => "validation"
  | deployment => "deployment"

/-- All phases in the order of development. -/
def all : List Phase := [design, implementation, validation, deployment]

end Phase

namespace Classification

open Text (isAlphanumeric isUppercase isLowercase isAsciiDigit)

/-- Whether two neighbours among letters and digits belong to one word. -/
def sameWord (a b : Char) : Bool := !((isLowercase a || isAsciiDigit a) && isUppercase b)

def words (path : List Char) : List (List Char) :=
  ((Text.pieces (fun c => !isAlphanumeric c) path).flatMap (List.splitBy sameWord)).map
    Text.lowercase

/-- Whether a path has one of some words. -/
def mentions (path : List Char) (vocabulary : List String) : Bool :=
  (words path).any fun w => vocabulary.contains (String.ofList w)

def headerExtensions : List String := ["h", "hh", "hpp", "hxx", "pyi"]

def testWords : List String := ["test", "tests", "spec", "specs"]

/-- The words of each phase, in the order in which the phases are looked for. -/
def phaseWords : List (Phase × List String) :=
  [(.validation,
    ["test", "tests", "spec", "specs", "validation", "validate", "verify", "qa", "bench"]),
  (.deployment,
    ["deploy", "deployment", "release", "docker", "k8s", "kubernetes", "helm", "infra",
    "packaging"]),
  (.design,
    ["design", "interface", "interfaces", "api", "proto", "protocol", "schema", "idl", "contract",
    "contracts"])]

/-- Whether a path is that of a header, in any letter case. -/
def isHeader (path : List Char) : Bool :=
  let path := Text.lowercase path
  let extension := (Path.ofChars path).extension?.getD ""
  headerExtensions.contains extension || ['.', 'd', '.', 't', 's'].isSuffixOf path

def kind (path : List Char) : FileKind :=
  if isHeader path then .header
  else if mentions path testWords then .test
  else .implementation

/-- The phase of the file at a path: the first with a word of the path. -/
def phase (path : List Char) : Phase :=
  match phaseWords.find? fun entry => mentions path entry.2 with
  | some (p, _) => p
  | none => .implementation

/-- The extensions of files with hash comments. -/
def hashExtensions : List String := ["py", "pyi", "rb", "sh"]

/-- How comments are spelled in a file with such an extension. -/
def commentStyle (extension : Option String) : Source.CommentStyle :=
  if hashExtensions.contains (extension.getD "") then .hash else .slashes

end Classification

end CostGate
