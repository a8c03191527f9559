import CostGate.Cost.Price
import CostGate.Project.Discovery
import CostGate.Source.Measure

/-!
# Collection

Every source file of a project is measured and priced. A file that cannot be read or decoded
counts as empty. The files below a component add up to its metrics and its cost; a file counts for
every component above it.
-/
namespace CostGate

open Number (Quantity isFinite roundTo)

/-- A source file with its price. -/
structure PricedFile (α : Type) where
  path : Path
  relative : String
  kind : FileKind
  phase : Phase
  metrics : Metrics α

/-- The sum of the files below a directory. -/
structure Component (α : Type) where
  directory : Path
  name : String
  cost : α
  fileCount : Nat
  dominantPhase : Phase
  metrics : Metrics α

structure Collection (α : Type) where
  files : List (PricedFile α)
  components : List (Component α)
  /-- Files that were measured. -/
  processed : Nat
  /-- Files that could not be read or decoded. -/
  failed : Nat

/-- Why a project cannot be collected. -/
inductive CollectionError (α : Type) where
  | noDirectory (root : String)
  | noComponents (root : String) (files : Nat)
  | cost (file : String) (value : α) (processed : Nat)

/-- Why a single file cannot be measured. -/
inductive FileError where
  | access (path : String) (cause : AccessError)
  | encoding (path : String)
  deriving Repr, DecidableEq

def FileError.message : FileError → String
  | access path cause => "failed to read " ++ path ++ ": " ++ cause.message
  | encoding path => path ++ " is not valid UTF-8"

namespace Collection

variable {α : Type} [Quantity α]

/-- The text of a source file without a byte order mark, if it is encoded properly. -/
def decode? (content : ByteArray) : Option (List Char) :=
  (String.fromUTF8? content).map fun s => match s.toList with
    | c :: rest => if c.toNat = 0xFEFF then rest else c :: rest
    | [] => []

/-- The metrics of a file, if it can be decoded. -/
def measureFile? (weights : IncludeWeights α) (path : Path) (content : ByteArray) :
    Option (Metrics α) :=
  (decode? content).map (Source.measure weights (Classification.commentStyle path.extension?))

/-- A file with its price; one that cannot be measured costs nothing. -/
def priceFile (config : Config α) (root path : Path) (metrics : Option (Metrics α)) :
    PricedFile α :=
  let relative := (root.relativeTo path).text
  { path
    relative
    kind := Classification.kind relative.toList
    phase := Classification.phase relative.toList
    metrics := config.price relative.toList (metrics.getD .zero) }

/-- The directories from that of a file up to the root, which is left out. -/
def above (root file : Path) : List Path := file.ancestors.takeWhile (· ≠ root)

def component (root directory : Path) (files : List (PricedFile α)) : Component α :=
  let metrics := Metrics.sum (files.map (·.metrics))
  { directory
    name := (root.relativeTo directory).text
    cost := roundTo metrics.finalCost 4
    fileCount := files.length
    dominantPhase := dominantPhase (files.map fun f => (f.phase, f.metrics.finalCost))
    metrics }

/-- The files that have been found below a directory. -/
structure Slot (α : Type) where
  directory : Path
  files : Array (PricedFile α)

/-- The slots with a file put into that of a directory, if there is one. -/
def put (file : PricedFile α) (slots : List (Slot α)) (directory : Path) : List (Slot α) :=
  slots.map fun s => if s.directory = directory then { s with files := s.files.push file } else s

/-- The slots with a file put into those of all directories above it. -/
def distribute (root : Path) (slots : List (Slot α)) (file : PricedFile α) : List (Slot α) :=
  (above root file.path).foldl (put file) slots

/-- The components of a project. Each file is put into every component above it. -/
def aggregate (root : Path) (directories : List Path) (files : List (PricedFile α)) :
    List (Component α) :=
  let slots := files.foldl (distribute root) (directories.map fun d => ⟨d, #[]⟩)
  slots.map fun s => component root s.directory s.files.toList

/-- A cost that no collection accepts. -/
def isBadCost (cost : α) : Bool := decide (cost < 0.0) || !isFinite cost

/-- The collection of source files with their contents; a file without content could not be
read. -/
def ofFiles (config : Config α) (root : Path) (rootText : String)
    (files : List (Path × Option ByteArray)) : Except (CollectionError α) (Collection α) :=
  let directories := Discovery.components root (files.map (·.1))
  if directories.isEmpty then .error (.noComponents rootText files.length)
  else
    let measured := files.map fun (path, content) =>
      (path, content.bind (measureFile? config.includes path))
    let priced := measured.map fun (path, metrics) => priceFile config root path metrics
    let processed := measured.countP fun (_, metrics) => metrics.isSome
    match priced.find? fun f => isBadCost f.metrics.finalCost with
    | some bad => .error (.cost bad.relative bad.metrics.finalCost processed)
    | none =>
      .ok ⟨priced, aggregate root directories priced, processed, files.length - processed⟩

end Collection

/-- Where a project lies: the text that names its root, from a working directory on. -/
structure Site where
  workingDirectory : Place
  root : String

namespace Site

def path (s : Site) : Path := Path.ofString s.root

def place? (s : Site) (t : Tree) : Option Place :=
  match t.locate s.workingDirectory s.root with
  | .ok p => if (t.get? p).isSome then some p else none
  | .error _ => none

def isDirectory (s : Site) (t : Tree) : Bool := t.isDirectory s.workingDirectory s.root

/-- The source files of the project, in order. -/
def sourceFiles (s : Site) (t : Tree) (exclusion : Exclusion) : List Path :=
  match s.place? t with
  | some place => Discovery.sourceFilesOf t place exclusion s.path
  | none => []

/-- What is read at a path below the root. -/
def content? (s : Site) (t : Tree) (file : Path) : Option ByteArray := do
  let place ← s.place? t
  t.content? (place ++ (s.path.relativeTo file).parts.map Path.Part.text)

def collect {α : Type} [Quantity α] (s : Site) (t : Tree) (config : Config α) :
    Except (CollectionError α) (Collection α) :=
  if s.isDirectory t then
    Collection.ofFiles config s.path s.root
      ((s.sourceFiles t config.exclusion).map fun file => (file, s.content? t file))
  else .error (.noDirectory s.root)

/-- The metrics of one file, whose text names it from the working directory on. -/
def measure {α : Type} [Quantity α] (s : Site) (t : Tree) (weights : IncludeWeights α)
    (file : String) : Except FileError (Metrics α) :=
  match t.read s.workingDirectory file with
  | .error cause => .error (.access file cause)
  | .ok content => match Collection.measureFile? weights (Path.ofString file) content with
    | some metrics => .ok metrics
    | none => .error (.encoding file)

end Site

end CostGate
