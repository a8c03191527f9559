import CostGate.Config.Exclusion
import CostGate.Cost.Classification
import CostGate.Project.Ignore

/-!
# Discovery

The source files of a project are the files below its root that have a known extension, that no
ignore file hides and that the configuration does not exclude, in the order of paths. The
components are the directories below the root that hold an implementation file, unless the name
of the directory speaks of tests.
-/
namespace CostGate

namespace Discovery

def extensions : List String :=
  ["c", "h", "cpp", "cc", "cxx", "hpp", "hh", "hxx", "m", "mm", "rs", "go", "java", "kt", "kts",
  "cs", "py", "pyi", "js", "jsx", "mjs", "ts", "tsx", "rb", "php", "swift"]

def isSource (p : Path) : Bool := p.extension?.any extensions.contains

/-- Whether the directories between a root and a place, and the place itself, are all admitted. -/
def isVisible (ignoreFiles : List (List (Place × List Ignore.Rule))) (root place : Place) : Bool :=
  (Tree.leadingTo place).all (fun p =>
    p.length ≤ root.length || Ignore.admits ignoreFiles p true) &&
    Ignore.admits ignoreFiles place false

def isFileEntry : Entry → Bool
  | .directory => false
  | .file _ => true
  | .locked => true

/-- The names that lead from a root to each file that can be seen below it. A root that is a file
leads to itself. -/
def visibleFiles (t : Tree) (root : Place) : List (List String) :=
  match t.get? root with
  | none => []
  | some .directory =>
    let ignoreFiles := Ignore.kinds.map (Ignore.rulesByDirectory t)
    t.entries.filterMap fun (place, entry) =>
      if isFileEntry entry ∧ root.isPrefixOf place ∧ isVisible ignoreFiles root place then
        some (place.drop root.length)
      else none
  | some _ => [[]]

/-- A list of paths in order with one more, unless it has it already. -/
def insert (p : Path) : List Path → List Path
  | [] => [p]
  | q :: qs => if p.before q then p :: q :: qs else if p = q then q :: qs else q :: insert p qs

/-- Paths in order, each once. -/
def inOrder (ps : List Path) : List Path := ps.foldr insert []

theorem mem_insert {p q : Path} {qs : List Path} : q ∈ insert p qs ↔ q = p ∨ q ∈ qs := by
  induction qs with
  | nil => simp [insert]
  | cons r rs ih =>
    simp only [insert]
    split
    · simp
    · split
      · rename_i h
        subst h
        simp
      · simp [ih, or_left_comm]

theorem mem_inOrder {p : Path} {ps : List Path} : p ∈ inOrder ps ↔ p ∈ ps := by
  induction ps with
  | nil => simp [inOrder]
  | cons q qs ih => simpa [inOrder, mem_insert] using or_congr Iff.rfl ih

/-- The source files among the places below a root, as paths, in order. -/
def sourceFiles (exclusion : Exclusion) (root : Path) (names : List (List String)) : List Path :=
  let qualifies (p : Path) : Bool := isSource p && !exclusion.excludes (root.relativeTo p).text
  inOrder ((names.map root.append).filter qualifies)

/-- The source files of a project in a tree, its root standing at a place. -/
def sourceFilesOf (t : Tree) (place : Place) (exclusion : Exclusion) (root : Path) : List Path :=
  sourceFiles exclusion root (visibleFiles t place)

/-- Whether the name of a directory speaks of tests, in any letter case. -/
def speaksOfTests (directory : Path) : Bool :=
  let name := (directory.fileName?.getD "").toList
  Text.occurs ['t', 'e', 's', 't'] (Text.lowercase name)

/-- The component that a file founds: its directory, if that is below the root. -/
def founds? (root file : Path) : Option Path :=
  let relative := (root.relativeTo file).text.toList
  if relative.contains '/' ∧ Classification.kind relative = .implementation then
    file.parent?.filter fun directory => !speaksOfTests directory
  else none

/-- The directories of all components, in order. -/
def components (root : Path) (files : List Path) : List Path :=
  inOrder (files.filterMap (founds? root))

end Discovery

end CostGate
