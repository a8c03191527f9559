import CostGate.Text.Lines

/-!
# Paths

A path is a list of parts between slashes. Empty parts are dropped, and so is a dot that does not
start the path, so two spellings of one place that differ in these are one path. Paths are ordered
part by part.
-/
namespace CostGate

inductive Path.Part where
  /-- The slash in front of an absolute path. -/
  | root
  /-- A leading dot. -/
  | here
  /-- Two dots. -/
  | up
  | name (s : String)
  deriving Repr, DecidableEq

structure Path where
  parts : List Path.Part
  deriving Repr, DecidableEq

namespace Path

namespace Part

def text : Part → String
  | root => "/"
  | here => "."
  | up => ".."
  | name s => s

/-- The kinds of parts in the order of paths. -/
def rank : Part → Nat
  | root => 0
  | here => 1
  | up => 2
  | name _ => 3

/-- Names are ordered by their characters and come last. -/
def before (a b : Part) : Bool :=
  match a, b with
  | name s, name t => s < t
  | a, b => a.rank < b.rank

/-- The part of a text between slashes; the empty text and the dot have none. -/
def ofText? (s : List Char) : Option Part :=
  match s with
  | [] => none
  | ['.'] => none
  | ['.', '.'] => some up
  | s => some (name (String.ofList s))

end Part

/-- The parts of the texts between slashes. -/
def partsOf (texts : List (List Char)) : List Part := texts.filterMap Part.ofText?

def ofChars (s : List Char) : Path :=
  match Text.pieces (· == '/') s with
  | [] => ⟨[]⟩
  | [] :: texts => if texts.isEmpty then ⟨[]⟩ else ⟨.root :: partsOf texts⟩
  | ['.'] :: texts => ⟨.here :: partsOf texts⟩
  | texts => ⟨partsOf texts⟩

def ofString (s : String) : Path := ofChars s.toList

def ofNames (names : List String) : Path := ⟨names.map .name⟩

/-- The parts with a slash between neighbours. -/
def text (p : Path) : String := "/".intercalate (p.parts.map Part.text)

def append (p : Path) (names : List String) : Path := ⟨p.parts ++ names.map .name⟩

/-- What follows the parts `front` in a list of parts that starts with them. -/
def dropParts? : List Part → List Part → Option (List Part)
  | [], parts => some parts
  | _ :: _, [] => none
  | a :: front, b :: parts => if a = b then dropParts? front parts else none

theorem dropParts?_append (front parts : List Part) :
    dropParts? front (front ++ parts) = some parts := by
  induction front with
  | nil => rfl
  | cons a front ih => simp [dropParts?, ih]

/-- A path as seen from a directory; a path outside of it is left as it is. -/
def relativeTo (directory p : Path) : Path := ⟨(dropParts? directory.parts p.parts).getD p.parts⟩

theorem relativeTo_append (p : Path) (names : List String) :
    relativeTo p (p.append names) = ofNames names := by
  simp [relativeTo, append, ofNames, dropParts?_append]

/-- The name at the end of a path, unless it ends otherwise. -/
def fileName? (p : Path) : Option String :=
  match p.parts.getLast? with
  | some (.name s) => some s
  | _ => none

/-- What follows the last dot of a name that does not start there. -/
def extensionOf? (name : List Char) : Option (List Char) :=
  let tail := name.reverse.takeWhile (· ≠ '.')
  match name.reverse.drop tail.length with
  | _dot :: _ :: _ => some tail.reverse
  | _ => none

/-- The extension of the name at the end of a path. -/
def extension? (p : Path) : Option String :=
  p.fileName?.bind fun name => (extensionOf? name.toList).map String.ofList

/-- The path without its last part; the root directory has none to leave out. -/
def parent? (p : Path) : Option Path :=
  match p.parts.getLast? with
  | none => none
  | some .root => none
  | some _ => some ⟨p.parts.dropLast⟩

theorem length_parent? {p q : Path} (h : p.parent? = some q) :
    q.parts.length < p.parts.length := by
  unfold parent? at h
  by_cases hne : p.parts = []
  · simp [hne] at h
  have : 0 < p.parts.length := List.length_pos_iff.2 hne
  split at h
  · simp at h
  · simp at h
  · simp only [Option.some.injEq] at h
    subst h
    simp
    omega

/-- The directories that lead to a path, the nearest first. -/
def ancestors (p : Path) : List Path :=
  match _h : p.parent? with
  | none => []
  | some q => q :: ancestors q
termination_by p.parts.length
decreasing_by exact length_parent? _h

/-- Whether one path comes before another. -/
def partsBefore : List Part → List Part → Bool
  | [], [] => false
  | [], _ :: _ => true
  | _ :: _, [] => false
  | a :: as, b :: bs => a.before b || (!b.before a && partsBefore as bs)

def before (p q : Path) : Bool := partsBefore p.parts q.parts

/-- The text of a place within a directory whose own text is given. -/
def join (directory name : String) : String :=
  if directory.isEmpty ∨ directory.toList.getLast? = some '/' then directory ++ name
  else directory ++ "/" ++ name

end Path

end CostGate
