import CostGate.Text.Lines

/-!
# File trees

A value that holds all directories and files a run can see. A place is a list of names from the
top of the tree down. A text names a place from a working directory on; every step of it needs a
directory to start from.
-/
namespace CostGate

/-- What stands at a place. -/
inductive Entry where
  | directory
  | file (content : ByteArray)
  /-- A file that may not be read. -/
  | locked

/-- Names from the top of a tree down. -/
abbrev Place := List String

structure Tree where
  entries : List (Place × Entry)

/-- Why nothing can be read at a place. -/
inductive AccessError where
  | missing
  | denied
  | notDirectory
  | isDirectory
  deriving Repr, DecidableEq

def AccessError.message : AccessError → String
  | missing => "No such file or directory (os error 2)"
  | denied => "Permission denied (os error 13)"
  | notDirectory => "Not a directory (os error 20)"
  | isDirectory => "Is a directory (os error 21)"

namespace Tree

def empty : Tree := ⟨[]⟩

/-- The entry at a place; the top is a directory. -/
def get? (t : Tree) (p : Place) : Option Entry :=
  if p = [] then some .directory else t.entries.lookup p

/-- The tree with an entry put at a place. -/
def set (t : Tree) (p : Place) (e : Entry) : Tree := ⟨(p, e) :: t.entries.filter (·.1 != p)⟩

theorem get?_set_self {t : Tree} {p : Place} {e : Entry} (h : p ≠ []) :
    (t.set p e).get? p = some e := by
  simp [get?, set, h]

theorem lookup_filter_ne {entries : List (Place × Entry)} {p q : Place} (h : q ≠ p) :
    (entries.filter (·.1 != p)).lookup q = entries.lookup q := by
  induction entries with
  | nil => rfl
  | cons entry rest ih =>
    obtain ⟨r, e⟩ := entry
    by_cases hr : r = p
    · subst hr
      have hq : (q == r) = false := by simpa using h
      simp [List.lookup_cons, hq, ih]
    · by_cases hq : q = r
      · subst hq
        simp [hr]
      · have hq' : (q == r) = false := by simpa using hq
        simp [List.lookup_cons, hr, hq', ih]

theorem get?_set_of_ne {t : Tree} {p q : Place} {e : Entry} (h : q ≠ p) :
    (t.set p e).get? q = t.get? q := by
  by_cases hq : q = []
  · simp [get?, hq]
  · have hqp : (q == p) = false := by simpa using h
    simp [get?, set, hq, List.lookup_cons, hqp, lookup_filter_ne h]

/-- The places that lead to a place, from the top on, without the place itself. -/
def leadingTo (p : Place) : List Place := (List.range p.length).map p.take

/-- The tree with a directory at a place where nothing stands. -/
def ensureDirectory (t : Tree) (p : Place) : Tree :=
  if (t.get? p).isSome then t else t.set p .directory

/-- The tree with all directories up to a place. -/
def ensureDirectories (t : Tree) (p : Place) : Tree :=
  (leadingTo p ++ [p]).foldl ensureDirectory t

/-- The tree with a file at a place, and the directories that lead there. -/
def write (t : Tree) (p : Place) (content : ByteArray) : Tree :=
  ((leadingTo p).foldl ensureDirectory t).set p (.file content)

/-- The tree without a place and all that is below it. -/
def remove (t : Tree) (p : Place) : Tree := ⟨t.entries.filter fun e => !p.isPrefixOf e.1⟩

/-- One step from a directory by the text between two slashes. -/
def step (p : Place) (piece : List Char) : Place :=
  match piece with
  | [] => p
  | ['.'] => p
  | ['.', '.'] => p.dropLast
  | name => p ++ [String.ofList name]

/-- The place that is reached by several steps, each from a directory. -/
def walk (t : Tree) (p : Place) : List (List Char) → Except AccessError Place
  | [] => .ok p
  | piece :: rest => match t.get? p with
    | some .directory => walk t (step p piece) rest
    | some _ => .error .notDirectory
    | none => .error .missing

/-- The place that a text names from a working directory on. -/
def locate (t : Tree) (workingDirectory : Place) (text : String) : Except AccessError Place :=
  match Text.pieces (· == '/') text.toList with
  | [[]] => .error .missing
  | [] :: rest => walk t [] rest
  | pieces => walk t workingDirectory pieces

def find (t : Tree) (workingDirectory : Place) (text : String) : Except AccessError Entry := do
  let p ← t.locate workingDirectory text
  match t.get? p with
  | some e => .ok e
  | none => .error .missing

def isDirectory (t : Tree) (workingDirectory : Place) (text : String) : Bool :=
  match t.find workingDirectory text with
  | .ok .directory => true
  | _ => false

def isFile (t : Tree) (workingDirectory : Place) (text : String) : Bool :=
  match t.find workingDirectory text with
  | .ok (.file _) => true
  | .ok .locked => true
  | _ => false

/-- The content of the file that a text names. -/
def read (t : Tree) (workingDirectory : Place) (text : String) : Except AccessError ByteArray := do
  match ← t.find workingDirectory text with
  | .file content => .ok content
  | .locked => .error .denied
  | .directory => .error .isDirectory

/-- A text without the slashes at its end, unless it consists of them. -/
def withoutSlashes (text : String) : String :=
  match text.toList.reverse.dropWhile (· == '/') with
  | [] => text
  | name => String.ofList name.reverse

/-- The tree with a file where a text names it. Its directory has to exist. A text that ends with
a slash can only name a directory. -/
def store (t : Tree) (workingDirectory : Place) (text : String) (content : ByteArray) :
    Except AccessError Tree := do
  let name := withoutSlashes text
  let p ← t.locate workingDirectory name
  match t.get? p with
  | some .directory => .error .isDirectory
  | some .locked => if name = text then .error .denied else .error .isDirectory
  | _ => if name = text then .ok (t.set p (.file content)) else .error .isDirectory

/-- The content of the file at a place, if it can be read. -/
def content? (t : Tree) (p : Place) : Option ByteArray :=
  match t.get? p with
  | some (.file content) => some content
  | _ => none

end Tree

end CostGate
