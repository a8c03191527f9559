import CostGate.Project.Glob
import CostGate.Project.Tree

/-!
# Ignore files

A line of an ignore file hides the paths it matches, or keeps them when it starts with an
exclamation mark; the last line with a match decides. There are four kinds of ignore files, and
the first kind with a decision wins; within a kind, the file nearest to the path does. Where no
file decides, a name that starts with a dot is hidden.
-/
namespace CostGate

namespace Ignore

open Text (dropFront? dropBack?)

structure Rule where
  pattern : Pattern
  keeps : Bool
  directoriesOnly : Bool

structure Line where
  keeps : Bool
  directoriesOnly : Bool
  /-- The glob matches from the directory of the ignore file on. -/
  anchored : Bool
  glob : List Char

/-- A line without trailing blanks, unless the last is a space behind a backslash. -/
def trimLine (s : List Char) : List Char := if ['\\', ' '].isSuffixOf s then s else Text.trimEnd s

/-- The markers at the start of a line. A backslash takes the meaning from one. -/
def startOf (s : List Char) : Line :=
  match s with
  | '\\' :: '!' :: rest => ⟨false, false, false, '!' :: rest⟩
  | '\\' :: '#' :: rest => ⟨false, false, false, '#' :: rest⟩
  | '!' :: '/' :: rest => ⟨true, false, true, rest⟩
  | '!' :: rest => ⟨true, false, false, rest⟩
  | '/' :: rest => ⟨false, false, true, rest⟩
  | rest => ⟨false, false, false, rest⟩

/-- A slash at the end of a line, which may stand behind a backslash. -/
def endOf (l : Line) : Line :=
  match dropBack? ['/'] l.glob with
  | none => l
  | some glob => { l with directoriesOnly := true, glob := (dropBack? ['\\'] glob).getD glob }

/-- The glob of a line as seen from the directory of the ignore file. Without a slash it matches
at every depth; two stars at the end do not match the directory in front of them. -/
def globOf (l : Line) : List Char :=
  let floats := !l.anchored && !l.glob.contains '/' && l.glob != ['*', '*']
  let glob := if floats then '*' :: '*' :: '/' :: l.glob else l.glob
  if ['/', '*', '*'].isSuffixOf glob then glob ++ ['/', '*'] else glob

/-- The markers and the tokens of a line. Comments, blank lines and bad globs have none. -/
def lineTokens? (s : List Char) : Option (Line × List Glob.Token) :=
  let s' := trimLine s
  if s.head? = some '#' ∨ s'.isEmpty then none
  else
    let line := endOf (startOf s')
    (Glob.tokens? (globOf line)).map fun tokens => (line, tokens)

/-- The texts of encoded lines up to the first that encodes no text, where the file ends. -/
def decodeLines : List (List UInt8) → List (List Char)
  | [] => []
  | l :: ls => match String.fromUTF8? ⟨l.toArray⟩ with
    | some s => s.toList :: decodeLines ls
    | none => [[]]

/-- The pieces of bytes between line feeds. -/
def byteLines : List UInt8 → List (List UInt8)
  | [] => [[]]
  | b :: rest => match byteLines rest with
    | [] => [[b]]
    | l :: ls => if b = 10 then [] :: l :: ls else (b :: l) :: ls

/-- The lines of a file, a byte order mark in front of the first removed. -/
def linesOf (content : ByteArray) : List (List Char) :=
  match Text.linesOf (decodeLines (byteLines content.toList)) with
  | [] => []
  | l :: ls => l.dropWhile (·.toNat == 0xFEFF) :: ls

/-- The rules of a file. A class that joins bytes backwards makes all of them void. -/
def rulesOf (content : ByteArray) : List Rule :=
  let rules := ((linesOf content).filterMap lineTokens?).mapM fun (line, tokens) =>
    (Glob.wholePattern? tokens).map fun p => (⟨p, line.keeps, line.directoriesOnly⟩ : Rule)
  rules.getD []

/-- What an ignore file says of a path. -/
inductive Verdict where
  | hide
  | keep
  deriving Repr, DecidableEq

/-- What the last rule with a match says of a path relative to the ignore file. -/
def verdict? (rules : List Rule) (names : List String) (isDirectory : Bool) : Option Verdict :=
  let path := Glob.byteText ("/".intercalate names).toList
  let decides (r : Rule) : Bool :=
    (isDirectory || !r.directoriesOnly) && r.pattern.isMatch path
  (rules.reverse.find? decides).map fun r => if r.keeps then .keep else .hide

/-- The kinds of ignore files by their names within a directory, the strongest first. -/
def kinds : List (List String) :=
  [[".archgateignore"], [".ignore"], [".gitignore"], [".git", "info", "exclude"]]

/-- The rules of all ignore files of one kind by their directories. -/
def rulesByDirectory (t : Tree) (kind : List String) : List (Place × List Rule) :=
  t.entries.filterMap fun (place, entry) => match entry with
    | .file content =>
      let directory := place.take (place.length - kind.length)
      if place = directory ++ kind then some (directory, rulesOf content) else none
    | _ => none

/-- The directories above a place, the nearest first. -/
def above (place : Place) : List Place := (Tree.leadingTo place).reverse

/-- What the ignore files of one kind say of a place. -/
def verdictOfKind? (files : List (Place × List Rule)) (place : Place) (isDirectory : Bool) :
    Option Verdict :=
  (above place).findSome? fun directory => do
    let rules ← files.lookup directory
    verdict? rules (place.drop directory.length) isDirectory

/-- Whether a name is hidden where no ignore file decides. -/
def isHiddenName (place : Place) : Bool :=
  match place.getLast? with
  | some name => name.toList.head? = some '.'
  | none => false

/-- Whether a place may be visited once its directory is. -/
def admits (files : List (List (Place × List Rule))) (place : Place) (isDirectory : Bool) : Bool :=
  match files.findSome? fun kind => verdictOfKind? kind place isDirectory with
  | some .hide => false
  | some .keep => true
  | none => !isHiddenName place

end Ignore

end CostGate
