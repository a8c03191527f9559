import CostGate.Config.Basic
import CostGate.Text.Lines

/-!
# Include directives

A line that starts with a directive depends on another file or module. The directives of several
languages are recognised by their first words; each yields the text in which its target is
looked for. The weight of a target depends on how far away it is.
-/
namespace CostGate.Source

open Text (isBlank trimStart trim dropFront? splitOnce?)

def afterWord? (word : String) (s : List Char) : Option (List Char) := dropFront? word.toList s

/-- What follows one blank or more. -/
def afterBlanks? : List Char → Option (List Char)
  | [] => none
  | c :: rest => if isBlank c then some (trimStart rest) else none

/-- What follows one blank or more, if anything does. The last of several blanks can be what
follows them. -/
def somethingAfterBlanks? : List Char → Option (List Char)
  | [] => none
  | c :: rest => if isBlank c ∧ !rest.isEmpty then some (trimStart rest) else none

/-- One character or more at which `p` holds, behind one blank or more. If no such character
follows the blanks, the last of several blanks is taken for one. -/
def runAfterBlanks? (p : Char → Bool) : List Char → Option (List Char × List Char)
  | [] => none
  | c :: rest =>
    if isBlank c then
      let tail := trimStart rest
      let run := tail.takeWhile p
      if !run.isEmpty then some (run, tail.dropWhile p)
      else if tail.length < rest.length then some ([], tail)
      else none
    else none

/-- `#include target` and `#import target`. -/
def preprocessor? : List Char → Option (List Char)
  | '#' :: rest => do
    let rest := trimStart rest
    let tail ← (afterWord? "include" rest).or (afterWord? "import" rest)
    if tail.isEmpty then none else some (trimStart tail)
  | _ => none

/-- `import target`. -/
def import? (s : List Char) : Option (List Char) := do
  somethingAfterBlanks? (← afterWord? "import" s)

/-- `from target import`. -/
def fromImport? (s : List Char) : Option (List Char) := do
  let rest ← afterBlanks? (← afterWord? "from" s)
  let target := Text.firstWord rest
  let tail ← afterWord? "import" (← afterBlanks? (rest.drop target.length))
  if target.isEmpty ∨ tail.head?.any Text.isWordChar then none else some target

/-- What follows `pub`, its range in parentheses and blanks; the text itself without `pub`. -/
def afterVisibility? (s : List Char) : Option (List Char) :=
  match afterWord? "pub" s with
  | none => some s
  | some ('(' :: inside) => do
    let (_, rest) ← splitOnce? [')'] inside
    afterBlanks? rest
  | some rest => afterBlanks? rest

/-- `use target`, up to a semicolon or a brace. -/
def use? (s : List Char) : Option (List Char) := do
  let rest ← afterWord? "use" (← afterVisibility? s)
  (runAfterBlanks? (fun c => c != ';' && c != '\x7b') rest).map (·.1)

/-- A run up to a semicolon that no parenthesis or equals sign interrupts. -/
def runToSemicolon? (s : List Char) : Option (List Char) := do
  let (run, rest) ←
    runAfterBlanks? (fun c => c != ';' && c != '=' && c != '(' && c != ')') s
  if rest.head? = some ';' then some run else none

/-- `using target;`, also with `static` in front of the target. -/
def using? (s : List Char) : Option (List Char) := do
  let rest ← afterWord? "using" s
  let direct := runToSemicolon? rest
  match afterBlanks? rest with
  | none => none
  | some tail => ((afterWord? "static" tail).bind runToSemicolon?).or direct

/-- `require target` and its relatives, with or without a parenthesis. -/
def require? (s : List Char) : Option (List Char) := do
  let after (word : String) : Option (List Char) :=
    (afterWord? word s).filter fun rest => !rest.head?.any Text.isWordChar
  let tail ← (after "require").or ((after "require_once").or
    ((after "require_relative").or (after "include_once")))
  match trimStart tail with
  | [] => if tail.isEmpty then none else some []
  | '(' :: inside => some (if inside.isEmpty then ['('] else trimStart inside)
  | rest => some rest

/-- `extern crate target`. -/
def externCrate? (s : List Char) : Option (List Char) := do
  let rest ← afterBlanks? (← afterWord? "extern" s)
  let rest ← afterBlanks? (← afterWord? "crate" rest)
  let target := rest.takeWhile Text.isWordChar
  if target.isEmpty then none else some target

/-- The text in which the target of a directive is looked for, by the first kind of directive
that the line is. -/
def directiveText? (line : List Char) : Option (List Char) :=
  (preprocessor? line).or <| (import? line).or <| (fromImport? line).or <| (use? line).or <|
    (using? line).or <| (require? line).or (externCrate? line)

/-- What stands between the first `opening` and the next `closing` behind it. -/
def between? (opening closing : Char) (s : List Char) : Option (List Char) := do
  let (_, tail) ← splitOnce? [opening] s
  let (inside, _) ← splitOnce? [closing] tail
  some inside

/-- Without the semicolons and commas at the end. -/
def dropStops (s : List Char) : List Char :=
  (s.reverse.dropWhile fun c => c == ';' || c == ',').reverse

/-- The target of a directive: what is quoted, or else the first word. -/
def target (text : List Char) : List Char :=
  let text := trim text
  ((between? '"' '"' text).or ((between? '\'' '\'' text).or (between? '<' '>' text))).getD
    (dropStops (Text.firstWord text))

/-- The target of a line that is a directive. -/
def directiveTarget? (line : List Char) : Option (List Char) := (directiveText? line).map target

/-- Extensions that are no segment of a target. -/
def targetExtensions : List String :=
  ["h", "hh", "hpp", "hxx", "inc", "c", "cc", "cpp", "cxx", "m", "mm", "js", "jsx", "mjs", "ts",
  "tsx", "py", "rb", "php", "rs", "go"]

def stem (target : List Char) : List Char :=
  match splitOnce? ['.'] target.reverse with
  | some (extension, front) =>
    if targetExtensions.contains (String.ofList extension.reverse) then front.reverse else target
  | none => target

/-- The pieces of a text between two colons. A third colon belongs to the next piece. -/
def colonPieces (current : List Char) : List Char → List (List Char)
  | [] => [current.reverse]
  | ':' :: ':' :: rest => current.reverse :: colonPieces [] rest
  | c :: rest => colonPieces (c :: current) rest

/-- The segments of a target, separated by slashes, by doubled colons if there is no slash, and
otherwise by dots. Empty segments and dots are none. -/
def segments (target : List Char) : List (List Char) :=
  let s := stem target
  let pieces :=
    if s.contains '/' then Text.pieces (· == '/') s
    else if Text.occurs [':', ':'] s then colonPieces [] s
    else Text.pieces (· == '.') s
  pieces.filter fun p => !p.isEmpty && p != ['.'] && p != ['.', '.']

/-- Whether a target climbs out of its directory. -/
def climbs (target : List Char) : Bool :=
  ['.', '.', '/'].isPrefixOf target || Text.occurs ['/', '.', '.', '/'] target

open Number (Quantity) in
/-- The weight of a target. Climbing and being qualified exclude each other; depth adds to
either. -/
def includeWeight {α : Type} [Quantity α] (weights : IncludeWeights α) (target : List Char) : α :=
  let relative := climbs target
  let count := (segments target).length
  Number.total <|
    (if relative then [weights.relative] else []) ++ (if 3 < count then [weights.deep] else []) ++
      (if !relative ∧ 2 ≤ count then [weights.namespaced] else [])

end CostGate.Source
