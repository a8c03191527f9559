import CostGate.Config.Basic

/-!
# Exclusion patterns

Which paths below the project root are left out. A pattern is a path with wildcards, compared with
a path between slashes:

* a name between double stars and slashes matches every path through a directory of that name;
* one double star matches any text between a beginning and an end, where the end may hold one
  more star;
* one star stands for any text between a beginning and an end;
* without a star the pattern is the beginning of the path.
-/
namespace CostGate

namespace Exclusion

open Text (dropFront? dropBack? splitOnce?)

/-- A text without all its leading copies of `front`, which is not empty. -/
def trimFront (front : List Char) : Nat → List Char → List Char
  | 0, s => s
  | fuel + 1, s => match dropFront? front s with
    | some tail => trimFront front fuel tail
    | none => s

/-- A text without all its trailing copies of `back`, which is not empty. -/
def trimBack (back s : List Char) : List Char :=
  (trimFront back.reverse s.length s.reverse).reverse

/-- The wildcard for any text, across directories. -/
def doubleStar : List Char := ['*', '*']

/-- The name between a double star with a slash in front and one behind. -/
def directoryName? (pattern : List Char) : Option (List Char) :=
  let front := ['*', '*', '/']
  let back := ['/', '*', '*']
  if front.isPrefixOf pattern ∧ back.isSuffixOf pattern then
    some (trimBack back (trimFront front pattern.length pattern))
  else none

/-- Whether a path leads through a directory. -/
def leadsThrough (directory path : List Char) : Bool :=
  Text.occurs ('/' :: directory ++ ['/']) path || (directory ++ ['/']).isPrefixOf path

/-- The texts around the only double star of a pattern, without the slashes next to it. -/
def aroundDoubleStar? (pattern : List Char) : Option (List Char × List Char) := do
  let (front, back) ← splitOnce? doubleStar pattern
  if Text.occurs doubleStar back then none
  else some (trimBack ['/'] front, trimFront ['/'] back.length back)

/-- Whether a path ends as a pattern does behind its double star. Behind a further star only the
end has to agree, and what stands in front of it has to occur. -/
def endsLike (back path : List Char) : Bool :=
  match splitOnce? ['*'] back with
  | some (before, after) => after.isSuffixOf path && (before.isEmpty || Text.occurs before path)
  | none => back.isEmpty || back.isSuffixOf path

/-- The texts around the only star of a pattern. -/
def aroundStar? (pattern : List Char) : Option (List Char × List Char) := do
  let (front, back) ← splitOnce? ['*'] pattern
  if back.contains '*' then none else some (front, back)

def globMatches (pattern path : List Char) : Bool :=
  match directoryName? pattern with
  | some directory => leadsThrough directory path
  | none => match aroundDoubleStar? pattern with
    | some (front, back) => front.isPrefixOf path && endsLike back path
    | none => match aroundStar? pattern with
      | some (front, back) => front.isPrefixOf path && back.isSuffixOf path
      | none => pattern.isPrefixOf path

/-- What is left out unless a configuration says otherwise: vendored code and build output. -/
def defaults : List String :=
  ["**/vendor/**", "**/node_modules/**", "**/third_party/**", "**/third-party/**",
  "**/build/**", "**/dist/**", "**/target/**", "**/*.min.js"]

/-- A list with one more text, unless it has it already. -/
def addNew (texts : List String) (t : String) : List String :=
  if texts.contains t then texts else texts ++ [t]

/-- The patterns in force: the defaults and then the configured ones, each once. -/
def patterns (e : Exclusion) : List String :=
  e.paths.foldl addNew (if e.skipDefaults then [] else defaults)

/-- Whether a path between slashes is left out. -/
def excludes (e : Exclusion) (path : String) : Bool :=
  e.patterns.any fun p => globMatches p.toList path.toList

end Exclusion

end CostGate
