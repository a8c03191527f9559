import CostGate.Text.Case
import CostGate.Text.Lines
import CostGate.Text.Categories
import CostGate.Text.Scripts

/-!
# Classes of characters by name

The classes that a pattern can refer to by name: general categories, scripts, a few binary
properties, and the classes of ASCII between colons.
-/
namespace CostGate.Pattern

open Text (Span)

/-- Whether a character lies in a table of spans. -/
def inTable (table : List Span) (c : Char) : Bool := Span.within table c.toNat

/-- A name without case, blanks, hyphens and underscores, and without a leading `is`. -/
def looseName (s : List Char) : String :=
  let letters := (s.filter fun c => !(c == ' ' || c == '-' || c == '_')).map Text.asciiLower
  String.ofList ((Text.dropFront? ['i', 's'] letters).getD letters)

/-- The groups of categories that have a long name. -/
def categoryGroups : List (String × String) :=
  [("letter", "l"), ("mark", "m"), ("number", "n"), ("punctuation", "p"), ("symbol", "s"),
  ("separator", "z"), ("combiningmark", "m"), ("punct", "p")]

/-- The class of a general category or of a group of categories. -/
def category? (name : String) : Option (Char → Bool) :=
  let name := (categoryGroups.lookup name).getD name
  match Text.categories.find? fun k => k.short == name || k.long == name with
  | some k => some (inTable k.spans)
  | none =>
    if name == "lc" || name == "casedletter" then
      some fun c => Text.categories.any fun k =>
        ["lu", "ll", "lt"].contains k.short && inTable k.spans c
    else if name == "cn" || name == "unassigned" then
      some fun c => !Text.categories.any fun k => inTable k.spans c
    else if name == "assigned" then
      some fun c => Text.categories.any fun k => inTable k.spans c
    else if name == "c" || name == "other" then
      some fun c => !Text.categories.any fun k => !k.short.startsWith "c" && inTable k.spans c
    else
      let members := Text.categories.filter fun k => (k.short.take 1).copy == name
      if members.isEmpty then none
      else some fun c => members.any fun k => inTable k.spans c

def script? (name : String) : Option (Char → Bool) := (Text.scripts.lookup name).map inTable

/-- The class of a property that characters have or lack. -/
def binaryProperty? (name : String) : Option (Char → Bool) :=
  if name == "any" then some fun _ => true
  else if name == "ascii" then some Text.isAscii
  else if name == "alphabetic" || name == "alpha" then some Text.isAlphabetic
  else if name == "uppercase" || name == "upper" then some Text.isUppercase
  else if name == "lowercase" || name == "lower" then some Text.isLowercase
  else if name == "whitespace" || name == "wspace" || name == "space" then some Text.isBlank
  else if name == "cased" then some Text.isCased
  else if name == "caseignorable" || name == "ci" then some Text.isCaseIgnorable
  else if name == "asciihexdigit" || name == "ahex" then
    some fun c => (Text.hexDigit? c).isSome
  else none

/-- The class of a name that may be a property, a category or a script. -/
def named? (name : List Char) : Option (Char → Bool) :=
  let name := looseName name
  (binaryProperty? name).or ((category? name).or (script? name))

def valued? (property value : List Char) : Option (Char → Bool) :=
  let property := looseName property
  let value := looseName value
  if property == "gc" || property == "generalcategory" then category? value
  else if property == "sc" || property == "script" then script? value
  else none

/-- The class between brackets and colons, such as `alpha`. -/
def asciiClass? (name : String) : Option (Char → Bool) :=
  let letterOrDigit (c : Char) := Text.isAsciiLetter c || Text.isAsciiDigit c
  if name == "alnum" then some letterOrDigit
  else if name == "alpha" then some Text.isAsciiLetter
  else if name == "ascii" then some Text.isAscii
  else if name == "blank" then some fun c => c == '\t' || c == ' '
  else if name == "cntrl" then some fun c => c.toNat < 32 || c.toNat == 127
  else if name == "digit" then some Text.isAsciiDigit
  else if name == "graph" then some (Text.between '!' '~')
  else if name == "lower" then some Text.isAsciiLower
  else if name == "print" then some (Text.between ' ' '~')
  else if name == "punct" then some fun c => Text.between '!' '~' c && !letterOrDigit c
  else if name == "space" then some fun c => c == ' ' || Text.between '\t' '\r' c
  else if name == "upper" then some Text.isAsciiUpper
  else if name == "word" then some fun c => letterOrDigit c || c == '_'
  else if name == "xdigit" then
    some fun c => (Text.hexDigit? c).isSome
  else none

/-- A class that no longer tells letters apart that are equal up to case. -/
def foldCase (has : Char → Bool) (c : Char) : Bool := (Text.caseVariants c).any has

/-- A class that no longer tells the two cases of an ASCII letter apart. -/
def foldAsciiCase (has : Char → Bool) (c : Char) : Bool :=
  has c || has (Text.asciiLower c) || has (Text.asciiUpper c)

end CostGate.Pattern
