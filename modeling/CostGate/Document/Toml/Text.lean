import CostGate.Text.Classes

/-!
# Blanks, strings and keys of TOML

The lexical elements of TOML. Every reader returns what it has read together with the rest of the
text.
-/
namespace CostGate.Document.Toml

/-- A character that may stand in comments and literal strings: no control character apart from
the tab. -/
def isPlain (c : Char) : Bool := c == '\t' || (' ' ≤ c && c != '\x7f')

def isSpace (c : Char) : Bool := c == ' ' || c == '\t'

def skipSpace (s : List Char) : List Char := s.dropWhile isSpace

def newline? (s : List Char) : Option (List Char) :=
  match s with
  | '\n' :: rest => some rest
  | '\r' :: '\n' :: rest => some rest
  | _ => none

def skipComment (s : List Char) : List Char :=
  match s with
  | '#' :: rest => rest.dropWhile isPlain
  | s => s

/-- The next line, if nothing but blanks and a comment are left of this one. -/
def nextLine? (s : List Char) : Option (List Char) :=
  match skipComment (skipSpace s) with
  | [] => some []
  | s => newline? s

/-- The text without blanks, line ends and comments in front. -/
def skipLines : Nat → List Char → List Char
  | 0, s => s
  | fuel + 1, s =>
    let s := skipComment (skipSpace s)
    match newline? s with
    | some rest => skipLines fuel rest
    | none => s

/-- Blanks, line ends and comments between the items of a list. -/
def skipBetween (s : List Char) : List Char := skipLines (s.length + 1) s

def hexDigits? : Nat → Nat → List Char → Option (Nat × List Char)
  | 0, n, rest => some (n, rest)
  | count + 1, n, s => match s with
    | [] => none
    | c :: rest => do
      let d ← Text.hexDigit? c
      hexDigits? count (16 * n + d) rest

/-- The character of a number, if it is one. -/
def charOf? (n : Nat) : Option Char := if n.isValidChar then some (Char.ofNat n) else none

/-- The character of an escape behind its backslash. -/
def escape? (s : List Char) : Option (Char × List Char) :=
  let coded (count : Nat) (rest : List Char) : Option (Char × List Char) := do
    let (n, rest) ← hexDigits? count 0 rest
    let c ← charOf? n
    some (c, rest)
  match s with
  | 'b' :: rest => some ('\x08', rest)
  | 't' :: rest => some ('\t', rest)
  | 'n' :: rest => some ('\n', rest)
  | 'f' :: rest => some ('\x0c', rest)
  | 'r' :: rest => some ('\r', rest)
  | '"' :: rest => some ('"', rest)
  | '\\' :: rest => some ('\\', rest)
  | 'u' :: rest => coded 4 rest
  | 'U' :: rest => coded 8 rest
  | _ => none

/-- A string on one line up to its closing quote. -/
def basicString? : Nat → List Char → Option (List Char × List Char)
  | 0, _ => none
  | fuel + 1, s => match s with
    | '"' :: rest => some ([], rest)
    | '\\' :: rest => do
      let (c, rest) ← escape? rest
      let (cs, rest) ← basicString? fuel rest
      some (c :: cs, rest)
    | c :: rest =>
      if isPlain c then (basicString? fuel rest).map fun (cs, rest) => (c :: cs, rest) else none
    | [] => none

/-- A string on one line without escapes up to its closing apostrophe. -/
def literalString? (s : List Char) : Option (List Char × List Char) :=
  match s.dropWhile fun c => isPlain c && c != '\'' with
  | '\'' :: rest => some (s.takeWhile fun c => isPlain c && c != '\'', rest)
  | _ => none

/-- The text without blanks and line ends in front. -/
def skipBlankLines : Nat → List Char → List Char
  | 0, s => s
  | fuel + 1, s =>
    let s := skipSpace s
    match newline? s with
    | some rest => skipBlankLines fuel rest
    | none => s

/-- What follows the line end behind a backslash and blanks, and all blanks on the next lines. -/
def continuation? (s : List Char) : Option (List Char) :=
  (newline? (skipSpace s)).map fun rest => skipBlankLines (rest.length + 1) rest

/-- The quotes at the end of a string over several lines: three that close it and up to two that
belong to it. -/
def closing? (quote : Char) (s : List Char) : Option (List Char × List Char) :=
  let count := (s.takeWhile (· == quote)).length
  if count < 3 then none
  else
    let own := min (count - 3) 2
    some (List.replicate own quote, s.drop (own + 3))

/-- A string over several lines. A line end becomes a line feed; a quote that does not close the
string belongs to it. -/
def longString? (quote : Char) : Nat → List Char → Option (List Char × List Char)
  | 0, _ => none
  | fuel + 1, s =>
    let next (c : Char) (rest : List Char) : Option (List Char × List Char) :=
      (longString? quote fuel rest).map fun (cs, rest) => (c :: cs, rest)
    match closing? quote s with
    | some result => some result
    | none => match newline? s with
      | some rest => next '\n' rest
      | none => match s with
        | [] => none
        | c :: rest =>
          if c = '\\' ∧ quote = '"' then
            match continuation? rest with
            | some rest => longString? quote fuel rest
            | none => (escape? rest).bind fun (c, rest) => next c rest
          else if isPlain c then next c rest
          else none

/-- A line end right behind the opening quotes does not count. -/
def skipNewline (s : List Char) : List Char := (newline? s).getD s

def string? (s : List Char) : Option (List Char × List Char) :=
  match s with
  | '"' :: '"' :: '"' :: rest => longString? '"' (rest.length + 1) (skipNewline rest)
  | '\'' :: '\'' :: '\'' :: rest => longString? '\'' (rest.length + 1) (skipNewline rest)
  | '"' :: rest => basicString? (rest.length + 1) rest
  | '\'' :: rest => literalString? rest
  | _ => none

def isBare (c : Char) : Bool :=
  Text.isAsciiLetter c || Text.isAsciiDigit c || c == '-' || c == '_'

def simpleKey? (s : List Char) : Option (String × List Char) :=
  match s with
  | '"' :: rest =>
    (basicString? (rest.length + 1) rest).map fun (k, rest) => (String.ofList k, rest)
  | '\'' :: rest => (literalString? rest).map fun (k, rest) => (String.ofList k, rest)
  | s =>
    let key := s.takeWhile isBare
    if key.isEmpty then none else some (String.ofList key, s.drop key.length)

/-- The parts of a key between dots, with blanks around them. -/
def keyParts? : Nat → List Char → Option (List String × List Char)
  | 0, _ => none
  | fuel + 1, s => do
    let (part, rest) ← simpleKey? (skipSpace s)
    match skipSpace rest with
    | '.' :: more =>
      let (parts, rest) ← keyParts? fuel more
      some (part :: parts, rest)
    | rest => some ([part], rest)

/-- The depth to which keys, lists and tables may go. -/
def depthLimit : Nat := 80

def key? (s : List Char) : Option (List String × List Char) := do
  let (parts, rest) ← keyParts? (s.length + 1) s
  if parts.length < depthLimit then some (parts, rest) else none

end CostGate.Document.Toml
