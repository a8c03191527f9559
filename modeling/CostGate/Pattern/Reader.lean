import CostGate.Pattern.Basic
import CostGate.Pattern.Property

/-!
# Reading search patterns

The notation of search patterns: literals and escapes, classes between brackets with their set
operations, groups, flags, repetition and conditions. There is no way to refer back to a group or
to look around.

A reader that can fail returns nothing for a text that is no pattern. Reading also measures how
deeply the parts are nested and about how much room the pattern takes when its repetitions are
written out, because both are limited.
-/
namespace CostGate.Pattern

/-- What the flags of a group have set. -/
structure Flags where
  ignoreCase : Bool
  multiLine : Bool
  dotAll : Bool
  returnEnds : Bool
  spaced : Bool
  ascii : Bool
  deriving Repr, DecidableEq

namespace Flags

def initial : Flags := ⟨false, false, false, false, false, false⟩

/-- One flag switched on or off by its letter. -/
def set? (on : Bool) (flags : Flags) (letter : Char) : Option Flags :=
  if letter = 'i' then some { flags with ignoreCase := on }
  else if letter = 'm' then some { flags with multiLine := on }
  else if letter = 's' then some { flags with dotAll := on }
  else if letter = 'R' then some { flags with returnEnds := on }
  else if letter = 'x' then some { flags with spaced := on }
  else if letter = 'u' then some { flags with ascii := !on }
  else if letter = 'U' then some flags
  else none

def words (flags : Flags) : WordKind := if flags.ascii then .ascii else .unicode

def fold (flags : Flags) (has : Char → Bool) : Char → Bool :=
  if !flags.ignoreCase then has
  else if flags.ascii then foldAsciiCase has
  else foldCase has

/-- Whether a literal may stand for a character. Without Unicode two hexadecimal digits denote a
byte, and a single byte is a character only in ASCII. -/
def admitsByte (flags : Flags) (c : Char) : Bool := !flags.ascii || Text.isAscii c

end Flags

/-- A part of a pattern that has been read, the depth of its nesting and the room it takes. -/
structure Part where
  pattern : Pattern
  depth : Nat
  room : Nat

namespace Part

def empty : Part := ⟨.empty, 0, 0⟩

def ofClass (has : Char → Bool) (depth : Nat) (room : Nat) : Part := ⟨.one has, depth, room⟩

def condition (k : Condition) : Part := ⟨.condition k, 0, 32⟩

def sequence : List Part → Part
  | [] => empty
  | [p] => p
  | p :: ps =>
    let rest := ps.foldl (fun (acc : Part) q =>
      ⟨.sequence acc.pattern q.pattern, max acc.depth q.depth, acc.room + q.room⟩) p
    { rest with depth := rest.depth + 1 }

def choice : List Part → Part
  | [] => empty
  | [p] => p
  | p :: ps =>
    let rest := ps.foldl (fun (acc : Part) q =>
      ⟨.choice acc.pattern q.pattern, max acc.depth q.depth, acc.room + q.room + 4⟩) p
    { rest with depth := rest.depth + 1, room := rest.room + 64 }

def repeated (p : Part) (least : Nat) (most : Option Nat) : Part :=
  ⟨.repeated p.pattern least most, p.depth + 1,
    (most.getD (max least 1)) * (p.room + 8) + 32⟩

def group (p : Part) : Part := { p with depth := p.depth + 1, room := p.room + 64 }

end Part

/-- Without the blanks and the comments that separate the parts of a spaced pattern. -/
def skipSpaced : Nat → List Char → List Char
  | 0, s => s
  | _ + 1, [] => []
  | fuel + 1, c :: rest =>
    if Text.isBlank c then skipSpaced fuel rest
    else if c = '#' then skipSpaced fuel (rest.dropWhile (· != '\n'))
    else c :: rest

/-- The text at the next part of a pattern. -/
def skip (flags : Flags) (s : List Char) : List Char :=
  if flags.spaced then skipSpaced (s.length + 1) s else s

/-- The characters with a meaning of their own. -/
def isMeta (c : Char) : Bool :=
  ['\\', '.', '+', '*', '?', '(', ')', '|', '[', ']', '\x7b', '\x7d', '^', '$', '#', '&', '-',
    '~'].contains c

/-- Whether a backslash in front of a character stands for the character itself. -/
def isEscapable (c : Char) : Bool :=
  isMeta c || (Text.isAscii c && !Text.isAsciiLetter c && !Text.isAsciiDigit c &&
    c != '<' && c != '>')

/-- The character of a list of hexadecimal digits. -/
def hexChar? (ds : List Char) : Option Char := do
  let values ← ds.mapM Text.hexDigit?
  let n := values.foldl (fun n d => if n < UInt32.size then n * 16 + d else n) 0
  if ds.isEmpty then none
  else if n < 0xD800 ∨ (0xDFFF < n ∧ n < 0x110000) then some (Char.ofNat n) else none

/-- A character written by its number behind the letter `x`, `u` or `U`. -/
def hexEscape? (flags : Flags) (letter : Char) (s : List Char) : Option (Char × List Char) :=
  match skip flags s with
  | '\x7b' :: rest =>
    match Text.splitOnce? ['\x7d'] rest with
    | some (inside, rest) =>
      (hexChar? (if flags.spaced then inside.filter (!Text.isBlank ·) else inside)).map (·, rest)
    | none => none
  | s =>
    let n := if letter = 'x' then 2 else if letter = 'u' then 4 else 8
    if s.length < n then none
    else do
      let c ← hexChar? (s.take n)
      if letter = 'x' ∧ !flags.admitsByte c then none else some (c, s.drop n)

/-- What an escape or a bare character stands for. -/
inductive Item where
  | literal (c : Char)
  | «class» (has : Char → Bool) (room : Nat)
  | condition (k : Condition)

def literalRoom (c : Char) : Nat := 32 * c.utf8Size

/-- The class named behind the letter `p`. -/
def namedClass? (flags : Flags) (negated : Bool) (s : List Char) :
    Option ((Char → Bool) × List Char) :=
  let negate (flip : Bool) (has : Char → Bool) : Char → Bool := fun c => has c != flip
  match skip flags s with
  | '\x7b' :: rest => do
    let (inside, rest) ← Text.splitOnce? ['\x7d'] rest
    let (flip, name) := match inside with
      | '^' :: name => (!negated, name)
      | _ => (negated, inside)
    match Text.splitOnce? ['!', '='] name with
    | some (property, value) => do
      let has ← valued? property value
      some (negate (!flip) has, rest)
    | none =>
      match (Text.splitOnce? [':'] name).or (Text.splitOnce? ['='] name) with
      | some (property, value) => do
        let has ← valued? property value
        some (negate flip has, rest)
      | none => do
        let has ← named? name
        some (negate flip has, rest)
  | c :: rest =>
    if c = '\\' then none
    else do
      let has ← category? (looseName [c])
      some (negate negated has, rest)
  | [] => none

/-- The class of one of the letters `d`, `s`, `w` under the flags. -/
def letterClass (flags : Flags) (letter : Char) : Char → Bool :=
  if letter = 'd' then if flags.ascii then Text.isAsciiDigit else Text.isDecimalDigit
  else if letter = 's' then
    if flags.ascii then fun c => c == ' ' || Text.between '\t' '\r' c else Text.isBlank
  else flags.words.has

/-- About the room that the class of one of the letters `d`, `s`, `w` takes. -/
def letterRoom (flags : Flags) (letter : Char) : Nat :=
  if flags.ascii then 64
  else if letter = 'w' then 24000
  else if letter = 'd' then 3500 else 1200

/-- The word condition in braces behind `\b`, if there is one. A brace that a letter or a hyphen
follows must hold the name of a condition. -/
def wordCondition? (flags : Flags) (s : List Char) : Option (Condition × List Char) :=
  let plain : Option (Condition × List Char) := some (.wordEdge flags.words, s)
  let isNameChar (c : Char) := Text.isAsciiLetter c || c == '-'
  match s with
  | '\x7b' :: rest =>
    match skip flags rest with
    | [] => none
    | inside@(c :: _) =>
      if isNameChar c then
        let name := String.ofList (inside.takeWhile isNameChar)
        match skip flags (inside.dropWhile isNameChar) with
        | '\x7d' :: rest =>
          if name = "start" then some (.wordStart flags.words, rest)
          else if name = "end" then some (.wordEnd flags.words, rest)
          else if name = "start-half" then some (.noWordBefore flags.words, rest)
          else if name = "end-half" then some (.noWordAfter flags.words, rest)
          else none
        | _ => none
      else plain
  | _ => plain

/-- What the text behind a backslash stands for, and the rest. -/
def escape? (flags : Flags) : List Char → Option (Item × List Char)
  | [] => none
  | c :: rest =>
    if Text.isAsciiDigit c then none
    else if c = 'x' ∨ c = 'u' ∨ c = 'U' then
      (hexEscape? flags c rest).map fun (c, rest) => (.literal c, rest)
    else if c = 'p' ∨ c = 'P' then
      if flags.ascii then none
      else (namedClass? flags (c == 'P') rest).map fun (has, rest) => (.class has 16000, rest)
    else if c = 'd' ∨ c = 's' ∨ c = 'w' then
      some (.class (letterClass flags c) (letterRoom flags c), rest)
    else if c = 'D' ∨ c = 'S' ∨ c = 'W' then
      if flags.ascii then none
      else
        let has := letterClass flags (Text.asciiLower c)
        some (.class (fun c => !has c) (letterRoom flags (Text.asciiLower c)), rest)
    else if isEscapable c then some (.literal c, rest)
    else if c = 'a' then some (.literal '\x07', rest)
    else if c = 'f' then some (.literal '\x0c', rest)
    else if c = 't' then some (.literal '\t', rest)
    else if c = 'n' then some (.literal '\n', rest)
    else if c = 'r' then some (.literal '\r', rest)
    else if c = 'v' then some (.literal '\x0b', rest)
    else if c = 'A' then some (.condition .textStart, rest)
    else if c = 'z' then some (.condition .textEnd, rest)
    else if c = 'b' then
      (wordCondition? flags rest).map fun (k, rest) => (.condition k, rest)
    else if c = 'B' then some (.condition (.noWordEdge flags.words), rest)
    else if c = '<' then some (.condition (.wordStart flags.words), rest)
    else if c = '>' then some (.condition (.wordEnd flags.words), rest)
    else none

/-- A class that is being read: the union of its items so far. -/
structure Union where
  has : Char → Bool
  count : Nat
  depth : Nat
  room : Nat

namespace Union

def none : Union := ⟨fun _ => false, 0, 0, 0⟩

def add (u : Union) (has : Char → Bool) (depth room : Nat) : Union :=
  ⟨fun c => u.has c || has c, u.count + 1, max u.depth depth, u.room + room⟩

/-- The depth of the union as an item of its own. -/
def height (u : Union) : Nat := if u.count ≤ 1 then u.depth else u.depth + 1

end Union

/-- The operations between the unions of a class. -/
inductive SetOperation where
  | intersection
  | difference
  | symmetricDifference
  deriving Repr, DecidableEq

/-- The result of an operation on two classes. -/
def SetOperation.apply (op : SetOperation) (left right : Char → Bool) : Char → Bool :=
  match op with
  | intersection => fun c => left c && right c
  | difference => fun c => left c && !right c
  | symmetricDifference => fun c => left c != right c

/-- A class of ASCII between colons, behind its opening bracket. -/
def colonClass? (s : List Char) : Option ((Char → Bool) × List Char) :=
  match s with
  | ':' :: rest =>
    let (negated, rest) := match rest with
      | '^' :: rest => (true, rest)
      | _ => (false, rest)
    match Text.splitOnce? [':'] rest with
    | some (name, ']' :: rest) =>
      (asciiClass? (String.ofList name)).map fun has => ((fun c => has c != negated), rest)
    | _ => none
  | _ => none

/-- One item of a class: a character or a named class. -/
def classItem? (flags : Flags) : List Char → Option (Item × List Char)
  | [] => none
  | '\\' :: rest => escape? flags rest
  | c :: rest => some (.literal c, rest)

/-- An item of a class or a range of characters. -/
def classRange? (flags : Flags) (u : Union) (s : List Char) : Option (Union × List Char) := do
  let (first, rest) ← classItem? flags s
  let rest := skip flags rest
  let single : Option (Union × List Char) :=
    match first with
    | .literal c =>
      if flags.admitsByte c then some (u.add (· == c) 0 (literalRoom c), rest) else none
    | .class has room => some (u.add has 0 room, rest)
    | .condition _ => none
  match rest with
  | [] => none
  | '-' :: behind =>
    let next := skip flags behind
    if next.head? = some ']' ∨ next.head? = some '-' then single
    else if next.isEmpty then none
    else do
      let (second, rest) ← classItem? flags next
      match first, second with
      | .literal lo, .literal hi =>
        if lo ≤ hi ∧ flags.admitsByte hi then
          let room := if Text.isAscii hi then 32 else 512
          some (u.add (Text.between lo hi) 0 room, rest)
        else none
      | _, _ => none
  | _ => single

/-- The hyphens in front of a class stand for themselves, and so does a bracket without any. -/
def classFront? (flags : Flags) : Nat → Union → List Char → Option (Union × List Char)
  | 0, _, _ => none
  | fuel + 1, u, s => match s with
    | [] => none
    | '-' :: rest => classFront? flags fuel (u.add (· == '-') 0 32) (skip flags rest)
    | ']' :: rest =>
      if u.count = 0 then
        let rest := skip flags rest
        if rest.isEmpty then none else some (u.add (· == ']') 0 32, rest)
      else some (u, s)
    | _ => some (u, s)

/-- A character outside of ASCII. Classes without Unicode do not tell such characters apart. -/
def beyondAscii : Char := Char.ofNat 128

mutual

/-- A class behind its opening bracket, up to its closing one. Without Unicode it may not leave
ASCII. -/
def bracketed? (flags : Flags) : Nat → List Char → Option (Union × List Char)
  | 0, _ => none
  | fuel + 1, s => do
    let s := skip flags s
    let (negated, s) := match s with
      | '^' :: rest => (true, skip flags rest)
      | _ => (false, s)
    let (front, s) ← classFront? flags (s.length + 1) Union.none s
    let (u, rest) ← classBody? flags fuel none front s
    let folded := flags.fold u.has
    let has (c : Char) : Bool := folded c != negated
    if flags.ascii ∧ has beyondAscii then none
    else
      let room := if negated then max u.room 512 else u.room
      some (⟨has, 1, u.height + 1, room⟩, rest)

/-- The items and operations of a class. `pending` is what stands before the last operation. -/
def classBody? (flags : Flags) :
    Nat → Option (SetOperation × Union) → Union → List Char → Option (Union × List Char)
  | 0, _, _, _ => none
  | fuel + 1, pending, u, s =>
    let closed : Union := match pending with
      | some (op, left) =>
        ⟨op.apply (flags.fold left.has) (flags.fold u.has), 1, max left.depth u.height + 1,
          left.room + u.room⟩
      | none => u
    let operate (op : SetOperation) (rest : List Char) : Option (Union × List Char) :=
      let left : Union := match pending with
        | some _ => closed
        | none => ⟨u.has, 1, u.height, u.room⟩
      classBody? flags fuel (some (op, left)) Union.none rest
    match skip flags s with
    | [] => none
    | '[' :: rest =>
      match colonClass? rest with
      | some (has, rest) => classBody? flags fuel pending (u.add has 0 64) rest
      | none => do
        let (inner, rest) ← bracketed? flags fuel rest
        classBody? flags fuel pending (u.add inner.has inner.depth inner.room) rest
    | ']' :: rest => some (closed, rest)
    | '&' :: '&' :: rest => operate .intersection rest
    | '-' :: '-' :: rest => operate .difference rest
    | '~' :: '~' :: rest => operate .symmetricDifference rest
    | s => do
      let (u, rest) ← classRange? flags u s
      classBody? flags fuel pending u rest

end

/-- The flags between `(?` and `:` or `)`, with the character that ends them. Each flag may be
named once, one hyphen switches the following ones off, and it may not be the last. -/
def readFlags? (seen : List Char) (on : Bool) (flags : Flags) :
    List Char → Option (Flags × Bool × Char × List Char)
  | [] => none
  | c :: rest =>
    if c = ':' ∨ c = ')' then
      if seen.head? = some '-' then none else some (flags, seen.isEmpty, c, rest)
    else if seen.contains c then none
    else if c = '-' then readFlags? (c :: seen) false flags rest
    else do
      let flags ← flags.set? on c
      readFlags? (c :: seen) on flags rest

/-- The name of a group up to its closing angle bracket. -/
def groupName? (s : List Char) : Option (List Char × List Char) :=
  let isFirst (c : Char) := c == '_' || Text.isAlphabetic c
  let isOther (c : Char) :=
    c == '_' || c == '.' || c == '[' || c == ']' || Text.isAlphanumeric c
  match Text.splitOnce? ['>'] s with
  | some (c :: name, rest) =>
    if isFirst c && name.all isOther then some (c :: name, rest) else none
  | _ => none

/-- A count in a repetition, which blanks may surround. -/
def count? (s : List Char) : Option (Option Nat × List Char) :=
  let s := Text.trimStart s
  let ds := s.takeWhile Text.isAsciiDigit
  let n := ds.foldl (fun n d => n * 10 + Text.digitValue d) 0
  let rest := Text.trimStart (s.dropWhile Text.isAsciiDigit)
  if ds.isEmpty then some (none, rest)
  else if n < UInt32.size then some (some n, rest)
  else none

/-- The bounds of a counted repetition behind its opening brace. -/
def bounds? (flags : Flags) (s : List Char) : Option (Nat × Option Nat × List Char) := do
  let s := skip flags s
  let (least, s) ← count? s
  let least ← least
  match s with
  | '\x7d' :: rest => some (least, some least, rest)
  | ',' :: rest =>
    match skip flags rest with
    | '\x7d' :: rest => some (least, none, rest)
    | rest => do
      let (most, rest) ← count? rest
      let most ← most
      match rest with
      | '\x7d' :: rest => if least ≤ most then some (least, some most, rest) else none
      | _ => none
  | _ => none

/-- Without the mark that makes a repetition reluctant; it makes no difference to what matches. -/
def skipReluctant : List Char → List Char
  | '?' :: rest => rest
  | s => s

/-- The part of a single character or condition. A dot without Unicode would match parts of
characters and is refused. -/
def itemPart (flags : Flags) : Item → Part
  | .literal c => Part.ofClass (flags.fold (· == c)) 0 (literalRoom c)
  | .class has room => Part.ofClass (flags.fold has) 0 room
  | .condition k => Part.condition k

def dotPart (flags : Flags) : Part :=
  Part.ofClass (fun c => flags.dotAll || (c != '\n' && !(flags.returnEnds && c == '\r'))) 0 512

def startCondition (flags : Flags) : Condition :=
  if !flags.multiLine then .textStart
  else if flags.returnEnds then .returnLineStart else .lineStart

def endCondition (flags : Flags) : Condition :=
  if !flags.multiLine then .textEnd
  else if flags.returnEnds then .returnLineEnd else .lineEnd

/-- The choice among the finished sequences and the one being read, all in reverse order. A flag
setting is an absent part. -/
def finish (choices : List Part) (parts : List (Option Part)) : Part :=
  Part.choice ((Part.sequence (parts.reverse.filterMap id) :: choices).reverse)

/-- A pattern up to the end of the text or to a closing parenthesis. The names of the groups read
so far are passed along, because they must differ. -/
def parts? : Nat → Flags → List (List Char) → List Part → List (Option Part) → List Char →
    Option (Part × List (List Char) × List Char)
  | 0, _, _, _, _, _ => none
  | fuel + 1, flags, names, choices, parts, s =>
    let repeatLast (least : Nat) (most : Option Nat) (rest : List Char) :=
      match parts with
      | some p :: parts =>
        parts? fuel flags names choices (some (p.repeated least most) :: parts)
          (skipReluctant rest)
      | _ => none
    let continueWith (p : Part) (rest : List Char) :=
      parts? fuel flags names choices (some p :: parts) rest
    match skip flags s with
    | [] => some (finish choices parts, names, [])
    | ')' :: rest => some (finish choices parts, names, ')' :: rest)
    | '|' :: rest =>
      parts? fuel flags names (Part.sequence (parts.reverse.filterMap id) :: choices) [] rest
    | '*' :: rest => repeatLast 0 none rest
    | '+' :: rest => repeatLast 1 none rest
    | '?' :: rest => repeatLast 0 (some 1) rest
    | '\x7b' :: rest =>
      match parts with
      | some _ :: _ => do
        let (least, most, rest) ← bounds? flags rest
        repeatLast least most rest
      | _ => none
    | '(' :: rest =>
      let close (names : List (List Char)) (inner : Flags) (rest : List Char) := do
        let (p, names, rest) ← parts? fuel inner names [] [] rest
        match rest with
        | ')' :: rest => parts? fuel flags names choices (some p.group :: parts) rest
        | _ => none
      match skip flags rest with
      | '?' :: rest =>
        let nameText := match rest with
          | 'P' :: '<' :: name => some name
          | '<' :: name => some name
          | _ => none
        match nameText with
        | some ('=' :: _) => none
        | some ('!' :: _) => none
        | some text => do
          let (name, rest) ← groupName? text
          if names.contains name then none else close (name :: names) flags rest
        | none => do
          let (inner, isBare, stop, rest) ← readFlags? [] true flags rest
          if stop = ')' then
            if isBare then none
            else parts? fuel inner names choices (none :: parts) rest
          else close names inner rest
      | rest => close names flags rest
    | '[' :: rest => do
      let (u, rest) ← bracketed? flags (rest.length + 1) rest
      continueWith (Part.ofClass u.has u.depth u.room) rest
    | '.' :: rest => if flags.ascii then none else continueWith (dotPart flags) rest
    | '^' :: rest => continueWith (Part.condition (startCondition flags)) rest
    | '$' :: rest => continueWith (Part.condition (endCondition flags)) rest
    | '\\' :: rest => do
      let (item, rest) ← escape? flags rest
      continueWith (itemPart flags item) rest
    | c :: rest => continueWith (itemPart flags (.literal c)) rest

/-- How deeply the parts of a pattern may be nested. -/
def depthLimit : Nat := 250

/-- How much room a pattern may take. -/
def roomLimit : Nat := 10 * 1024 * 1024

/-- The pattern that a text denotes, if it denotes one within the limits. -/
def parse? (s : String) : Option Pattern := do
  let s := s.toList
  let (p, _, rest) ← parts? (2 * s.length + 2) Flags.initial [] [] [] s
  if rest.isEmpty ∧ p.depth ≤ depthLimit ∧ p.room ≤ roomLimit then some p.pattern else none

end CostGate.Pattern
