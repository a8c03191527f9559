import CostGate.Document.Toml.Number
import CostGate.Document.Toml.Table

/-!
# Reading TOML

A reader for TOML documents: lines that are blank, give a key a value, or are the header of a
table. A byte order mark may stand in front.
-/
namespace CostGate.Document.Toml

open Document (Value)

def word? (letters : List Char) (v : Value) (s : List Char) : Option (Value × List Char) :=
  if letters.isPrefixOf s then some (v, s.drop letters.length) else none

/-- A value that is neither a list nor a table. -/
def scalar? (s : List Char) : Option (Value × List Char) :=
  match s with
  | [] => none
  | c :: _ =>
    if c = '"' ∨ c = '\'' then (string? s).map fun (cs, rest) => (.text (String.ofList cs), rest)
    else if c = 't' then word? ['t', 'r', 'u', 'e'] (.flag true) s
    else if c = 'f' then word? ['f', 'a', 'l', 's', 'e'] (.flag false) s
    else (moment? s).orElse fun _ => number? s

mutual

/-- A value in front of a text, and the rest. Each bracket takes one unit of depth. -/
def value? : Nat → Nat → List Char → Option (Value × List Char)
  | 0, _, _ => none
  | fuel + 1, depth, s => match s with
    | '[' :: rest =>
      if depth ≤ 1 then none
      else match rest with
        | ']' :: rest => some (.list [], rest)
        | rest => (items? fuel (depth - 1) rest).map fun (vs, rest) => (.list vs, rest)
    | '\x7b' :: rest =>
      if depth ≤ 1 then none
      else match skipSpace rest with
        | '\x7d' :: rest => some (.record [], rest)
        | rest => (fields? fuel (depth - 1) .defined rest).map fun (t, rest) => (t.toValue, rest)
    | s => scalar? s

/-- The items of a list up to its closing bracket; a comma may stand behind the last. -/
def items? : Nat → Nat → List Char → Option (List Value × List Char)
  | 0, _, _ => none
  | fuel + 1, depth, s => match skipBetween s with
    | ']' :: rest => some ([], rest)
    | s => do
      let (v, rest) ← value? fuel depth s
      match skipBetween rest with
      | ']' :: rest => some ([v], rest)
      | ',' :: rest =>
        let (vs, rest) ← items? fuel depth rest
        some (v :: vs, rest)
      | _ => none

/-- The fields of a table in braces, which stand on one line. -/
def fields? : Nat → Nat → Table → List Char → Option (Table × List Char)
  | 0, _, _, _ => none
  | fuel + 1, depth, t, s => do
    let (path, rest) ← key? s
    match rest with
    | '=' :: rest =>
      let (v, rest) ← value? fuel depth (skipSpace rest)
      let t ← t.assign? path v
      match skipSpace rest with
      | '\x7d' :: rest => some (t, rest)
      | ',' :: rest => fields? fuel depth t rest
      | _ => none
    | _ => none

end

/-- A key between brackets, which take up the rest of the line. -/
def header? (closing : List Char) (s : List Char) : Option (List String × List Char) := do
  let (path, rest) ← key? s
  if closing.isPrefixOf rest then
    let rest ← nextLine? (rest.drop closing.length)
    some (path, rest)
  else none

/-- The outline after one line that is not blank, and the next lines. -/
def line? (o : Outline) (s : List Char) : Option (Outline × List Char) :=
  match s with
  | '[' :: '[' :: rest => do
    let (path, rest) ← header? [']', ']'] rest
    let o ← o.openListed? path
    some (o, rest)
  | '[' :: rest => do
    let (path, rest) ← header? [']'] rest
    let o ← o.openTable? path
    some (o, rest)
  | s => do
    let (path, rest) ← key? s
    match rest with
    | '=' :: rest =>
      let (v, rest) ← value? (s.length + 1) depthLimit (skipSpace rest)
      let rest ← nextLine? rest
      let o ← o.assign? path v
      some (o, rest)
    | _ => none

def lines? : Nat → Outline → List Char → Option Outline
  | 0, _, _ => none
  | fuel + 1, o, s => match skipBetween s with
    | [] => some o
    | s => do
      let (o, rest) ← line? o s
      lines? fuel o rest

def parse? (s : List Char) : Option Value := do
  let s := match s with
    | c :: rest => if c.toNat = 0xFEFF then rest else c :: rest
    | [] => []
  let o ← lines? (s.length + 1) .start s
  let t ← o.finish?
  some t.toValue

end CostGate.Document.Toml
