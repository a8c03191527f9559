import CostGate.Document.Value

/-!
# Tables of TOML

A table under construction. A table is defined once: by a header, by a key with dots, or as a
value in braces. A header may still define a table that only led to others so far, and a dotted
key may extend a table that dotted keys have made.
-/
namespace CostGate.Document.Toml

open Document (Value)

mutual

/-- What a key of a table stands for. -/
inductive Item where
  | value (v : Value)
  | table (t : Table)
  /-- The tables of a list so far, the last in front. -/
  | tables (ts : List Table)

/-- A table with its fields. It is implicit until a header defines it, and dotted if keys with
dots have made it. -/
inductive Table where
  | mk (implicit dotted : Bool) (fields : List (String × Item))

end

namespace Table

def implicit : Table → Bool
  | mk implicit _ _ => implicit

def dotted : Table → Bool
  | mk _ dotted _ => dotted

def fields : Table → List (String × Item)
  | mk _ _ fields => fields

/-- A table without fields that has been defined. -/
def defined : Table := mk false false []

def withFields (t : Table) (fields : List (String × Item)) : Table := mk t.implicit t.dotted fields

def get? (t : Table) (key : String) : Option Item := t.fields.lookup key

def add (t : Table) (key : String) (item : Item) : Table := t.withFields (t.fields ++ [(key, item)])

/-- The table with another item for a field that it has. -/
def replace (t : Table) (key : String) (item : Item) : Table :=
  t.withFields (t.fields.map fun f => if f.1 = key then (key, item) else f)

def erase (t : Table) (key : String) : Table := t.withFields (t.fields.filter (·.1 != key))

/-- A change of the table at the end of a path, with a result. Missing tables on the way are
made; of a list the last table is meant. A path by dotted keys does not enter a table that has
been defined. -/
def update {β : Type} (dotted : Bool) (change : Table → Option (β × Table)) :
    List String → Table → Option (β × Table)
  | [], t => change t
  | key :: path, t => match t.get? key with
    | none => do
      let (b, u) ← update dotted change path (mk true dotted [])
      some (b, t.add key (.table u))
    | some (.value _) => none
    | some (.tables []) => none
    | some (.tables (last :: before)) => do
      let (b, u) ← update dotted change path last
      some (b, t.replace key (.tables (u :: before)))
    | some (.table u) =>
      if dotted ∧ !u.implicit then none
      else do
        let (b, u) ← update dotted change path u
        some (b, t.replace key (.table u))

/-- The last part of a path, and the parts before it. -/
def splitLast? (path : List String) : Option (List String × String) :=
  path.getLast?.map fun key => (path.dropLast, key)

/-- The table with a value for a key. Values go into a table of the same making only. -/
def assign? (t : Table) (path : List String) (v : Value) : Option Table := do
  let (path, key) ← splitLast? path
  let put (u : Table) : Option (Unit × Table) :=
    if u.dotted = path.isEmpty ∨ (u.get? key).isSome then none
    else some ((), u.add key (.value v))
  let (_, t) ← update true put path t
  some t

end Table

mutual

def Item.toValue : Item → Value
  | .value v => v
  | .table t => t.toValue
  | .tables ts => .list (tableValues ts).reverse

def Table.toValue : Table → Value
  | .mk _ _ fields => .record (fieldValues fields)

def tableValues : List Table → List Value
  | [] => []
  | t :: ts => t.toValue :: tableValues ts

def fieldValues : List (String × Item) → List (String × Value)
  | [] => []
  | (name, item) :: rest => (name, item.toValue) :: fieldValues rest

end

/-- A document under construction: the tables that are complete, and the one that the last header
has opened. -/
structure Outline where
  root : Table
  current : Table
  /-- Where the current table belongs; the root itself without a header. -/
  path : List String
  /-- The current table is one of a list. -/
  listed : Bool

namespace Outline

def start : Outline := ⟨.defined, .defined, [], false⟩

/-- The current table with a value for a key. -/
def assign? (o : Outline) (path : List String) (v : Value) : Option Outline :=
  (o.current.assign? path v).map fun current => { o with current }

/-- The root with the current table put where it belongs. -/
def finish? (o : Outline) : Option Table :=
  match Table.splitLast? o.path with
  | none => some o.current
  | some (path, key) =>
    let put (t : Table) : Option (Unit × Table) :=
      match o.listed, t.get? key with
      | true, some (.tables ts) => some ((), t.replace key (.tables (o.current :: ts)))
      | false, none => some ((), t.add key (.table o.current))
      | _, _ => none
    (Table.update false put path o.root).map (·.2)

/-- A header opens the table at a path. It may have led to others, but has not been defined. -/
def openTable? (o : Outline) (path : List String) : Option Outline := do
  let root ← o.finish?
  let (above, key) ← Table.splitLast? path
  let take (t : Table) : Option (Table × Table) :=
    match t.get? key with
    | none => some (.defined, t)
    | some (.table u) =>
      if u.implicit ∧ !u.dotted then some (.mk false false u.fields, t.erase key) else none
    | some _ => none
  let (current, root) ← Table.update false take above root
  some ⟨root, current, path, false⟩

/-- A header opens one more table of the list at a path. -/
def openListed? (o : Outline) (path : List String) : Option Outline := do
  let root ← o.finish?
  let (above, key) ← Table.splitLast? path
  let prepare (t : Table) : Option (Unit × Table) :=
    match t.get? key with
    | none => some ((), t.add key (.tables []))
    | some (.tables _) => some ((), t)
    | some _ => none
  let (_, root) ← Table.update false prepare above root
  some ⟨root, .defined, path, true⟩

end Outline

end CostGate.Document.Toml
