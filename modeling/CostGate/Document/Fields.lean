import CostGate.Document.Value

/-!
# Reading values

How numbers, texts and records are taken from document values. A record gives its fields by name,
and a list gives them by position.
-/
namespace CostGate.Document

namespace Value

/-- A number; whole numbers are numbers. -/
def toReal? : Value → Option Float
  | .real x => some x
  | .whole n => some (Float.ofInt n)
  | _ => none

/-- A count of at most sixty-four bits. -/
def toCount? : Value → Option Nat
  | .whole n => if 0 ≤ n ∧ n < UInt64.size then some n.toNat else none
  | _ => none

def toFlag? : Value → Option Bool
  | .flag b => some b
  | _ => none

def toText? : Value → Option String
  | .text s => some s
  | _ => none

/-- A list of which every item can be read. -/
def toList? {β : Type} (read : Value → Option β) : Value → Option (List β)
  | .list items => items.mapM read
  | _ => none

end Value

/-- What to do with a list that has more items than the record has fields. -/
inductive Surplus where
  | refuse
  | drop
  deriving Repr, DecidableEq

/-- The values of the fields of one name: none, one, or too many. -/
def onlyField? (fields : List (String × Value)) (name : String) : Option (Option Value) :=
  match Value.fieldsNamed name fields with
  | [] => some none
  | [v] => some (some v)
  | _ => none

/-- The values of the named fields, each of which may be missing. A field may not repeat; fields
of other names are passed over. -/
def fieldsOf? (surplus : Surplus) (names : List String) : Value → Option (List (Option Value))
  | .record fields => names.mapM (onlyField? fields)
  | .list items =>
    if surplus = .refuse ∧ names.length < items.length then none
    else some ((List.range names.length).map fun i => items[i]?)
  | _ => none

/-- A field that is read, or the default in place of a missing one. -/
def fieldOr? {β : Type} (read : Value → Option β) (default : β) : Option Value → Option β
  | none => some default
  | some v => read v

def required? {β : Type} (read : Value → Option β) : Option Value → Option β
  | none => none
  | some v => read v

end CostGate.Document
