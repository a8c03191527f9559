/-!
# Document values

The values that a configuration file or a report is made of, whatever its notation. The fields
of a record keep their order and may repeat.
-/
namespace CostGate.Document

inductive Value where
  | null
  | flag (b : Bool)
  | whole (n : Int)
  | real (x : Float)
  | text (s : String)
  | list (items : List Value)
  | record (fields : List (String × Value))
  /-- Well formed, yet without a value: a number beyond all doubles, or a text with an escape
  that denotes no character. It may be passed over but not read. -/
  | unreadable

namespace Value

/-- The values of all fields of one name, in order. -/
def fieldsNamed (name : String) (fields : List (String × Value)) : List Value :=
  (fields.filter (·.1 == name)).map (·.2)

/-- The last value of a field of a record. -/
def field? (name : String) : Value → Option Value
  | .record fields => (fieldsNamed name fields).getLast?
  | _ => none

end Value

end CostGate.Document
