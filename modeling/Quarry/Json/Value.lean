import Quarry.Text.Basic
import Quarry.Number.Binary64

/-! JSON values. A record keeps its fields in the order in which their keys first came. -/
namespace Quarry.Json

inductive Value where
  | null
  | bool (b : Bool)
  | int (n : Int)
  | real (x : Binary64)
  | text (t : Text)
  | list (items : List Value)
  | record (fields : List (Text × Value))
  deriving Inhabited

/-- The fields of a record, in order. -/
abbrev Fields := List (Text × Value)

/-- Gives a key a value. A key that is already there keeps its place. -/
def Fields.put (key : Text) (value : Value) : Fields → Fields
  | [] => [(key, value)]
  | (k, v) :: others =>
    if k = key then (key, value) :: others else (k, v) :: Fields.put key value others

/-- Lists and records hold other values. -/
def Value.isContainer : Value → Bool
  | .list _ | .record _ => true
  | _ => false

end Quarry.Json
