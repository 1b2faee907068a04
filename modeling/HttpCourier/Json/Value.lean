import HttpCourier.Number.Binary64
import HttpCourier.Text.Entries

/-!
# HttpCourier.Json.Value

**JSON values.** Whole numbers and floating-point numbers are told apart by how they were
spelled, and the members of an object stand in the order of their first appearance.
-/

namespace HttpCourier.Json

/-- A JSON value. -/
inductive Value where
  | null
  | bool (b : Bool)
  | int (i : Int)
  | float (x : Binary64)
  | string (t : Text)
  | array (elements : List Value)
  | object (members : List (Text × Value))
  deriving Inhabited, Repr

/-- The members of an object, in order. -/
abbrev Members := Entries Value

namespace Members

/-- The members of a list of pairs that may repeat a name. -/
def ofPairs (pairs : List (Text × Value)) : Members :=
  pairs.foldl (fun members (n, v) => members.insert n v) []

/-- The value of a name, where a null counts as no value. -/
def find? (name : Text) (members : Members) : Option Value :=
  match members.get? name with
  | some .null => none
  | found => found

end Members

namespace Value

/-- The integer that the value spells as a whole number; a boolean is no number. -/
def wholeNumber? : Value → Option Int
  | int i => some i
  | float x => x.toInt?
  | _ => none

/-- The word that messages have for the kind of a value. -/
def kindName : Value → String
  | null => "NoneType"
  | bool _ => "bool"
  | int _ => "int"
  | float _ => "float"
  | string _ => "str"
  | array _ => "list"
  | object _ => "dict"

end Value

end HttpCourier.Json
