import HttpCourier.Text.CodePoint

/-!
# HttpCourier.Schema.Complaint

**What is wrong with a field.** A complaint has a cause and the path of the value that it is
about. A check of several fields does not stop at the first fault: `Checked` collects the
complaints of all of them, in order.
-/

namespace HttpCourier.Schema

/-- Why a value does not fit its field. -/
inductive Cause where
  | missing
  | unknownField
  | frozen
  | notAString
  | emptyString
  /-- The string holds a lone surrogate. -/
  | notEncodable
  | notAnInteger
  | unreadableInteger
  | oversizedInteger
  | fractionalInteger
  | notFinite
  | notABoolean
  | unreadableBoolean
  | notANumber
  | unreadableNumber
  | below (least : Int)
  | above (greatest : Int)
  | notAMapping
  | notAList
  | notATuple
  /-- The value is no instance of a model, and no mapping to make one from. -/
  | notAModel (name : String)
  /-- The value is none of those that are listed. -/
  | notOneOf (names : List String)
  /-- A rule of the model's own is broken. -/
  | rule (wording : String)
  deriving DecidableEq, Repr

namespace Cause

/-- The short name of a cause. -/
def code : Cause → String
  | missing => "missing"
  | unknownField => "extra_forbidden"
  | frozen => "frozen_instance"
  | notAString => "string_type"
  | emptyString => "string_too_short"
  | notEncodable => "string_unicode"
  | notAnInteger => "int_type"
  | unreadableInteger => "int_parsing"
  | oversizedInteger => "int_parsing_size"
  | fractionalInteger => "int_from_float"
  | notFinite => "finite_number"
  | notABoolean => "bool_type"
  | unreadableBoolean => "bool_parsing"
  | notANumber => "float_type"
  | unreadableNumber => "float_parsing"
  | below _ => "greater_than_equal"
  | above _ => "less_than_equal"
  | notAMapping => "dict_type"
  | notAList => "list_type"
  | notATuple => "tuple_type"
  | notAModel _ => "model_type"
  | notOneOf _ => "enum"
  | rule _ => "value_error"

/-- The names between quotes, with a comma between two and `or` before the last. -/
def alternatives : List String → String
  | [] => ""
  | [a] => "'" ++ a ++ "'"
  | [a, b] => "'" ++ a ++ "' or '" ++ b ++ "'"
  | a :: rest => "'" ++ a ++ "', " ++ alternatives rest

/-- The wording of a cause. -/
def message : Cause → Text
  | missing => "Field required"
  | unknownField => "Extra inputs are not permitted"
  | frozen => "Instance is frozen"
  | notAString => "Input should be a valid string"
  | emptyString => "String should have at least 1 character"
  | notEncodable =>
    "Input should be a valid string, unable to parse raw data as a unicode string"
  | notAnInteger => "Input should be a valid integer"
  | unreadableInteger => "Input should be a valid integer, unable to parse string as an integer"
  | oversizedInteger =>
    "Unable to parse input string as an integer, exceeded maximum size"
  | fractionalInteger =>
    "Input should be a valid integer, got a number with a fractional part"
  | notFinite => "Input should be a finite number"
  | notABoolean => "Input should be a valid boolean"
  | unreadableBoolean => "Input should be a valid boolean, unable to interpret input"
  | notANumber => "Input should be a valid number"
  | unreadableNumber => "Input should be a valid number, unable to parse string as a number"
  | below least => "Input should be greater than or equal to " ++ Text.ofInt least
  | above greatest => "Input should be less than or equal to " ++ Text.ofInt greatest
  | notAMapping => "Input should be a valid dictionary"
  | notAList => "Input should be a valid list"
  | notATuple => "Input should be a valid tuple"
  | notAModel name =>
    "Input should be a valid dictionary or instance of " ++ Text.ofString name
  | notOneOf names => "Input should be " ++ Text.ofString (alternatives names)
  | rule wording => "Value error, " ++ Text.ofString wording

end Cause

/-- A cause, and the path of the value that it is about. -/
structure Complaint where
  path : List Text
  cause : Cause
  deriving DecidableEq, Repr

/-- The complaint seen from a container that holds the value under a name. -/
def Complaint.under (name : Text) (c : Complaint) : Complaint := ⟨name :: c.path, c.cause⟩

/-- The complaints of a model, with the name of the model. -/
structure Rejection where
  title : String
  complaints : List Complaint
  deriving DecidableEq, Repr

/-- The outcome of a check: a value, or the complaints. -/
inductive Checked (α : Type) where
  | fits (a : α)
  | rejects (complaints : List Complaint)

namespace Checked

/-- A single complaint about the value itself. -/
def fault (cause : Cause) : Checked α := rejects [⟨[], cause⟩]

/-- The check seen from a container that holds the value under a name. -/
def under (name : Text) : Checked α → Checked α
  | fits a => fits a
  | rejects cs => rejects (cs.map (·.under name))

/-- A further check of a value that fits. -/
def andThen (x : Checked α) (f : α → Checked β) : Checked β :=
  match x with
  | fits a => f a
  | rejects cs => rejects cs

/-- The value under a function. -/
def map (f : α → β) : Checked α → Checked β
  | fits a => fits (f a)
  | rejects cs => rejects cs

/-- Two checks side by side: the complaints of both, in order. -/
def both (x : Checked (α → β)) (y : Unit → Checked α) : Checked β :=
  match x, y () with
  | fits f, fits a => fits (f a)
  | fits _, rejects cs => rejects cs
  | rejects cs, fits _ => rejects cs
  | rejects cs, rejects ds => rejects (cs ++ ds)

instance : Functor Checked := ⟨map, fun a => map fun _ => a⟩
instance : Pure Checked := ⟨fits⟩
instance : Seq Checked := ⟨both⟩

/-- The checks of a list of values, each under its position. -/
def each (check : α → Checked β) (position : Nat) : List α → Checked (List β)
  | [] => fits []
  | a :: rest =>
    List.cons <$> (check a).under (Text.ofNat position) <*> each check (position + 1) rest

/-- The checks of the values of a mapping, each under its name. -/
def eachMember (check : α → Checked β) : List (Text × α) → Checked (List (Text × β))
  | [] => fits []
  | (name, a) :: rest =>
    List.cons <$> ((check a).under name).map (name, ·) <*> eachMember check rest

/-- The value of a check that finds no fault, or the complaints under a title. -/
def orReject (title : String) : Checked α → Except Rejection α
  | fits a => .ok a
  | rejects cs => .error ⟨title, cs⟩

end Checked

end HttpCourier.Schema
