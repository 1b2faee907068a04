import HttpCourier.Json.Value

/-!
# HttpCourier.Log.Event

**Events of the log**: a level, a name, and fields with JSON values.
-/

namespace HttpCourier.Log

/-- The levels of events. -/
inductive Level where
  | debug
  | info
  | warning
  | error
  | critical
  deriving DecidableEq, Repr

namespace Level

/-- The levels, the lightest first. -/
def all : List Level := [debug, info, warning, error, critical]

/-- The name of a level. -/
def name : Level → String
  | debug => "debug"
  | info => "info"
  | warning => "warning"
  | error => "error"
  | critical => "critical"

/-- The level of a name. -/
def ofName? (name : String) : Option Level := all.find? fun l => l.name = name

/-- The weight of a level: an event is kept if its level weighs enough. -/
def weight : Level → Nat
  | debug => 10
  | info => 20
  | warning => 30
  | error => 40
  | critical => 50

end Level

/-- An event. -/
structure Event where
  level : Level
  name : String
  fields : Json.Members

/-- The component that the library's own events name. -/
def component : Text := "http_executor"

end HttpCourier.Log
