import HttpCourier.Json.Printer
import HttpCourier.Log.Event
import HttpCourier.Redaction
import HttpCourier.Text.Quoted

/-!
# HttpCourier.Log.Line

**Events written as lines.** Every event names a component, and the headers that it tells of are
written without their secrets. A line is either a JSON object, or columns for a reader: the time,
the level, the name of the event, and its fields.

* Fields stand in the order of their names, in both forms.
* Fields that come later count more: those of the event itself more than those that its logger
  gives to all events.
-/

namespace HttpCourier.Log

open Json (Value Members)

/-! ### Fields -/

/-- Fields that name a component, the library's own where they name none. -/
def withComponent (fields : Members) : Members :=
  if fields.has "component" then fields
  else fields ++ [(Text.ofString "component", .string component)]

/-- A header's value, replaced if the name of the header is sensitive. -/
def headerValue (patterns : List Text) (name : Text) (value : Value) : Value :=
  if Redaction.isSensitive patterns name then .string Redaction.mark else value

/-- Fields with the secrets taken out of the headers, where they tell of headers. -/
def withoutSecrets (patterns : List Text) (fields : Members) : Members :=
  match fields.get? "headers" with
  | some (.object headers) =>
    fields.insert "headers" (.object (headers.map fun (n, v) => (n, headerValue patterns n v)))
  | _ => fields

/-- Members in the order of their names. -/
def inOrder (members : Members) : Members := members.mergeSort fun a b => Text.le a.1 b.1

mutual

/-- A value whose objects have their members in the order of their names. -/
def sorted : Value → Value
  | .array elements => .array (sortedElements elements)
  | .object members => .object (inOrder (sortedMembers members))
  | v => v

/-- Elements, each of them sorted. -/
def sortedElements : List Value → List Value
  | [] => []
  | v :: rest => sorted v :: sortedElements rest

/-- Members, the value of each of them sorted. -/
def sortedMembers : List (Text × Value) → Members
  | [] => []
  | (n, v) :: rest => (n, sorted v) :: sortedMembers rest

end

/-! ### Columns -/

mutual

/-- A value as it is written in a column, texts between quotes. -/
def literal : Value → Text
  | .null => "None"
  | .bool true => "True"
  | .bool false => "False"
  | .int i => Text.ofInt i
  | .float x => Binary64.messageLayout.text x
  | .string t => Text.quoted t
  | .array elements =>
    [CodePoint.ofChar '['] ++ Text.join ", " (literals elements) ++ [CodePoint.ofChar ']']
  | .object members =>
    [CodePoint.ofChar '{'] ++ Text.join ", " (literalMembers members) ++ [CodePoint.ofChar '}']

/-- Elements as they are written in a column. -/
def literals : List Value → List Text
  | [] => []
  | v :: rest => literal v :: literals rest

/-- Members as they are written in a column. -/
def literalMembers : List (Text × Value) → List Text
  | [] => []
  | (n, v) :: rest => (Text.quoted n ++ ": " ++ literal v) :: literalMembers rest

end

/-- Whether a text with the code point has to stand between quotes. -/
def needsQuotes (c : CodePoint) : Bool :=
  [0x20, 0x09, 0x3D, 0x0D, 0x0A, 0x22, 0x27].contains c.val

/-- A value as it is, a text without quotes. -/
def bare : Value → Text
  | .string t => t
  | v => literal v

/-- A value behind its name, a text between quotes only if it needs them. -/
def fieldValue : Value → Text
  | .string t => if t.any needsQuotes then Text.quoted t else t
  | v => literal v

/-- The text with spaces behind it, up to a width. -/
def padded (width : Nat) (t : Text) : Text :=
  t ++ List.replicate (width - t.length) (CodePoint.ofChar ' ')

/-- The text in square brackets. -/
def bracketed (t : Text) : Text := [CodePoint.ofChar '['] ++ t ++ [CodePoint.ofChar ']']

/-- The width of the names of levels. -/
def levelWidth : Nat := 9

/-- The width of the names of events. -/
def nameWidth : Nat := 30

/-- The fields that have columns of their own, and how they are written there. -/
def columns : List (Text × (Value → Text)) :=
  [("timestamp", bare), ("level", fun v => bracketed (padded levelWidth (bare v))),
   ("event", fun v => padded nameWidth (bare v)), ("logger", fun v => bracketed (bare v)),
   ("logger_name", fun v => bracketed (bare v))]

/-- The fields that are written below the line. -/
def appendices : List Text := ["stack", "exception"]

/-- The line of fields, for a reader. -/
def readerLine (fields : Members) : Text :=
  let leading := columns.filterMap fun (n, write) => (fields.get? n).map write
  let others := inOrder (fields.filter fun m =>
    !(columns.map Prod.fst).contains m.1 && !appendices.contains m.1)
  let blocks := leading ++ others.map fun (n, v) => n ++ "=" ++ fieldValue v
  ((Text.join " " (blocks.filter (!·.isEmpty))).reverse.dropWhile
    (· = CodePoint.ofChar ' ')).reverse

/-- What is written below the line of fields: where the event came from, and what was raised. -/
def appendix (fields : Members) : Text :=
  let raised := match fields.find? "exception" with
    | some v => CodePoint.ofChar '\n' :: bare v
    | none => []
  match fields.find? "stack" with
  | some v =>
    CodePoint.ofChar '\n' :: bare v ++
      (if raised = [] then []
        else Text.ofString "\n\n" ++ List.replicate 79 (CodePoint.ofChar '=') ++
          [CodePoint.ofChar '\n'] ++ raised)
  | none => raised

/-! ### Loggers -/

/-- The form of lines. -/
inductive Form where
  | json
  | console
  deriving DecidableEq, Repr

namespace Form

/-- The forms, in the order in which they are offered. -/
def all : List Form := [json, console]

/-- The name of a form. -/
def name : Form → String
  | json => "json"
  | console => "console"

/-- The form of a name. -/
def ofName? (t : Text) : Option Form := all.find? fun f => Text.ofString f.name = t

end Form

/-- What turns events into lines. -/
structure Logger where
  /-- The least level of events that are written. -/
  least : Level
  form : Form
  /-- The words that mark a header as sensitive. -/
  patterns : List Text
  /-- The fields that all events get. -/
  bound : Members

namespace Logger

/-- Whether the event is written. -/
def keeps (l : Logger) (e : Event) : Bool := l.least.weight ≤ e.level.weight

/-- The fields that are written of an event. -/
def fields (l : Logger) (stamp : Text) (e : Event) : Members :=
  let given := (Members.ofPairs (l.bound ++ e.fields)).insert "event" (.string (Text.ofString e.name))
  let told := withoutSecrets l.patterns (withComponent given)
  ((told.insert "level" (.string (Text.ofString e.level.name))).insert "timestamp"
    (.string stamp)).erase "exc_info"

/-- The line of an event, with the time that stands on it. -/
def line (l : Logger) (stamp : Text) (e : Event) : Text :=
  let fields := l.fields stamp e
  match l.form with
  | .json => Json.Style.spaced.text (sorted (.object fields))
  | .console => readerLine fields ++ appendix fields

/-- The lines of the events that are written, each with the time that stands on it. -/
def lines (l : Logger) (events : List (Text × Event)) : List Text :=
  (events.filter fun e => l.keeps e.2).map fun (stamp, e) => l.line stamp e

end Logger

end HttpCourier.Log
