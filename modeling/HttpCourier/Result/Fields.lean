import HttpCourier.Result.Basic
import HttpCourier.Schema.Lax

/-!
# HttpCourier.Result.Fields

**Results made field by field.** Once all fields fit, the result as a whole must be coherent:
without a status it has to be a failure that has a message.
-/

namespace HttpCourier.Result

open Json (Value Members)
open Schema (Checked Rejection)

/-- The title under which faults of a result are reported. -/
def title : String := "ExecutionResult"

/-- The rule of coherence, in words. -/
def coherenceRule : String :=
  "A result without a status code must be a failure with an error"

/-- The names of the fields, in order; `exception` is not among them, and is never written. -/
def fieldNames : List String :=
  ["is_success", "status_code", "reason_phrase", "headers", "content_headers", "content",
   "elapsed_ms", "retry_attempts", "error_message", "error_class"]

/-- A header map. -/
def headerMapCheck (v : Value) : Checked HeaderMap :=
  Schema.mapping (Schema.list Schema.text) v

/-- A class of failure, by its name. -/
def classCheck (v : Value) : Checked FailureClass :=
  match v with
  | .string t =>
    match FailureClass.ofName? t with
    | some c => .fits c
    | none => .fault (.notOneOf (FailureClass.all.map FailureClass.name))
  | _ => .fault (.notOneOf (FailureClass.all.map FailureClass.name))

/-- A count. -/
def countCheck (v : Value) : Checked Nat := (Schema.integerFrom 0 v).map fun i => i.1.toNat

/-- A result that is coherent. -/
def coherent (r : Result) : Checked Result :=
  if r.isCoherent then .fits r else .fault (.rule coherenceRule)

/-- The result with the given fields, the content and the fault being given apart. -/
def ofFields (given : Members) (content : Bytes) (fault : Option Fault) :
    Except Rejection Result :=
  ((Schema.noOthers given fieldNames
    (Result.mk <$> Schema.withDefault given "is_success" false Schema.boolean <*>
      Schema.withDefault given "status_code" 0 countCheck <*>
      Schema.withDefault given "reason_phrase" none (Schema.optional Schema.text) <*>
      Schema.withDefault given "headers" [] headerMapCheck <*>
      Schema.withDefault given "content_headers" [] headerMapCheck <*>
      .fits content <*>
      Schema.withDefault given "elapsed_ms" (.zero false) Schema.nonNegativeNumber <*>
      Schema.withDefault given "retry_attempts" 0 countCheck <*>
      Schema.withDefault given "error_message" none (Schema.optional Schema.text) <*>
      Schema.withDefault given "error_class" none (Schema.optional classCheck) <*>
      .fits fault)).andThen coherent).orReject title

end HttpCourier.Result
