import HttpCourier.Json.Printer
import HttpCourier.Result.Basic

/-!
# HttpCourier.Result.Summary

**A result summed up as a JSON object**, for a reader: how the call went, how long it took, and
the content as text if that is wanted.
-/

namespace HttpCourier.Result

open Json (Value Members)

/-- A text, or null. -/
def textOrNull : Option Text → Value
  | some t => .string t
  | none => .null

/-- What a summary says about how the call went. -/
def outcomeMembers (r : Result) : Members :=
  [("success", .bool r.isSuccess), ("status_code", .int r.status), ("reason", textOrNull r.reason),
    ("retry_attempts", .int r.retryAttempts), ("elapsed_ms", .float (r.elapsedMs.roundPlaces 2)),
    ("error", textOrNull r.errorMessage),
    ("error_class", textOrNull (r.errorClass.map fun c => Text.ofString c.name))]

/-- The summary of a result. -/
def summary (r : Result) (withBody : Bool) : Value :=
  .object (if withBody then r.outcomeMembers ++ [(Text.ofString "body", .string r.contentText)]
    else r.outcomeMembers)

end HttpCourier.Result
