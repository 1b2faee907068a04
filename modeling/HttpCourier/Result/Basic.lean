import HttpCourier.Attempt.Fault
import HttpCourier.Number.Binary64

/-!
# HttpCourier.Result.Basic

**What a call comes to.** A result tells of a response, or of an error and its class; no call
fails in any other way. A status of zero means that there was no response, and then there is an
error message: `Result.check` refuses anything else.
-/

namespace HttpCourier

/-- Header fields of a response by their names in lower case, each with its values in order. -/
abbrev HeaderMap := List (Text × List Text)

/-- The result of a call. -/
structure Result where
  isSuccess : Bool
  /-- The status of the response, and zero where there is none. -/
  status : Nat
  reason : Option Text
  headers : HeaderMap
  /-- The fields that describe the content. -/
  contentHeaders : HeaderMap
  content : Bytes
  /-- How long the call took, all attempts together, in milliseconds. -/
  elapsedMs : Binary64
  /-- How many attempts were made beyond the first. -/
  retryAttempts : Nat
  errorMessage : Option Text
  errorClass : Option FailureClass
  fault : Option Fault
  deriving DecidableEq

namespace Result

/-- The least status that tells of success, and the least one above it that does not. -/
def successBounds : Int × Int := (200, 300)

/-- Whether a status tells of success. -/
def isSuccessStatus (status : Int) : Bool :=
  successBounds.1 ≤ status && status < successBounds.2

/-- Whether the result either has a status, or is a failure with a message. -/
def isCoherent (r : Result) : Bool := r.status != 0 || (!r.isSuccess && r.errorMessage.isSome)

/-- The result of a call that ended without a response. -/
def ofError (message : Text) (failureClass : FailureClass) (fault : Option Fault)
    (elapsedMs : Binary64) (retryAttempts : Nat) : Result :=
  ⟨false, 0, none, [], [], [], elapsedMs, retryAttempts, some message, some failureClass, fault⟩

/-- The header map with one value more. -/
def addValue (name value : Text) : HeaderMap → HeaderMap
  | [] => [(name, [value])]
  | (n, vs) :: rest =>
    if n = name then (n, vs ++ [value]) :: rest else (n, vs) :: addValue name value rest

/-- The header map of fields, in order. -/
def headerMap (fields : List (Text × Text)) : HeaderMap :=
  fields.foldl (fun m (n, v) => addValue n v m) []

/-- The values of a name; an empty list counts as none. -/
def valuesOf? (m : HeaderMap) (name : Text) : Option (List Text) :=
  match m.lookup name with
  | some [] => none
  | found => found

/-- The value of a header, several values joined. -/
def header? (r : Result) (name : Text) : Option Text :=
  let key := Text.lower name
  match valuesOf? r.headers key with
  | some vs => some (Text.join ", " vs)
  | none => (valuesOf? r.contentHeaders key).map (Text.join ", ")

/-- The content as text, with replacement characters where it is no UTF-8. -/
def contentText (r : Result) : Text := Text.ofUtf8Lossy r.content

end Result

end HttpCourier
