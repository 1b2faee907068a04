import HttpCourier.Credential.Completeness
import HttpCourier.Json.Lenient
import HttpCourier.Request.Document
import HttpCourier.Request.Model
import HttpCourier.Url.Split

/-!
# HttpCourier.Request.Check

**What is wrong with a configuration**, all of it at once and before anything is sent. The check
walks over the decoded document on its own and makes no request description. Errors stand in
the way of sending; warnings do not.

A `Verdict` is what a check finds. A few configurations stop the check itself: those are the
cases of `CheckStop`.
-/

namespace HttpCourier

open Json (Value Members)
open Schema (Rejection)

/-- What a check finds. -/
structure Verdict where
  isValid : Bool
  errors : List Text
  warnings : List Text
  deriving DecidableEq, Repr

namespace Verdict

/-- The title under which faults of a verdict's own fields are reported. -/
def title : String := "ValidationResult"

/-- The verdict of lists of messages: valid if there are no errors. -/
def ofMessages (errors warnings : List Text) : Verdict := ⟨errors.isEmpty, errors, warnings⟩

/-- The verdict with the given fields. -/
def ofFields (given : Members) : Except Rejection Verdict :=
  (Schema.noOthers given ["is_valid", "errors", "warnings"]
    (Verdict.mk <$> Schema.required given "is_valid" Schema.boolean <*>
      Schema.withDefault given "errors" [] (Schema.list Schema.text) <*>
      Schema.withDefault given "warnings" [] (Schema.list Schema.text))).orReject title

end Verdict

/-! ### Findings -/

/-- An error in a configuration. -/
inductive Finding where
  | noUrl
  | malformedUrl (url : Text)
  | foreignScheme (scheme : Text)
  | methodNotString
  | unknownMethod (name : Text)
  | timeoutNotInteger
  | timeoutOutOfBounds
  | mapNotObject (key : String)
  | authNotObject
  | authWithoutType
  | authFieldNotString (key : String)
  | gap (g : Credential.Gap)
  | retryNotObject
  | attemptsNotInteger
  | attemptsOutOfBounds
  | delayNotInteger
  | delayOutOfBounds
  | codesNotArray
  deriving DecidableEq, Repr

/-- A remark on a configuration. -/
inductive Remark where
  | noStatusCodes
  | ignoredStatusCodes
  | twoBodies
  deriving DecidableEq, Repr

namespace RetryPlan

/-- The least and the greatest number of attempts that a configuration may ask for. -/
def attemptBounds : Int × Int := (1, 10)

/-- The least and the greatest delay, in milliseconds, that a configuration may ask for. -/
def delayBounds : Int × Int := (100, 60000)

end RetryPlan

/-- The wording of bounds. -/
def boundsText (bounds : Int × Int) : Text :=
  Text.ofInt bounds.1 ++ " and " ++ Text.ofInt bounds.2

namespace Finding

/-- The wording of an error. -/
def message : Finding → Text
  | noUrl => "Missing or empty required property: 'url'"
  | malformedUrl url => "Invalid URL format: '" ++ url ++ "'"
  | foreignScheme scheme => "URL must use http or https scheme, got: '" ++ scheme ++ "'"
  | methodNotString => "Property 'method' must be a string"
  | unknownMethod name =>
    "Invalid HTTP method: '" ++ name ++ "'. Valid methods: " ++ Method.listing
  | timeoutNotInteger => "Property 'timeout_seconds' must be an integer"
  | timeoutOutOfBounds =>
    "Property 'timeout_seconds' must be between " ++ boundsText (Timeout.least, Timeout.greatest)
  | mapNotObject key =>
    "Property '" ++ Text.ofString key ++ "' must be an object with string values"
  | authNotObject => "Property 'auth' must be an object"
  | authWithoutType => "Auth object requires 'type' property"
  | authFieldNotString key => "Auth '" ++ Text.ofString key ++ "' must be a string"
  | gap g => g.message
  | retryNotObject => "Property 'retry' must be an object"
  | attemptsNotInteger => "Retry 'max_attempts' must be an integer"
  | attemptsOutOfBounds =>
    "Retry 'max_attempts' must be between " ++ boundsText RetryPlan.attemptBounds
  | delayNotInteger => "Retry 'delay_ms' must be an integer"
  | delayOutOfBounds => "Retry 'delay_ms' must be between " ++ boundsText RetryPlan.delayBounds
  | codesNotArray => "Retry 'retry_status_codes' must be an array of integers"

end Finding

namespace Remark

/-- The wording of a remark. -/
def message : Remark → Text
  | noStatusCodes =>
    "Retry 'retry_status_codes' is empty. Status-based retry is disabled."
  | ignoredStatusCodes =>
    "Retry 'retry_status_codes' contains non-integer values that will be ignored."
  | twoBodies => "Both 'body' and 'body_raw' are specified. 'body' will take precedence."

end Remark

/-- Why a check comes to no verdict. -/
inductive CheckStop where
  /-- The URL cannot be taken apart. -/
  | url (e : Url.SplitError)
  /-- The credential's scheme has no encoding. -/
  | credential (r : Rejection)
  /-- An integer literal has more digits than are converted. -/
  | overlongInteger (digits : Nat)
  deriving DecidableEq, Repr

namespace Check

/-! ### The parts of a configuration -/

/-- Whether an integer lies within bounds. -/
def within (bounds : Int × Int) (i : Int) : Bool := bounds.1 ≤ i && i ≤ bounds.2

/-- The findings on a number that has to be whole and within bounds, if it is given. -/
def bounded (bounds : Int × Int) (notWhole outside : Finding) : Option Value → List Finding
  | none => []
  | some v =>
    match v.wholeNumber? with
    | none => [notWhole]
    | some i => if within bounds i then [] else [outside]

/-- The findings on a URL. -/
def url (v : Option Value) : Except Url.SplitError (List Finding) :=
  match v with
  | some (.string t) =>
    if Text.isBlank t then .ok [.noUrl]
    else
      (Url.split (Text.strip t)).map fun parts =>
        if parts.scheme = [] then [.malformedUrl t]
        else if parts.scheme ≠ Text.ofString "http" ∧ parts.scheme ≠ Text.ofString "https" then
          [.foreignScheme parts.scheme]
        else if parts.authority = [] then [.malformedUrl t]
        else []
  | _ => .ok [.noUrl]

/-- The findings on a method. -/
def method : Option Value → List Finding
  | none => []
  | some (.string t) =>
    if (Method.ofName? (Text.upper t)).isSome then [] else [.unknownMethod t]
  | some _ => [.methodNotString]

/-- The findings on a mapping. -/
def textMap (key : String) : Option Value → List Finding
  | none => []
  | some (.object _) => []
  | some _ => [.mapNotObject key]

/-- The keys of a credential's values. -/
def credentialKeys : List String :=
  ["username", "password", "token", "key", "key_header", "key_query_param"]

/-- The finding on one value of a credential. -/
def credentialValue (auth : Members) (key : String) : List Finding :=
  match auth.find? (Text.ofString key) with
  | none => []
  | some (.string _) => []
  | some _ => [.authFieldNotString key]

/-- The text of one value of a credential. -/
def credentialText (auth : Members) (key : String) : Option Text :=
  match auth.find? (Text.ofString key) with
  | some (.string t) => some t
  | _ => none

/-- The findings on the members of a credential. -/
def credential (auth : Members) : Except Rejection (List Finding) :=
  match auth.get? "type" with
  | some (.string kind) =>
    if kind = [] then .ok [.authWithoutType]
    else
      ((SchemeName.check (.string kind)).under "kind" |>.orReject Credential.title).map fun kind =>
        let word := credentialText auth
        let credential : Credential :=
          ⟨kind, word "username", word "password", word "token", word "key", word "key_header",
            word "key_query_param"⟩
        credentialKeys.flatMap (credentialValue auth) ++ credential.gaps.map .gap
  | _ => .ok [.authWithoutType]

/-- The findings on status codes. -/
def statusCodes : Option Value → List Finding
  | none => []
  | some (.array _) => []
  | some _ => [.codesNotArray]

/-- The remarks on status codes. -/
def statusCodeRemarks : Option Value → List Remark
  | some (.array []) => [.noStatusCodes]
  | some (.array codes) =>
    if codes.all fun v => v.wholeNumber?.isSome then [] else [.ignoredStatusCodes]
  | _ => []

/-- The findings on the members of a retry plan. -/
def retry (members : Members) : List Finding :=
  bounded RetryPlan.attemptBounds .attemptsNotInteger .attemptsOutOfBounds
      (members.get? "max_attempts") ++
    bounded RetryPlan.delayBounds .delayNotInteger .delayOutOfBounds (members.get? "delay_ms") ++
    statusCodes (members.get? "retry_status_codes")

/-! ### Whole configurations -/

/-- The findings on the credential of a document. -/
def credentialSection (members : Members) : Except Rejection (List Finding) :=
  match members.find? "auth" with
  | none => .ok []
  | some (.object auth) => credential auth
  | some _ => .ok [.authNotObject]

/-- The findings on the retry plan of a document. -/
def retrySection (members : Members) : List Finding :=
  match members.find? "retry" with
  | none => []
  | some (.object plan) => retry plan
  | some _ => [.retryNotObject]

/-- The remarks on a document. -/
def remarks (members : Members) : List Remark :=
  (match members.find? "retry" with
    | some (.object plan) => statusCodeRemarks (Entries.get? "retry_status_codes" plan)
    | _ => []) ++
  (if (members.find? "body").isSome && (members.find? "body_raw").isSome then [.twoBodies]
    else [])

/-- The findings on the members of a document. -/
def findings (members : Members) : Except CheckStop (List Finding) := do
  let onUrl ← (url (members.get? "url")).mapError .url
  let onCredential ← (credentialSection members).mapError .credential
  return onUrl ++ method (members.get? "method") ++
    bounded (Timeout.least, Timeout.greatest) .timeoutNotInteger .timeoutOutOfBounds
      (members.get? "timeout_seconds") ++
    textMap "headers" (members.get? "headers") ++ textMap "query" (members.get? "query") ++
    onCredential ++ retrySection members

end Check

namespace Verdict

/-- The verdict on a decoded document. -/
def ofDocument : Value → Except CheckStop Verdict
  | .object members => do
    let errors ← Check.findings members
    return ofMessages (errors.map Finding.message) ((Check.remarks members).map Remark.message)
  | _ => .ok (ofMessages [ConfigFault.notAnObject.message] [])

/-- The verdict on the text of a document. -/
def ofText (t : Text) : Except CheckStop Verdict :=
  match Json.readLenient t with
  | .error (.malformed reason place) =>
    .ok (ofMessages [(ConfigFault.notJson reason place).message] [])
  | .error .tooDeep => .ok (ofMessages [ConfigFault.nestedTooDeep.message] [])
  | .error (.overlongInteger digits) => .error (.overlongInteger digits)
  | .ok document => ofDocument document

end Verdict

end HttpCourier
