import HttpCourier.Json.Lenient
import HttpCourier.Json.Printer
import HttpCourier.Request.Spec
import HttpCourier.Schema.Complaint

/-!
# HttpCourier.Request.Document

**Request descriptions from configuration documents.** A document is a JSON object; a key that
is absent and a key whose value is null mean the same. A value of the wrong type is a fault of
its key, and so is a number out of bounds; the first fault ends the reading. A header or query value
that cannot be written ends it too, and is not the fault of a configuration.

* `ofDocument` reads a decoded document, `ofText` the text of one.
* Keys of `auth` and `retry` are named with the key of their object in front.
* A header or query value that is no string is written as JSON.
-/

namespace HttpCourier

open Json (Value Members)
open Schema (Cause)

/-- What is wrong with a configuration. -/
inductive ConfigFault where
  /-- The text is no JSON. -/
  | notJson (reason : Json.Reason) (place : Json.Place)
  /-- The text nests containers too deep. -/
  | nestedTooDeep
  | notAnObject
  | noUrl
  | unknownMethod (name : Text)
  | notAString (key : Text)
  | notAnInteger (key : Text)
  | notABoolean (key : Text)
  /-- A value is of the right type, and refused nevertheless. -/
  | refused (key : Text) (cause : Cause)
  /-- The configuration is a value of a kind that no configuration has. -/
  | unsupportedKind (kind : String)
  deriving DecidableEq, Repr

namespace ConfigFault

/-- The wording of a fault. -/
def message : ConfigFault → Text
  | notJson reason place => "Invalid JSON: " ++ (Json.Failure.malformed reason place).message
  | nestedTooDeep => "Invalid JSON: nesting too deep"
  | notAnObject => "Request configuration must be a JSON object"
  | noUrl => "Missing required property: 'url'"
  | unknownMethod name =>
    "Invalid HTTP method: '" ++ name ++ "'. Valid methods: " ++ Method.listing
  | notAString key => "Property '" ++ key ++ "' must be a string"
  | notAnInteger key => "Property '" ++ key ++ "' must be an integer"
  | notABoolean key => "Property '" ++ key ++ "' must be true or false"
  | refused key cause => "Invalid value for '" ++ key ++ "': " ++ cause.message
  | unsupportedKind kind => "Unsupported request configuration type: " ++ kind

/-- The key that the fault is about. -/
def key? : ConfigFault → Option Text
  | noUrl => some "url"
  | unknownMethod _ => some "method"
  | notAString key => some key
  | notAnInteger key => some key
  | notABoolean key => some key
  | refused key _ => some key
  | _ => none

end ConfigFault

namespace Document

/-! ### Values of keys -/

/-- The text under a key. -/
def text? (members : Members) (place key : String) : Except ConfigFault (Option Text) :=
  match members.find? (Text.ofString key) with
  | none => .ok none
  | some (.string t) => .ok (some t)
  | some _ => .error (.notAString (Text.ofString (place ++ key)))

/-- The whole number under a key. -/
def integer (members : Members) (place key : String) (default : Int) : Except ConfigFault Int :=
  match members.find? (Text.ofString key) with
  | none => .ok default
  | some v =>
    match v.wholeNumber? with
    | some i => .ok i
    | none => .error (.notAnInteger (Text.ofString (place ++ key)))

/-- The boolean under a key. -/
def boolean (members : Members) (place key : String) (default : Bool) :
    Except ConfigFault Bool :=
  match members.find? (Text.ofString key) with
  | none => .ok default
  | some (.bool b) => .ok b
  | some _ => .error (.notABoolean (Text.ofString (place ++ key)))

/-- The text that stands for a value in a header or a query. -/
def mapText : Value → Except Json.WriteFault Text
  | .null => .ok []
  | .string t => .ok t
  | v => Json.valueText v

/-- The mapping under a key; what is no object counts as an empty one. -/
def textMap (members : Members) (key : String) : Except Json.WriteFault TextMap :=
  match members.get? (Text.ofString key) with
  | some (.object entries) =>
    (entries.mapM fun e => (mapText e.2).map (e.1, ·)).map TextMap.ofPairs
  | _ => .ok .empty

/-- The text, or a default where there is none or an empty one. -/
def orDefault (default : Text) : Option Text → Text
  | none => default
  | some [] => default
  | some t => t

/-! ### Sections -/

/-- The credential under `auth`. -/
def credential (members : Members) : Except ConfigFault (Option Credential) :=
  match members.get? "auth" with
  | some (.object auth) => do
    let kind := orDefault [] (← text? auth "auth." "type")
    if present : kind ≠ [] then
      let word := text? auth "auth."
      let username ← word "username"
      let password ← word "password"
      let token ← word "token"
      let key ← word "key"
      let keyHeader ← word "key_header"
      let keyQueryParam ← word "key_query_param"
      if scalar : Text.Scalar kind then
        return some
          ⟨⟨kind, present, scalar⟩, username, password, token, key, keyHeader, keyQueryParam⟩
      else throw (.refused "kind" .notEncodable)
    else return none
  | _ => .ok none

/-- The whole numbers among the elements of an array; other elements are passed over. -/
def statusCodes (members : Members) : Option (List Int) :=
  match members.get? "retry_status_codes" with
  | some (.array codes) => some (codes.filterMap Value.wholeNumber?)
  | _ => none

/-- The retry plan under `retry`. -/
def retry (members : Members) : Except ConfigFault (Option RetryPlan) :=
  match members.get? "retry" with
  | some (.object retry) => do
    let codes := statusCodes retry
    let attempts ← integer retry "retry." "max_attempts" RetryPlan.usualAttempts
    let delay ← integer retry "retry." "delay_ms" RetryPlan.usualDelayMs
    let exponential ← boolean retry "retry." "exponential_backoff" true
    if delay < 0 then throw (.refused "delay_ms" (.below 0))
    return some ⟨attempts, delay.toNat, exponential, codes⟩
  | _ => .ok none

/-- The method under `method`, by its name in any letter case. -/
def method (members : Members) : Except ConfigFault Method := do
  let name := Text.upper (orDefault (Text.ofString Method.usual.name) (← text? members "" "method"))
  match Method.ofName? name with
  | some m => return m
  | none => throw (.unknownMethod name)

/-- The URL under `url`. -/
def url (members : Members) : Except ConfigFault { t : Text // Text.isBlank t = false } :=
  match members.get? "url" with
  | some (.string t) => if h : Text.isBlank t = false then .ok ⟨t, h⟩ else .error .noUrl
  | _ => .error .noUrl

/-- What a host sets where a document is silent. -/
structure Defaults where
  timeoutSeconds : Int
  followRedirects : Bool
  deriving DecidableEq, Repr

/-- The defaults of a host that sets none. -/
def Defaults.usual : Defaults := ⟨30, true⟩

/-- A timeout within the bounds. -/
def timeout (seconds : Int) : Except ConfigFault Timeout :=
  if above : Timeout.greatest < seconds then
    .error (.refused "timeout_seconds" (.above Timeout.greatest))
  else if below : seconds < Timeout.least then
    .error (.refused "timeout_seconds" (.below Timeout.least))
  else .ok (Timeout.ofInt seconds ⟨by omega, by omega⟩)

end Document

/-- Why a configuration gives no request description. -/
inductive SpecFault where
  | config (fault : ConfigFault)
  /-- An integer literal of a text has more digits than are converted. -/
  | overlongInteger (digits : Nat)
  /-- A header or query value cannot be written as JSON. -/
  | unwritable (fault : Json.WriteFault)
  deriving DecidableEq, Repr

namespace RequestSpec

/-- The request description of the members of a document, of which the first four parts have been
read. -/
def ofParts (members : Members) (defaults : Document.Defaults)
    (target : { t : Text // Text.isBlank t = false }) (method : Method) (headers query : TextMap) :
    Except ConfigFault RequestSpec := do
  let bodyRaw ← Document.text? members "" "body_raw"
  let contentType ← Document.text? members "" "content_type"
  let seconds ← Document.integer members "" "timeout_seconds" defaults.timeoutSeconds
  let ignoreCertificateErrors ← Document.boolean members "" "ignore_certificate_errors" false
  let followRedirects ← Document.boolean members "" "follow_redirects" defaults.followRedirects
  let credential ← Document.credential members
  let retry ← Document.retry members
  if scalar : Text.Scalar target.1 then
    let timeout ← Document.timeout seconds
    return {
      target := ⟨target.1, target.2, scalar⟩
      method
      headers
      query
      body := (members.find? "body").map .structured
      bodyRaw
      contentType := Document.orDefault usualContentType contentType
      timeout
      ignoreCertificateErrors
      followRedirects
      credential
      retry }
  else throw (.refused "url" .notEncodable)

/-- The request description of the members of a document. -/
def ofMembers (members : Members) (defaults : Document.Defaults) :
    Except SpecFault RequestSpec := do
  let target ← (Document.url members).mapError .config
  let method ← (Document.method members).mapError .config
  let headers ← (Document.textMap members "headers").mapError .unwritable
  let query ← (Document.textMap members "query").mapError .unwritable
  (ofParts members defaults target method headers query).mapError .config

/-- The request description of a decoded document. -/
def ofDocument (document : Value) (defaults : Document.Defaults) :
    Except SpecFault RequestSpec :=
  match document with
  | .object members => ofMembers members defaults
  | _ => .error (.config .notAnObject)

/-- The request description of the text of a document. -/
def ofText (t : Text) (defaults : Document.Defaults) : Except SpecFault RequestSpec :=
  match Json.readLenient t with
  | .error (.malformed reason place) => .error (.config (.notJson reason place))
  | .error .tooDeep => .error (.config .nestedTooDeep)
  | .error (.overlongInteger digits) => .error (.overlongInteger digits)
  | .ok document => ofDocument document defaults

end RequestSpec

end HttpCourier
