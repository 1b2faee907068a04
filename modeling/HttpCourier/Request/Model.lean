import HttpCourier.Request.Spec
import HttpCourier.Schema.Lax

/-!
# HttpCourier.Request.Model

**Request descriptions made field by field**, from JSON values that are converted as far as
their fields allow. All faults of a description are reported together, under its title; those
of a credential, a retry plan or a raw body come first, since these are made on their own.
-/

namespace HttpCourier

open Json (Value Members)
open Schema (Checked Rejection Cause)

/-- The title under which faults of a credential are reported. -/
def Credential.title : String := "AuthDescriptor"

/-- The title under which faults of a retry plan are reported. -/
def RetryPlan.title : String := "RetryDescriptor"

/-- The title under which faults of a request are reported. -/
def RequestSpec.title : String := "RequestDescriptor"

/-- The title under which faults of a raw body are reported. -/
def Body.rawTitle : String := "RawJsonBody"

/-! ### Credentials and retry plans -/

/-- The name of a scheme: a text that is neither empty nor without an encoding. -/
def SchemeName.check (v : Value) : Checked SchemeName :=
  (Schema.properText v).map fun t => ⟨t.1, t.2.1, t.2.2⟩

/-- The names of the fields of a credential. -/
def Credential.fieldNames : List String :=
  ["kind", "username", "password", "token", "key", "key_header", "key_query_param"]

/-- The credential with the given fields. -/
def Credential.ofFields (given : Members) : Except Rejection Credential :=
  let word (name : String) := Schema.withDefault given name none (Schema.optional Schema.text)
  (Schema.noOthers given fieldNames
    (Credential.mk <$> Schema.required given "kind" SchemeName.check <*> word "username" <*>
      word "password" <*> word "token" <*> word "key" <*> word "key_header" <*>
      word "key_query_param")).orReject title

/-- The names of the fields of a retry plan. -/
def RetryPlan.fieldNames : List String :=
  ["max_attempts", "delay_ms", "exponential_backoff", "retry_status_codes"]

/-- The retry plan with the given fields. -/
def RetryPlan.ofFields (given : Members) : Except Rejection RetryPlan :=
  (Schema.noOthers given fieldNames
    (RetryPlan.mk <$> Schema.withDefault given "max_attempts" usualAttempts Schema.integer <*>
      Schema.withDefault given "delay_ms" usualDelayMs
        (fun v => (Schema.integerFrom 0 v).map fun i => i.1.toNat) <*>
      Schema.withDefault given "exponential_backoff" true Schema.boolean <*>
      Schema.withDefault given "retry_status_codes" none
        (Schema.optional (Schema.tuple Schema.integer)))).orReject title

/-! ### Requests -/

/-- A target: a text that is not blank and has an encoding. -/
def Target.check (v : Value) : Checked Target :=
  (Schema.properText v).andThen fun t =>
    if h : Text.isBlank t.1 = false then .fits ⟨t.1, h, t.2.2⟩
    else .fault (.rule "url must not be blank")

/-- A method, by its name in any letter case. -/
def Method.check (v : Value) : Checked Method :=
  match v with
  | .string t =>
    match ofName? (Text.upper t) with
    | some m => .fits m
    | none => .fault (.notOneOf (all.map name))
  | _ => .fault (.notOneOf (all.map name))

/-- A mapping from text to text. -/
def TextMap.check (v : Value) : Checked TextMap :=
  (Schema.mapping Schema.text v).map TextMap.ofPairs

/-- A timeout. -/
def Timeout.check (v : Value) : Checked Timeout :=
  (Schema.integerWithin least greatest v).map fun i => ofInt i.1 i.2

/-- The structured body of a value; a null is no body. -/
def Body.ofValue? : Value → Option Body
  | .null => none
  | v => some (.structured v)

/-- The raw body of a value. -/
def Body.ofRaw (v : Value) : Except Rejection Body :=
  (Checked.map Body.raw ((Schema.text v).under "text")).orReject rawTitle

/-- The value of a field that holds a model made from a mapping. -/
def modelField (title : String) (make : Members → Except Rejection α) (given : Members)
    (name : String) : Except Rejection (Checked (Option α)) :=
  match given.get? (Text.ofString name) with
  | some (.object members) => (make members).map fun a => .fits (some a)
  | some .null => .ok (.fits none)
  | some _ => .ok ((Checked.fault (.notAModel title)).under (Text.ofString name))
  | none => .ok (.fits none)

/-- The names of the fields of a request. -/
def RequestSpec.fieldNames : List String :=
  ["url", "method", "headers", "query", "body", "raw_json_body", "body_raw", "content_type",
   "timeout_seconds", "ignore_certificate_errors", "follow_redirects", "auth", "retry"]

/-- The request description with the given fields. A field `raw_json_body` holds the text of a
raw JSON body and takes the place of `body`. -/
def RequestSpec.ofFields (given : Members) : Except Rejection RequestSpec := do
  let body ← match given.get? "raw_json_body" with
    | some v => (Body.ofRaw v).map some
    | none => .ok ((given.get? "body").bind Body.ofValue?)
  let credential ← modelField Credential.title Credential.ofFields given "auth"
  let retry ← modelField RetryPlan.title RetryPlan.ofFields given "retry"
  (Schema.noOthers given fieldNames
    (RequestSpec.mk <$> Schema.required given "url" Target.check <*>
      Schema.withDefault given "method" Method.usual Method.check <*>
      Schema.withDefault given "headers" .empty TextMap.check <*>
      Schema.withDefault given "query" .empty TextMap.check <*>
      .fits body <*>
      Schema.withDefault given "body_raw" none (Schema.optional Schema.text) <*>
      Schema.withDefault given "content_type" usualContentType Schema.text <*>
      Schema.withDefault given "timeout_seconds" Timeout.usual Timeout.check <*>
      Schema.withDefault given "ignore_certificate_errors" false Schema.boolean <*>
      Schema.withDefault given "follow_redirects" true Schema.boolean <*>
      credential <*> retry)).orReject title

/-- The rejection of a new value for a field of a finished model. -/
def frozenField (title : String) (name : Text) : Rejection := ⟨title, [⟨[name], .frozen⟩]⟩

end HttpCourier
