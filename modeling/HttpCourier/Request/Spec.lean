import HttpCourier.Json.Value
import HttpCourier.Request.TextMap
import HttpCourier.Text.Blank
import HttpCourier.Text.Case

/-!
# HttpCourier.Request.Spec

**What a request is to be.** A `RequestSpec` is made once for a call, from a configuration or
field by field, and does not change. Bounds that hold of every request description are part of
the types: a target that is not blank, a timeout between one second and five minutes, a delay
that is not negative.

* The scheme of a `Credential` is kept as it was configured, so that an unknown one can be
  reported; `Credential.scheme?` is its meaning.
* A `RetryPlan` without status codes stands for the usual ones; an empty list stands for none.
-/

namespace HttpCourier

/-- The methods that can be sent. -/
inductive Method where
  | get
  | post
  | put
  | patch
  | delete
  | head
  | options
  deriving DecidableEq, Repr

namespace Method

/-- The methods, in the order in which messages list them. -/
def all : List Method := [get, post, put, patch, delete, head, options]

/-- The method where none is asked for. -/
def usual : Method := get

/-- The name of a method. -/
def name : Method → String
  | get => "GET"
  | post => "POST"
  | put => "PUT"
  | patch => "PATCH"
  | delete => "DELETE"
  | head => "HEAD"
  | options => "OPTIONS"

/-- The method of a name in upper case. -/
def ofName? (t : Text) : Option Method := all.find? fun m => Text.ofString m.name = t

/-- The names of the methods, with commas between them. -/
def listing : String := ", ".intercalate (all.map name)

end Method

/-! ### Credentials -/

/-- The credential schemes that are known. -/
inductive Scheme where
  | basic
  | bearer
  | apiKey
  deriving DecidableEq, Repr

namespace Scheme

/-- The schemes, in the order in which messages list them. -/
def all : List Scheme := [basic, bearer, apiKey]

/-- The configured name of a scheme. -/
def name : Scheme → String
  | basic => "basic"
  | bearer => "bearer"
  | apiKey => "api_key"

end Scheme

/-- The configured name of a credential scheme, which may be unknown. -/
structure SchemeName where
  text : Text
  present : text ≠ []
  scalar : Text.Scalar text
  deriving DecidableEq

/-- The credential of a request. -/
structure Credential where
  kind : SchemeName
  username : Option Text
  password : Option Text
  token : Option Text
  key : Option Text
  keyHeader : Option Text
  keyQueryParam : Option Text
  deriving DecidableEq

namespace Credential

/-- The scheme that the configured name stands for, in any letter case. -/
def scheme? (c : Credential) : Option Scheme :=
  Scheme.all.find? fun s => Text.ofString s.name = Text.lower c.kind.text

end Credential

/-! ### Retries -/

/-- How a request is to be retried. -/
structure RetryPlan where
  /-- How often the request may be sent, the first time included. -/
  maxAttempts : Int
  /-- The wait behind the first attempt. -/
  delayMs : Nat
  /-- Whether the wait doubles from attempt to attempt. -/
  exponential : Bool
  statusCodes : Option (List Int)
  deriving DecidableEq, Repr

namespace RetryPlan

/-- The status codes that are retried where a plan names none. -/
def usualStatusCodes : List Int := [500, 502, 503, 504]

/-- The attempts of a plan that does not say how many. -/
def usualAttempts : Int := 3

/-- The delay of a plan that does not say how long. -/
def usualDelayMs : Nat := 1000

/-- The status codes that lead to a retry. -/
def effectiveStatusCodes (p : RetryPlan) : List Int := p.statusCodes.getD usualStatusCodes

end RetryPlan

/-! ### Requests -/

/-- The body of a request: a value to be written as JSON, or JSON text to be sent as it is. -/
inductive Body where
  | structured (v : Json.Value)
  | raw (t : Text)

/-- The URL that a request is sent to. -/
structure Target where
  text : Text
  present : Text.isBlank text = false
  scalar : Text.Scalar text
  deriving DecidableEq

/-- How many seconds an attempt may take. -/
structure Timeout where
  seconds : Nat
  atLeast : 1 ≤ seconds
  atMost : seconds ≤ 300
  deriving DecidableEq, Repr

namespace Timeout

/-- The least timeout, in seconds. -/
def least : Int := 1

/-- The greatest timeout, in seconds. -/
def greatest : Int := 300

/-- The timeout of an integer within the bounds. -/
def ofInt (i : Int) (h : least ≤ i ∧ i ≤ greatest) : Timeout :=
  ⟨i.toNat, by have := h.1; simp only [least] at this; omega,
    by have := h.2; simp only [greatest] at this; omega⟩

/-- The timeout where none is configured. -/
def usual : Timeout := ⟨30, by decide, by decide⟩

end Timeout

/-- The content type where none is configured. -/
def usualContentType : Text := "application/json"

/-- The description of a request. -/
structure RequestSpec where
  target : Target
  method : Method
  headers : TextMap
  query : TextMap
  /-- The body; it takes precedence over the raw one. -/
  body : Option Body
  /-- Text to be sent as it is. -/
  bodyRaw : Option Text
  contentType : Text
  timeout : Timeout
  ignoreCertificateErrors : Bool
  followRedirects : Bool
  credential : Option Credential
  retry : Option RetryPlan

end HttpCourier
