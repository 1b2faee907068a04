import HttpCourier.Credential.Application
import HttpCourier.Json.Printer
import HttpCourier.Wire.Fields

/-!
# HttpCourier.Wire.Outgoing

**The request that a description asks for**, before it is put on the wire. Query parameters go
to the end of the URL, then the credential to its place, then the content is encoded, and last
the configured headers are sorted into those that describe the content and all others.

* A header of the second kind does not displace what the credential has set.
* The content's own type is authoritative: a configured `Content-Type` is passed over where
  there is content.
-/

namespace HttpCourier.Wire

/-- A request with its headers sorted. Those that describe the content are sent only if there
is content. -/
structure Outgoing where
  method : Method
  url : Text
  timeoutSeconds : Nat
  headers : Fields
  contentHeaders : Fields
  content : Option Bytes
  deriving DecidableEq

/-- Why a description gives no request. -/
inductive BuildFault where
  | unencodable (e : EncodeError)
  | body (fault : Json.BodyFault)
  deriving DecidableEq, Repr

/-- The wording of a fault. -/
def BuildFault.message : BuildFault → Text
  | unencodable e => e.message
  | body fault => fault.message

/-- The names of the headers that describe content, in lower case. -/
def contentHeaderNames : List String :=
  ["content-type", "content-length", "content-encoding", "content-language",
   "content-location", "content-md5", "content-range", "content-disposition"]

/-- Whether a name in lower case is that of a header that describes content. -/
def isContentHeader (lowered : Text) : Bool := (contentHeaderNames.map Text.ofString).contains lowered

/-- The name of the header that gives the type of the content. -/
def contentTypeName : Text := "Content-Type"

/-- That name in lower case. -/
def contentTypeKey : Text := "content-type"

/-- The type of content that is a JSON value. -/
def jsonContentType : Text := "application/json"

/-- The content type with a charset. -/
def withCharset (contentType : Text) : Text :=
  if Text.hasBlock (Text.lower contentType) "charset=" then contentType
  else contentType ++ "; charset=utf-8"

/-- The JSON text of a body. -/
def bodyText : Body → Except Json.BodyFault Text
  | .structured v => Json.bodyText v
  | .raw t => .ok t

/-- The text of the content and its type. -/
def contentOf (r : RequestSpec) : Except BuildFault (Option (Text × Text)) :=
  match r.body, Credential.given? r.bodyRaw with
  | some body, _ => ((bodyText body).mapError .body).map fun t => some (t, jsonContentType)
  | none, some t => .ok (some (t, r.contentType))
  | none, none => .ok none

/-- The headers and the URL with a credential in its place. -/
def placeCredential (c : Option Credential) (headers : Fields) (url : Text) :
    Except EncodeError (Fields × Text) :=
  match c with
  | none => .ok (headers, url)
  | some c => c.applyTo Fields.set headers url

/-- The request with a configured header. -/
def Outgoing.addHeader (o : Outgoing) (header : Text × Text) : Except EncodeError Outgoing := do
  let (name, value) := header
  let lowered := Text.lower name
  if isContentHeader lowered then
    if lowered = contentTypeKey then
      let contentHeaders := o.contentHeaders.settle
      if contentHeaders.hasName "content-type" then return { o with contentHeaders }
      else return { o with contentHeaders := ← contentHeaders.set name value }
    else return { o with contentHeaders := ← o.contentHeaders.set name value }
  else
    let headers := o.headers.settle
    if ← headers.has name then return { o with headers }
    else return { o with headers := ← headers.set name value }

/-- The request that a description asks for. -/
def Outgoing.ofSpec (r : RequestSpec) : Except BuildFault Outgoing := do
  let url ← (Url.appendParameters r.target.text r.query).mapError .unencodable
  let (headers, url) ← (placeCredential r.credential .empty url).mapError .unencodable
  let bare : Outgoing := ⟨r.method, url, r.timeout.seconds, headers, .empty, none⟩
  let filled ← match ← contentOf r with
    | none => pure bare
    | some (text, contentType) => do
      let content ← (text.encode .utf8).mapError .unencodable
      let contentHeaders ←
        (Fields.empty.set contentTypeName (withCharset contentType)).mapError .unencodable
      pure { bare with content := some content, contentHeaders }
  (r.headers.entries.foldlM Outgoing.addHeader filled).mapError .unencodable

end HttpCourier.Wire
