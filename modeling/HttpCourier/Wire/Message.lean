import HttpCourier.Url.Locator
import HttpCourier.Wire.Outgoing

/-!
# HttpCourier.Wire.Message

**A request as it goes over the wire**: a method, a URL, header fields and content. Two fields
are added where they are missing. `Host` goes in front. `Content-Length` goes to the end where
there is content; where there is none it is zero and goes in front, for the methods that
usually carry content.
-/

namespace HttpCourier.Wire

/-- A request on the wire. -/
structure Message where
  method : Text
  url : Url.Locator
  fields : Fields
  content : Bytes
  deriving DecidableEq

/-- Why a request cannot go over the wire. -/
inductive MessageFault where
  | url (e : Url.LocatorError)
  | unencodable (e : EncodeError)
  deriving DecidableEq, Repr

/-- The wording of a fault. -/
def MessageFault.message : MessageFault → Text
  | url e => e.message
  | unencodable e => e.message

/-- The name of the field that names the host. -/
def hostName : Bytes := Fields.asciiName "Host"

/-- The name of the field that gives the length of the content. -/
def contentLengthName : Bytes := Fields.asciiName "Content-Length"

/-- The bytes of an ASCII text. -/
def asciiBytes (t : Text) : Bytes := Text.bytesIn .ascii t

/-- The fields with the length of the content at the end, if there is any and no length. -/
def withLength (fields : Fields) (content : Bytes) : Fields :=
  if content = [] ∨ fields.hasName "content-length" then fields
  else ⟨fields.entries ++ [(contentLengthName, asciiBytes (Text.ofNat content.length))],
    fields.charset⟩

/-- The methods that usually carry content. -/
def usuallyCarriesContent (method : Text) : Bool :=
  method = "POST" || method = "PUT" || method = "PATCH"

/-- The fields that go in front of the others. -/
def leadingFields (method : Text) (url : Url.Locator) (fields : Fields) : List (Bytes × Bytes) :=
  (if !fields.hasName "host" && url.host != [] then [(hostName, asciiBytes url.hostAndPort)]
    else []) ++
  (if !fields.hasName "content-length" && !fields.hasName "transfer-encoding" &&
      usuallyCarriesContent method
    then [(contentLengthName, Fields.asciiName "0")] else [])

/-- A request with the fields that were missing. -/
def Message.complete (method : Text) (url : Url.Locator) (fields : Fields) (content : Bytes) :
    Message :=
  let fields := withLength fields content
  ⟨method, url, ⟨leadingFields method url fields ++ fields.entries, none⟩, content⟩

namespace Outgoing

/-- All header fields of a request. -/
def allFields (o : Outgoing) : Except EncodeError Fields :=
  match o.content with
  | none => .ok o.headers.reopened
  | some _ => o.headers.reopened.update o.contentHeaders

/-- The request on the wire. -/
def toMessage (o : Outgoing) : Except MessageFault Message := do
  let fields ← o.allFields.mapError .unencodable
  let url ← (Url.Locator.ofText o.url).mapError .url
  return Message.complete o.method.name url fields (o.content.getD [])

end Outgoing

end HttpCourier.Wire
