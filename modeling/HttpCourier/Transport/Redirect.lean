import HttpCourier.Transport.Cookie
import HttpCourier.Transport.Reply
import HttpCourier.Url.Join

/-!
# HttpCourier.Transport.Redirect

**The request that a redirect leads to.** A redirect is a response with one of five statuses and
a `Location`. The next request goes to that place, read at the URL of the request before it.

* "See other" and, as is usual, "found" turn any method but `HEAD` into `GET`, and "moved
  permanently" turns `POST` into it. A request that has become a `GET` has no content.
* Credentials in `Authorization` go to no other origin, unless it is the same host on its secure
  port.
* Cookies are those of the client, whatever the request before had.
-/

namespace HttpCourier

open Url (Locator LocatorError)
open Wire (Fields Message)

namespace Fault

/-- A text is no URL that can be joined with another. -/
def ofSplit (e : Url.SplitError) : Fault := ofKind "ValueError" (some e.message)

/-- A `Location` is no URL. -/
def badLocation (e : LocatorError) : Fault :=
  ofKind "RemoteProtocolError" (some ("Invalid URL in location header: " ++ e.message ++ "."))

/-- There were too many redirects, one after the other. -/
def tooManyRedirects : Fault :=
  ofKind "TooManyRedirects" (some "Exceeded maximum allowed redirects.")

/-- A URL has no scheme, so that it tells of no site. -/
def noScheme (url : Text) : Fault :=
  ofKind "ValueError" (some ("unknown url type: " ++ Text.quoted url))

/-- A header field is not found under its own name. -/
def lostField (name : Text) : Fault := ofKind "KeyError" (some name)

end Fault

namespace Redirect

/-- The statuses of redirects. -/
def statuses : List Nat := [301, 302, 303, 307, 308]

/-- The place that a redirect names. -/
def location? (r : Reply) : Option Text :=
  if statuses.contains r.status then
    match (r.textFields.filter fun f => f.1 = Text.ofString "location").map Prod.snd with
    | [] => none
    | values => some (Text.join ", " values)
  else none

/-- The method of the next request. -/
def method (status : Nat) (method : Text) : Text :=
  if (status = 303 ∨ status = 302) ∧ method ≠ Text.ofString "HEAD" then "GET"
  else if status = 301 ∧ method = Text.ofString "POST" then "GET"
  else method

/-- The fragment of a URL that is carried over to one that has none. -/
def withFragment (source target : Locator) : Except EncodeError Locator :=
  let carried := Url.percentDecode (source.fragment.getD [])
  if carried = [] ∨ Url.percentDecode (target.fragment.getD []) ≠ [] then .ok target
  else (Url.percentEncode Url.inFragment carried).map fun f => { target with fragment := some f }

/-- The URL of the next request. -/
def target (source : Locator) (location : Text) : Except Fault Locator := do
  let named ← (Locator.ofText location).mapError Fault.badLocation
  let named := if named.scheme ≠ [] ∧ named.host = [] then { named with host := source.host } else named
  (Url.checkPath named.path (named.scheme ≠ []) (named.authority ≠ [])).mapError Fault.ofLocator
  let absolute ←
    if named.scheme ≠ [] ∧ named.host ≠ [] then pure named
    else do
      let joined ← (Url.join source.text named.text).mapError Fault.ofSplit
      (Locator.ofText joined).mapError Fault.ofLocator
  (withFragment source absolute).mapError Fault.unencodable

/-- Whether a URL is the same host's on the usual secure port, seen from the usual plain one. -/
def isUpgrade (source target : Locator) : Bool :=
  source.host = target.host && source.scheme = Text.ofString "http" &&
    source.effectivePort? = some 80 && target.scheme = Text.ofString "https" &&
    target.effectivePort? = some 443

/-- The header fields of the next request, cookies left out. -/
def fields (source target : Locator) (losesContent : Bool) (f : Fields) : Fields :=
  let f :=
    if Locator.sameOrigin target source then f
    else
      (if isUpgrade source target then f else f.eraseKey (Fields.asciiName "authorization")).setBytes
        Wire.hostName (Wire.asciiBytes target.hostAndPort)
  let f :=
    if losesContent then
      (f.eraseKey (Fields.asciiName "content-length")).eraseKey (Fields.asciiName "transfer-encoding")
    else f
  f.eraseKey (Fields.asciiName "cookie")

/-- The name of the field with the cookies of a request. -/
def cookieName : Text := "Cookie"

/-- The header fields with a jar's cookies for a site, as they are at some moment. -/
def withCookies (now : ClockFace) (site : Site) (jar : Cookie.Jar) (f : Fields) :
    Except EncodeError Fields :=
  match Cookie.Jar.field? now site jar with
  | none => .ok f
  | some text => f.settle.set cookieName text

/-- Whether the text of a URL has what looks like a scheme, which ends at the first colon before
any slash. -/
def showsScheme (url : Text) : Bool :=
  match url.dropWhile fun (c : CodePoint) => c != ':' && c != '/' with
  | c :: _ => c = CodePoint.ofChar ':' && url.head? != some (CodePoint.ofChar ':')
  | [] => false

/-- The site of a request, which must have a scheme, and fields that can be looked up. -/
def siteOf (m : Message) : Except Fault Site := do
  let _ ← m.fields.items.mapError Fault.lostField
  if showsScheme m.url.text then return Site.ofLocator m.url else throw (.noScheme m.url.text)

/-- The cookies of a client after a response to a request that comes at some moment. -/
def receive (now : ClockFace) (m : Message) (r : Reply) (jar : Cookie.Jar) :
    Except Fault Cookie.Jar :=
  (siteOf m).map fun site =>
    let offered := (r.textFields.filter fun f => f.1 = Text.ofString "set-cookie").map Prod.snd
    jar.receive now site offered

/-- The request that follows on a redirect, which comes at some moment. -/
def follow (now : ClockFace) (m : Message) (r : Reply) (location : Text) (jar : Cookie.Jar) :
    Except Fault Message := do
  let method := method r.status m.method
  let url ← target m.url location
  let losesContent := method ≠ m.method ∧ method = Text.ofString "GET"
  let plain : Message := ⟨method, url, fields m.url url losesContent m.fields.reopened, m.content⟩
  let fields ← if jar.isEmpty then pure plain.fields else do
    let site ← siteOf plain
    (withCookies now site jar plain.fields).mapError Fault.unencodable
  if losesContent then return Message.complete method url fields.reopened []
  else return ⟨method, url, fields.reopened, m.content⟩

end Redirect

end HttpCourier
