import HttpCourier.Time
import HttpCourier.Transport.Expiry

/-!
# HttpCourier.Transport.Cookie

**Cookies**, as a client keeps them between requests. A response sets cookies with `Set-Cookie`
fields; a cookie is bound to a domain and a path, and goes with later requests to places that
match both.

* A cookie without a domain is bound to the host that set it, and goes to hosts under it too.
* A cookie without a path is bound to the directory of the request's path.
* A cookie is kept until a time, if it names one or an age. One whose time has run out when it
  arrives takes the one that it would have replaced out of the jar; one whose time runs out later
  stays there, and goes with no request any more.
-/

namespace HttpCourier

/-- What of a request decides about cookies. -/
structure Site where
  /-- The host in lower case; `.local` stands at its end if it has no point. -/
  host : Text
  /-- The port as it is spelled, and `80` where none is. -/
  port : Text
  path : Text
  isSecure : Bool
  deriving DecidableEq, Repr

/-- A cookie in a jar. -/
structure Cookie where
  name : Text
  value : Option Text
  domain : Text
  path : Text
  onlySecure : Bool
  /-- The ports that it goes to, where it is bound to ports at all. -/
  ports : Option (List Text)
  /-- The time at which it runs out, where it does, in seconds from the start of the year 1970. -/
  expires : Option Int
  deriving DecidableEq, Repr

namespace Cookie

/-- The cookies of a client. Those of a domain stand together, and among them those of a path. -/
abbrev Jar := List Cookie

/-! ### Sites -/

/-- Whether a code point stands for itself in the path of a cookie. -/
def inCookiePath (c : CodePoint) : Bool :=
  c.isLetter || c.isDigit || Url.isOneOf "_.-~%/;:@&=+$,!*'()" c

/-- The text with the letters of its percent escapes in upper case, after `skip` code points
that belong to an escape already seen. -/
def upperEscapes (skip : Nat) : Text → Text
  | [] => []
  | c :: rest =>
    match skip with
    | skip + 1 => c.asciiUpper :: upperEscapes skip rest
    | 0 => c :: upperEscapes (if (Url.escapeValue? c rest).isSome then 2 else 0) rest

/-- A path in the form in which paths are compared. -/
def comparablePath (t : Text) : Text :=
  upperEscapes 0 (t.flatMap fun c =>
    if inCookiePath c then [c] else (Charset.utf8Bytes c.val).flatMap Url.percentEscape)

/-- The authority without a port at its end. -/
def withoutPort (authority : Text) : Text :=
  match Text.splitLast? ':' authority with
  | some (host, port) => if port ≠ [] ∧ port.all CodePoint.isDigit then host else authority
  | none => authority

/-- The port that an authority spells, taken from behind its first colon. -/
def spelledPort (authority : Text) : Text :=
  match Text.splitFirst? ':' authority with
  | some (_, port) => if (Url.wholeNumber? port).isSome then port else "80"
  | none => "80"

end Cookie

/-- The site of a URL. -/
def Site.ofLocator (l : Url.Locator) : Site :=
  let host := Text.lower (Cookie.withoutPort l.authority)
  let path := Cookie.comparablePath l.path
  ⟨if host.contains (CodePoint.ofChar '.') then host else host ++ Text.ofString ".local",
    Cookie.spelledPort l.authority,
    if path.head? = some (CodePoint.ofChar '/') then path else CodePoint.ofChar '/' :: path,
    l.scheme = "https" || l.scheme = "wss"⟩

namespace Cookie

/-! ### Reading `Set-Cookie` -/

/-- The attributes of a cookie that is being set. -/
structure Attributes where
  domain : Option Text
  path : Option Text
  /-- The port, where the attribute is there; it may lack a value. -/
  port : Option (Option Text)
  onlySecure : Option Bool
  /-- The version, where the attribute is there; it may be no number. -/
  version : Option (Option Int)
  /-- The seconds at which the cookie runs out, by the last attribute that says so. -/
  expires : Option Int
  /-- Whether an age was given, which counts more than a date. -/
  hasAge : Bool

/-- No attributes. -/
def Attributes.empty : Attributes := ⟨none, none, none, none, none, none, false⟩

/-- What is wrong with an attribute. -/
inductive Flaw where
  /-- The cookie is not set. -/
  | spoilsCookie
  /-- None of the cookies of the response is set. -/
  | spoilsAll
  deriving DecidableEq, Repr

/-- The value of an attribute that cannot do without. -/
def valueOf (value : Option Text) : Except Flaw Text :=
  match value with
  | some v => .ok v
  | none => .error .spoilsCookie

/-- A text without quotation marks around it. -/
def unquoted (t : Text) : Text :=
  let t := if t.head? = some (CodePoint.ofChar '"') then t.drop 1 else t
  if t.getLast? = some (CodePoint.ofChar '"') then t.dropLast else t

/-- What the value of an attribute says about the time until which a cookie is kept. -/
def expiry (thisYear : Nat) (value : Option Text) : Expiry.Term :=
  match value with
  | some v => Expiry.read thisYear (unquoted v)
  | none => .silent

/-- Whether an attribute is a date that cannot be read at all. -/
def isUnreadableDate (thisYear : Nat) (p : Text × Option Text) : Bool :=
  Text.lower p.1 = "expires" && expiry thisYear p.2 = .unreadable

/-- The attributes with one more, at some moment. The first of several counts, but for ages. -/
def Attributes.add (now : ClockFace) (a : Attributes) (name : Text) (value : Option Text) :
    Except Flaw Attributes :=
  if name = "domain" then
    if a.domain.isSome then .ok a
    else (valueOf value).map fun v => { a with domain := some (Text.lower v) }
  else if name = "path" then
    if a.path.isSome then .ok a else (valueOf value).map fun v => { a with path := some v }
  else if name = "port" then
    .ok { a with port := some (a.port.getD value) }
  else if name = "secure" then
    .ok { a with onlySecure := some (a.onlySecure.getD (value ≠ some [])) }
  else if name = "version" then
    if a.version.isSome then .ok a
    else (valueOf value).map fun v => { a with version := some (Url.wholeNumber? (unquoted v)) }
  else if name = "max-age" then
    match value with
    | none => .error .spoilsAll
    | some v =>
      match Url.wholeNumber? v with
      | some n => .ok { a with expires := some (now.seconds + n), hasAge := true }
      | none => .error .spoilsCookie
  else if name = "expires" then
    match expiry now.year value with
    | .seconds n =>
      if a.hasAge || a.expires.isSome then .ok a else .ok { a with expires := some n }
    | _ => .ok a
  else .ok a

/-- The name and the value of one part of a `Set-Cookie` field. -/
def part (t : Text) : Text × Option Text :=
  match Text.splitFirst? '=' (Text.strip t) with
  | some (name, value) => (Text.strip name, some (Text.strip value))
  | none => (Text.strip t, none)

/-- The path that a cookie without one is bound to. -/
def usualPath (site : Site) (version : Int) : Text :=
  let directory := match Text.splitLast? '/' site.path with
    | some (directory, _) =>
      if version = 0 then directory else directory ++ [CodePoint.ofChar '/']
    | none => site.path
  if directory = [] then [CodePoint.ofChar '/'] else directory

/-- A domain with a point in front. -/
def dotted (domain : Text) : Text :=
  if domain.head? = some (CodePoint.ofChar '.') ∨ domain = [] then domain
  else CodePoint.ofChar '.' :: domain

/-- Whether a text ends in another. -/
def endsWith (t tail : Text) : Bool := tail.isSuffixOf t

/-- The ports of an attribute that lists them. -/
def portList (t : Text) : List Text :=
  Text.splitOn ',' (t.filter fun c => !c.isBlank)

/-- A number of seconds as it is kept with a cookie, which is a floating-point number made whole. -/
def keptSeconds? (n : Int) : Option Int := (Binary64.ofInt n).toInt?

/-- A cookie that a response sets, its version, whether its time has run out or is too far away to
be kept, and whether it names a domain and ports of its own. -/
structure Offer where
  cookie : Cookie
  version : Int
  isPast : Bool
  isEndless : Bool
  namesDomain : Bool
  namesPorts : Bool

/-- The cookie with the given attributes, in a version, as it is offered at some moment. -/
def Offer.of (now : ClockFace) (site : Site) (name : Text) (value : Option Text) (a : Attributes)
    (version : Int) : Offer :=
  let path := match a.path with
    | some (c :: rest) => comparablePath (c :: rest)
    | _ => usualPath site version
  let domain := match a.domain with
    | some [] => [CodePoint.ofChar '.']
    | some d => dotted d
    | none => site.host
  let ports := match a.port with
    | none => none
    | some none => some [site.port]
    | some (some []) => none
    | some (some t) => some (portList t)
  let isPast := a.expires.any (· ≤ now.seconds)
  ⟨⟨name, value, domain, path, a.onlySecure.getD false, ports, a.expires.bind keptSeconds?⟩, version,
    isPast, !isPast && a.expires.any fun n => (keptSeconds? n).isNone, a.domain.isSome,
    a.port.any Option.isSome⟩

/-- The cookie that a `Set-Cookie` field sets, if it has a name, and a version that is a number. -/
def Offer.ofField (now : ClockFace) (site : Site) (field : Text) : Except Flaw (Option Offer) :=
  match (Text.splitOn ';' field).map part with
  | [] => .ok none
  | (name, value) :: attributes =>
    if name = [] then .ok none
    else if attributes.any (isUnreadableDate now.year) then .error .spoilsAll
    else do
      let a ← (attributes.filter fun p => p.1 ≠ []).foldlM
        (fun a p => a.add now (Text.lower p.1) p.2) Attributes.empty
      return (a.version.getD (some 0)).map (Offer.of now site name value a)

/-- The cookies that the `Set-Cookie` fields of a response set. -/
def offers (now : ClockFace) (site : Site) (fields : List Text) : List Offer :=
  let made := fields.map (Offer.ofField now site)
  if made.any fun m => m matches .error .spoilsAll then []
  else made.filterMap fun m => match m with
    | .ok offer => offer
    | .error _ => none

/-- Whether a site may set a cookie for the ports that the cookie names: its own port is among
them, and no other word than a number stands before it. -/
def Offer.fitsPort (site : Site) (o : Offer) : Bool :=
  !o.namesPorts ||
    ((o.cookie.ports.getD [[]]).find? fun p => (Url.wholeNumber? p).isNone || p = site.port)
      = some site.port

/-- Whether the cookie is of one of the two known versions. -/
def Offer.isKnown (o : Offer) : Bool := o.version == 0 || o.version == 1

/-- Whether a site may set a cookie for the domain that the cookie names. -/
def Offer.isAllowed (site : Site) (o : Offer) : Bool :=
  !o.namesDomain ||
    (let domain := o.cookie.domain
     let bare := domain.drop 1
     (bare.contains (CodePoint.ofChar '.') || endsWith site.host ".local") &&
      (endsWith site.host domain || endsWith site.host (bare ++ Text.ofString ".local") ||
        site.host.head? = some (CodePoint.ofChar '.') ||
        endsWith (CodePoint.ofChar '.' :: site.host) domain))

/-! ### Jars -/

/-- Whether two cookies are bound to the same domain and path and have the same name. -/
def replaces (a b : Cookie) : Bool := a.domain = b.domain && a.path = b.path && a.name = b.name

namespace Jar

/-- The jar without the cookie that another would replace. -/
def remove (c : Cookie) (jar : Jar) : Jar := jar.filter fun d => !c.replaces d

/-- The jar with a cookie put behind the last one for which `p` holds, or at the end. -/
def putBehind (p : Cookie → Bool) (c : Cookie) : Jar → Jar
  | [] => [c]
  | d :: rest =>
    if p d && !rest.any p then d :: c :: rest else d :: putBehind p c rest

/-- The jar with a cookie, which takes the place of the one it replaces. -/
def put (c : Cookie) (jar : Jar) : Jar :=
  if jar.any c.replaces then jar.map fun d => if c.replaces d then c else d
  else if jar.any fun d => d.domain = c.domain && d.path = c.path then
    putBehind (fun d => d.domain = c.domain && d.path = c.path) c jar
  else putBehind (fun d => d.domain = c.domain) c jar

/-- The jar after a response with the given `Set-Cookie` fields, which comes at some moment. A
cookie whose time is too far away ends the reading, and then no cookie is put in. -/
def receive (now : ClockFace) (site : Site) (fields : List Text) (jar : Jar) : Jar :=
  let offers := offers now site fields
  let read := offers.takeWhile fun o => !o.isEndless
  let jar := (read.filter Offer.isPast).foldl (fun jar o => remove o.cookie jar) jar
  if offers.any Offer.isEndless then jar
  else
    (offers.filter fun o => !o.isPast && o.isKnown && o.isAllowed site && o.fitsPort site).foldl
      (fun jar o => put o.cookie jar) jar

end Jar

/-- Whether a path is, or lies under, the path of a cookie. -/
def coversPath (cookiePath path : Text) : Bool :=
  path = cookiePath ||
    (Text.startsWith path cookiePath &&
      (cookiePath.getLast? = some (CodePoint.ofChar '/') ||
        (path.drop cookiePath.length).head? = some (CodePoint.ofChar '/')))

/-- Whether the time of a cookie has run out. -/
def isPast (now : ClockFace) (c : Cookie) : Bool := c.expires.any (· ≤ now.seconds)

/-- Whether a cookie goes with a request to a site that is made at some moment. -/
def goesTo (now : ClockFace) (site : Site) (c : Cookie) : Bool :=
  endsWith (CodePoint.ofChar '.' :: site.host) (dotted c.domain) && coversPath c.path site.path &&
    (site.isSecure || !c.onlySecure) && (c.ports.all fun ports => ports.contains site.port) &&
    !c.isPast now

/-- A cookie in a `Cookie` field. -/
def text (c : Cookie) : Text :=
  match c.value with
  | some v => c.name ++ [CodePoint.ofChar '='] ++ v
  | none => c.name

/-- The `Cookie` field of a request to a site: the cookies of longer paths come first. -/
def Jar.field? (now : ClockFace) (site : Site) (jar : Jar) : Option Text :=
  match (jar.filter (goesTo now site)).mergeSort fun a b => b.path.length ≤ a.path.length with
  | [] => none
  | cookies => some (Text.join "; " (cookies.map text))

end Cookie

end HttpCourier
