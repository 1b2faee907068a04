import HttpCourier.Text.Blank
import HttpCourier.Text.Case
import HttpCourier.Text.Quoted
import HttpCourier.Url.Address
import HttpCourier.Url.Form
import HttpCourier.Url.Hostname

/-!
# HttpCourier.Url.Locator

**A URL in the form in which it goes out**: the scheme and the host in lower case, the usual
port left out, dot segments of the path resolved, and whatever a part cannot hold
percent-encoded. What is no URL is refused.

A `Locator` may lack a scheme or a host: a redirect can name a place relative to another one.
-/

namespace HttpCourier.Url

/-- A URL in its outgoing form. -/
structure Locator where
  scheme : Text
  userinfo : Text
  host : Text
  port : Option Int
  path : Text
  query : Option Text
  fragment : Option Text
  deriving DecidableEq, Repr

/-- Why a text is no URL. -/
inductive LocatorError where
  | tooLong
  | unprintable (c : CodePoint) (position : Nat)
  | badPort (port : Text)
  | badIPv4 (host : Text)
  | badIPv6 (host : Text)
  | badHostname (host : Text)
  | pathNotRooted
  | doubleSlash
  | leadingColon
  | unencodable (e : EncodeError)
  deriving DecidableEq, Repr

/-- The wording of an error. -/
def LocatorError.message : LocatorError → Text
  | tooLong => "URL too long"
  | unprintable c position =>
    "Invalid non-printable ASCII character in URL, " ++ Text.quoted [c] ++ " at position " ++
      Text.ofNat position ++ "."
  | badPort port => "Invalid port: " ++ Text.quoted port
  | badIPv4 host => "Invalid IPv4 address: " ++ Text.quoted host
  | badIPv6 host => "Invalid IPv6 address: " ++ Text.quoted host
  | badHostname host => "Invalid IDNA hostname: " ++ Text.quoted host
  | pathNotRooted => "For absolute URLs, path must be empty or begin with '/'"
  | doubleSlash => "Relative URLs cannot have a path starting with '//'"
  | leadingColon => "Relative URLs cannot have a path starting with ':'"
  | unencodable e => e.message

/-- The greatest length of a URL. -/
def maxLength : Nat := 65536

/-! ### Percent-encoding -/

/-- Whether a code point is among those of a string. -/
def isOneOf (letters : String) (c : CodePoint) : Bool :=
  (Text.ofString letters).contains c

/-- Whether the code point is printable ASCII, the space left out. -/
def isVisible (c : CodePoint) : Bool := 0x20 < c.val && c.val < 0x7F

/-- What a query can hold. -/
def inQuery (c : CodePoint) : Bool := isVisible c && !isOneOf "\"#<>" c

/-- What a fragment can hold. -/
def inFragment (c : CodePoint) : Bool := isVisible c && !isOneOf "\"<>`" c

/-- What a path can hold. -/
def inPath (c : CodePoint) : Bool := inQuery c && !isOneOf "?`\x7b\x7d" c

/-- What user information can hold. -/
def inUserinfo (c : CodePoint) : Bool := inPath c && !isOneOf "/;=@[\\]^|" c

/-- What a host name can hold. -/
def inHost (c : CodePoint) : Bool :=
  c.isLetter || c.isDigit || isOneOf "-._~!$&'()*+,;=\"`\x7b\x7d%|\\" c

/-- The text with what a part cannot hold percent-encoded. -/
def percentEncode (holds : CodePoint → Bool) : Text → Except EncodeError Text
  | [] => .ok []
  | c :: rest => do
    let head ←
      if holds c then pure [c]
      else (Text.encode .utf8 [c]).map fun bytes => bytes.flatMap percentEscape
    let tail ← percentEncode holds rest
    return head ++ tail

/-- The byte of a percent escape that starts with `c`. -/
def escapeValue? (c : CodePoint) (rest : Text) : Option Nat :=
  match rest with
  | a :: b :: _ =>
    if c = '%' then do
      let x ← a.hexValue?
      let y ← b.hexValue?
      some (x * 16 + y)
    else none
  | _ => none

/-- The bytes of a text whose percent escapes are resolved, after `skip` code points that
belong to an escape already read. -/
def unescapedBytes (skip : Nat) : Text → Bytes
  | [] => []
  | c :: rest =>
    match skip with
    | skip + 1 => unescapedBytes skip rest
    | 0 =>
      match escapeValue? c rest with
      | some n => UInt8.ofNat n :: unescapedBytes 2 rest
      | none => Charset.utf8Bytes c.val ++ unescapedBytes 0 rest

/-- A text with its percent escapes resolved. -/
def percentDecode (t : Text) : Text := Text.ofUtf8Lossy (unescapedBytes 0 t)

/-! ### Parts -/

/-- How a text matches four runs of digits with any one code point between two runs: the
states are the positions in the pattern that the part read so far can be at. -/
def dottedStates (states : List Nat) (c : CodePoint) : List Nat :=
  (states.flatMap fun s =>
    (if c.isDigit then [if s % 2 = 0 then s + 1 else s] else []) ++
      (if s % 2 = 1 ∧ s < 7 then [s + 1] else [])).eraseDups

/-- Whether the text looks like four numbers, whatever keeps them apart. -/
def looksLikeIPv4 (t : Text) : Bool := (t.foldl dottedStates [0]).contains 7

/-- The host in its outgoing form; an IPv6 address stands without its brackets. -/
def encodeHost (host : Text) : Except LocatorError Text :=
  if host = [] then .ok []
  else if looksLikeIPv4 host then
    if isIPv4 host then .ok host else .error (.badIPv4 host)
  else if host.head? = some (CodePoint.ofChar '[') ∧ host.getLast? = some (CodePoint.ofChar ']') then
    let address := (host.drop 1).dropLast
    if isIPv6 address then .ok address else .error (.badIPv6 host)
  else if Text.isAscii host then
    (percentEncode inHost (Text.lower host)).mapError .unencodable
  else
    match asciiHostname? (Text.lower host) with
    | some name => .ok name
    | none => .error (.badHostname host)

/-- The port that a scheme uses where none is given. -/
def usualPort? (scheme : Text) : Option Int :=
  [((("ftp" : Text)), (21 : Int)), ("http", 80), ("https", 443), ("ws", 80), ("wss", 443)].lookup
    scheme

/-- The greatest number of digits that are read as a number. -/
def maxDigits : Nat := 4300

/-- The whole number that a text spells, with white space around it and underscores between
digits. A text with too many digits spells none. -/
def wholeNumber? (t : Text) : Option Int :=
  let trimmed := Text.strip t
  let negative := trimmed.head? = some (CodePoint.ofChar '-')
  let digits := if negative ∨ trimmed.head? = some (CodePoint.ofChar '+') then trimmed.drop 1
    else trimmed
  let pieces := Text.splitOn '_' digits
  if pieces.any List.isEmpty || !pieces.all fun p => p.all CodePoint.isDigit then none
  else if maxDigits < pieces.flatten.length then none
  else
    let n : Int := Text.digitsValue pieces.flatten
    some (if negative then -n else n)

/-- The port of a URL with the given scheme, which is left out if it is the usual one. -/
def encodePort (scheme port : Text) : Except LocatorError (Option Int) :=
  if port = [] then .ok none
  else match wholeNumber? port with
    | none => .error (.badPort port)
    | some n => .ok (if usualPort? scheme = some n then none else some n)

/-- One segment more of a path whose dot segments are being resolved. -/
def resolveSegment (done : List Text) (segment : Text) : List Text :=
  if segment = [CodePoint.ofChar '.'] then done
  else if segment = [CodePoint.ofChar '.', CodePoint.ofChar '.'] then
    if done = [[]] then done else done.dropLast
  else done ++ [segment]

/-- The path without dot segments. -/
def resolveDots (path : Text) : Text :=
  let segments := Text.splitOn '/' path
  if segments.any fun s => s = [CodePoint.ofChar '.'] ∨ s = [CodePoint.ofChar '.', CodePoint.ofChar '.']
  then Text.join [CodePoint.ofChar '/'] (segments.foldl resolveSegment [])
  else path

/-- Refuses paths that would be read as something else. -/
def checkPath (path : Text) (hasScheme hasAuthority : Bool) : Except LocatorError Unit := do
  if hasAuthority ∧ path ≠ [] ∧ path.head? ≠ some (CodePoint.ofChar '/') then throw .pathNotRooted
  if !hasScheme && !hasAuthority then
    if Text.startsWith path "//" then throw .doubleSlash
    if Text.startsWith path ":" then throw .leadingColon

/-- The parts of a URL as they are written. -/
structure RawParts where
  scheme : Text
  userinfo : Text
  host : Text
  port : Text
  path : Text
  query : Option Text
  fragment : Option Text

/-- The user information, the host and the port of an authority. -/
def splitAuthority (authority : Text) : Text × Text × Text :=
  let (userinfo, rest) := (Text.splitLast? '@' authority).getD ([], authority)
  let (host, rest) :=
    match rest.head? == some (CodePoint.ofChar '['), Text.splitLast? ']' rest with
    | true, some (before, after) => (before ++ [CodePoint.ofChar ']'], after)
    | _, _ => Text.breakAt (· = CodePoint.ofChar ':') rest
  (userinfo, host, if rest.head? = some (CodePoint.ofChar ':') then rest.drop 1 else rest)

/-- The parts of the text of a URL. -/
def rawParts (t : Text) : RawParts :=
  let (scheme, rest) :=
    match Text.splitFirst? ':' t with
    | some (s, rest) =>
      if s.all (fun c => c.isLetter || c.isDigit || isOneOf "+.-" c) ∧
          (s = [] ∨ (s.head?.any CodePoint.isLetter))
      then (s, rest) else ([], t)
    | none => ([], t)
  let (authority, rest) :=
    if Text.startsWith rest "//" then
      Text.breakAt (fun c => c = CodePoint.ofChar '/' || c = CodePoint.ofChar '?' ||
        c = CodePoint.ofChar '#') (rest.drop 2)
    else ([], rest)
  let (path, rest) :=
    Text.breakAt (fun c => c = CodePoint.ofChar '?' || c = CodePoint.ofChar '#') rest
  let (query, rest) :=
    if rest.head? = some (CodePoint.ofChar '?') then
      let (q, rest) := Text.breakAt (· = CodePoint.ofChar '#') (rest.drop 1)
      (some q, rest)
    else (none, rest)
  let fragment := if rest = [] then none else some (rest.drop 1)
  let (userinfo, host, port) := splitAuthority authority
  ⟨scheme, userinfo, host, port, path, query, fragment⟩

namespace Locator

/-- The locator of parts as they are written. -/
def ofParts (p : RawParts) : Except LocatorError Locator := do
  let userinfo ← (percentEncode inUserinfo p.userinfo).mapError .unencodable
  let host ← encodeHost p.host
  let port ← encodePort p.scheme p.port
  let scheme := Text.lower p.scheme
  let hasScheme := scheme ≠ []
  let hasAuthority := userinfo ≠ [] ∨ host ≠ [] ∨ port.isSome
  checkPath p.path hasScheme hasAuthority
  let path := if hasScheme ∨ hasAuthority then resolveDots p.path else p.path
  let path ← (percentEncode inPath path).mapError .unencodable
  let query ← p.query.mapM fun q => (percentEncode inQuery q).mapError .unencodable
  let fragment ← p.fragment.mapM fun f => (percentEncode inFragment f).mapError .unencodable
  return ⟨scheme, userinfo, host, port, path, query, fragment⟩

/-- Refuses a text with a control character, or one that is too long. -/
def checkText (t : Text) : Except LocatorError Unit := do
  if maxLength < t.length then throw .tooLong
  match t.dropWhile fun c => 0x20 ≤ c.val && c.val != 0x7F with
  | [] => return ()
  | c :: rest => throw (.unprintable c (t.length - (rest.length + 1)))

/-- The locator of the text of a URL. -/
def ofText (t : Text) : Except LocatorError Locator := do
  checkText t
  ofParts (rawParts t)

/-- The host as it stands in an authority, an IPv6 address in brackets. -/
def bracketedHost (l : Locator) : Text :=
  if l.host.contains (CodePoint.ofChar ':') then
    [CodePoint.ofChar '['] ++ l.host ++ [CodePoint.ofChar ']']
  else l.host

/-- The port behind a colon, where one is written. -/
def portText (l : Locator) : Text :=
  match l.port with
  | some p => CodePoint.ofChar ':' :: Text.ofInt p
  | none => []

/-- The host and the port, as a `Host` field has them. -/
def hostAndPort (l : Locator) : Text := l.bracketedHost ++ l.portText

/-- The authority. -/
def authority (l : Locator) : Text :=
  (if l.userinfo = [] then [] else l.userinfo ++ [CodePoint.ofChar '@']) ++ l.hostAndPort

/-- The text of a locator. -/
def text (l : Locator) : Text :=
  (if l.scheme = [] then [] else l.scheme ++ [CodePoint.ofChar ':']) ++
    (if l.authority = [] then [] else Text.ofString "//" ++ l.authority) ++ l.path ++
    (match l.query with
      | some q => CodePoint.ofChar '?' :: q
      | none => []) ++
    (match l.fragment with
      | some f => CodePoint.ofChar '#' :: f
      | none => [])

/-- The user name and the password of the user information. -/
def userAndPassword (l : Locator) : Text × Text :=
  match Text.splitFirst? ':' l.userinfo with
  | some (user, password) => (percentDecode user, percentDecode password)
  | none => (percentDecode l.userinfo, [])

/-- The port in use, written or not. -/
def effectivePort? (l : Locator) : Option Int :=
  match l.port with
  | some p => some p
  | none => ([(("http" : Text), (80 : Int)), ("https", 443)]).lookup l.scheme

/-- Whether two locators have the same scheme, host and port. -/
def sameOrigin (a b : Locator) : Bool :=
  a.scheme = b.scheme && a.host = b.host && a.effectivePort? = b.effectivePort?

end Locator

end HttpCourier.Url
