import HttpCourier.Text.Blank
import HttpCourier.Text.Case
import HttpCourier.Text.Quoted
import HttpCourier.Url.Address

/-!
# HttpCourier.Url.Split

**A URL taken apart at its delimiters**, with little regard to what the parts hold. Controls and
spaces in front are dropped, and so are tabs and line breaks anywhere. A scheme is recognised
only if it is spelled like one.

Three things are refused: brackets in the authority that do not enclose an address, an address
in brackets that is none, and a host that would bring forth a delimiter when it is normalised.
-/

namespace HttpCourier.Url

/-- The parts of a URL. -/
structure Split where
  scheme : Text
  authority : Text
  path : Text
  query : Text
  fragment : Text
  deriving DecidableEq, Repr

/-- Why a URL cannot be taken apart. -/
inductive SplitError where
  /-- Brackets stand where no address can be. -/
  | misplacedBrackets
  | badFutureAddress
  | bracketedIPv4
  | notAnAddress (host : Text)
  /-- The normal form of the authority has a delimiter that the authority has not. -/
  | hiddenDelimiter (authority : Text)
  deriving DecidableEq, Repr

/-- The wording of an error. -/
def SplitError.message : SplitError → Text
  | misplacedBrackets => "Invalid IPv6 URL"
  | badFutureAddress => "IPvFuture address is invalid"
  | bracketedIPv4 => "An IPv4 address cannot be in brackets"
  | notAnAddress host => Text.quoted host ++ " does not appear to be an IPv4 or IPv6 address"
  | hiddenDelimiter authority =>
    "netloc '" ++ authority ++ "' contains invalid characters under NFKC normalization"

/-- Ranges of the code points whose compatibility form has one of the delimiters
`/`, `?`, `#`, `@` and `:`. -/
def hiddenDelimiterRanges : List (Nat × Nat) :=
  [(0x2047, 0x2049), (0x2100, 0x2101), (0x2105, 0x2106), (0x2A74, 0x2A74), (0xFE13, 0xFE13),
   (0xFE16, 0xFE16), (0xFE55, 0xFE56), (0xFE5F, 0xFE5F), (0xFE6B, 0xFE6B), (0xFF03, 0xFF03),
   (0xFF0F, 0xFF0F), (0xFF1A, 0xFF1A), (0xFF1F, 0xFF20)]

/-- Whether the compatibility form of the code point has a delimiter. -/
def hidesDelimiter (c : CodePoint) : Bool := c.inRanges hiddenDelimiterRanges

/-- Whether a scheme may hold the code point. -/
def isSchemeLetter (c : CodePoint) : Bool :=
  c.isLetter || c.isDigit || c = '+' || c = '-' || c = '.'

/-- The scheme of a URL in lower case, and what follows its colon. -/
def splitScheme (t : Text) : Text × Text :=
  match Text.splitFirst? ':' t with
  | none => ([], t)
  | some (scheme, rest) =>
    match scheme with
    | c :: _ =>
      if c.isLetter && scheme.all isSchemeLetter then (Text.lower scheme, rest) else ([], t)
    | [] => ([], t)

/-- Whether the code point ends an authority. -/
def endsAuthority (c : CodePoint) : Bool := c = '/' || c = '?' || c = '#'

/-- The address that stands in brackets, or would. -/
def bracketedHost (authority : Text) : Except SplitError Text :=
  let hostAndPort := match Text.splitLast? '@' authority with
    | some (_, rest) => rest
    | none => authority
  match Text.splitFirst? '[' hostAndPort with
  | some (before, bracketed) =>
    if before ≠ [] then .error .misplacedBrackets
    else
      match Text.splitFirst? ']' bracketed with
      | some (host, port) =>
        if port ≠ [] ∧ port.head? ≠ some (CodePoint.ofChar ':') then .error .misplacedBrackets
        else .ok host
      | none => .ok bracketed
  | none =>
    match Text.splitFirst? ':' hostAndPort with
    | some (host, _) => .ok host
    | none => .ok hostAndPort

/-- Whether the text is an address of a future version: `v`, hexadecimal digits, a point, and
anything. -/
def isFutureAddress (t : Text) : Bool :=
  match t with
  | [] => false
  | _ :: rest =>
    let (version, tail) := Text.breakAt (fun c => c.hexValue?.isNone) rest
    !version.isEmpty && tail.head? = some (CodePoint.ofChar '.') && 2 ≤ tail.length

/-- Refuses what is no address to stand in brackets. -/
def checkBracketedHost (host : Text) : Except SplitError Unit :=
  if host.head? = some (CodePoint.ofChar 'v') then
    if isFutureAddress host then .ok () else .error .badFutureAddress
  else if isIPv4 host then .error .bracketedIPv4
  else if isIPv6 host then .ok ()
  else .error (.notAnAddress host)

/-- Refuses brackets that are not balanced, or hold no address. -/
def checkBrackets (authority : Text) : Except SplitError Unit := do
  let opening := authority.contains (CodePoint.ofChar '[')
  let closing := authority.contains (CodePoint.ofChar ']')
  if opening ≠ closing then throw .misplacedBrackets
  if opening then checkBracketedHost (← bracketedHost authority)

/-- The text behind the first occurrence of a delimiter, and the text before it. -/
def cutAt (delimiter : CodePoint) (t : Text) : Text × Text :=
  match Text.splitFirst? delimiter t with
  | some (before, after) => (before, after)
  | none => (t, [])

/-- Whether the code point is a control or a space, to be dropped in front of a URL. -/
def isLeadingJunk (c : CodePoint) : Bool := c.val ≤ 0x20

/-- Whether the code point is a tab or a line break, to be dropped anywhere. -/
def isBreak (c : CodePoint) : Bool := c = '\t' || c = '\r' || c = '\n'

/-- The parts of a URL. -/
def split (url : Text) : Except SplitError Split := do
  let t := (url.dropWhile isLeadingJunk).filter fun c => !isBreak c
  let (scheme, rest) := splitScheme t
  let (authority, rest) ←
    if Text.startsWith rest "//" then do
      let (authority, rest) := Text.breakAt endsAuthority (rest.drop 2)
      checkBrackets authority
      pure (authority, rest)
    else pure ([], rest)
  let (rest, fragment) := cutAt '#' rest
  let (path, query) := cutAt '?' rest
  if authority.any hidesDelimiter then throw (.hiddenDelimiter authority)
  return ⟨scheme, authority, path, query, fragment⟩

end HttpCourier.Url
