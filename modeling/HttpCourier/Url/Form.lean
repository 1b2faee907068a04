import HttpCourier.Request.TextMap
import HttpCourier.Text.Encoding

/-!
# HttpCourier.Url.Form

**Form-encoded parameters at the end of a URL.** Letters, digits and `_`, `.`, `-`, `~` stand
for themselves, a space is written as `+`, and any other byte of the UTF-8 text as a percent
sign and two hexadecimal digits.

Parameters follow a `?`, or a `&` where the URL has a question mark already.
-/

namespace HttpCourier.Url

/-- The hexadecimal digits in upper case. -/
def upperHexDigit (n : Nat) : CodePoint :=
  if n < 10 then CodePoint.ofNat (0x30 + n) else CodePoint.ofNat (0x41 + (n - 10))

/-- A byte as a percent escape. -/
def percentEscape (b : UInt8) : Text :=
  [CodePoint.ofChar '%', upperHexDigit (b.toNat / 16), upperHexDigit (b.toNat % 16)]

/-- Whether a byte stands for itself in any part of a URL. -/
def isUnreserved (b : UInt8) : Bool :=
  let c := CodePoint.ofNat b.toNat
  c.isLetter || c.isDigit || c = '_' || c = '.' || c = '-' || c = '~'

/-- A byte in a form-encoded text. -/
def formByte (b : UInt8) : Text :=
  if isUnreserved b then [CodePoint.ofNat b.toNat]
  else if b.toNat = 0x20 then [CodePoint.ofChar '+']
  else percentEscape b

/-- A text, form-encoded. -/
def formEncode (t : Text) : Except EncodeError Text :=
  (t.encode .utf8).map fun bytes => bytes.flatMap formByte

/-- A parameter, form-encoded. -/
def formPair (name value : Text) : Except EncodeError Text := do
  let n ← formEncode name
  let v ← formEncode value
  return n ++ [CodePoint.ofChar '='] ++ v

/-- The sign that separates further parameters from a URL. -/
def separator (url : Text) : CodePoint := if url.contains (CodePoint.ofChar '?') then '&' else '?'

/-- The URL with a parameter. -/
def appendParameter (url name value : Text) : Except EncodeError Text :=
  (formPair name value).map fun pair => url ++ [separator url] ++ pair

/-- The URL with parameters, in order. -/
def appendParameters (url : Text) (parameters : TextMap) : Except EncodeError Text :=
  if parameters.entries.isEmpty then .ok url
  else do
    let pairs ← parameters.entries.mapM fun (n, v) => formPair n v
    return url ++ [separator url] ++ Text.join [CodePoint.ofChar '&'] pairs

end HttpCourier.Url
