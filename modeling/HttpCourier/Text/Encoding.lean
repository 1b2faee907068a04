import HttpCourier.Text.Quoted

/-!
# HttpCourier.Text.Encoding

**Text as bytes.** Three encodings occur on the wire: ASCII, Latin-1 and UTF-8. A text that has
a code point outside its encoding is refused, and the refusal names the first block of such
code points.

* `encode` writes a text in an encoding.
* `decodeUtf8` reads bytes as UTF-8 unit by unit: a unit is a code point, or a place where the
  bytes are no UTF-8. Such a place is the longest start of a sequence that could have gone on,
  or a single byte.
-/

namespace HttpCourier

/-- A sequence of bytes. -/
abbrev Bytes := List UInt8

/-- The encodings of the wire. -/
inductive Charset where
  | ascii
  | latin1
  | utf8
  deriving DecidableEq, Repr

namespace Charset

/-- The name that messages give to the encoding. -/
def name : Charset → String
  | ascii => "ascii"
  | latin1 => "latin-1"
  | utf8 => "utf-8"

/-- Why a code point is outside the encoding. -/
def refusal : Charset → String
  | ascii => "ordinal not in range(128)"
  | latin1 => "ordinal not in range(256)"
  | utf8 => "surrogates not allowed"

/-- Whether the encoding has the code point. -/
def holds : Charset → CodePoint → Bool
  | ascii, c => c.val < 128
  | latin1, c => c.val < 256
  | utf8, c => !c.isSurrogate

/-- The bytes of a number in UTF-8. -/
def utf8Bytes (n : Nat) : Bytes :=
  if n < 0x80 then [UInt8.ofNat n]
  else if n < 0x800 then [UInt8.ofNat (0xC0 + n / 0x40), UInt8.ofNat (0x80 + n % 0x40)]
  else if n < 0x10000 then
    [UInt8.ofNat (0xE0 + n / 0x1000), UInt8.ofNat (0x80 + n / 0x40 % 0x40),
     UInt8.ofNat (0x80 + n % 0x40)]
  else
    [UInt8.ofNat (0xF0 + n / 0x40000), UInt8.ofNat (0x80 + n / 0x1000 % 0x40),
     UInt8.ofNat (0x80 + n / 0x40 % 0x40), UInt8.ofNat (0x80 + n % 0x40)]

/-- The bytes of a code point that the encoding has. -/
def bytesOf : Charset → CodePoint → Bytes
  | utf8, c => utf8Bytes c.val
  | _, c => [UInt8.ofNat c.val]

end Charset

/-- A text was refused by an encoding: the code points from position `start` up to `stop` are
outside it, and `first` is the first of them. -/
structure EncodeError where
  charset : Charset
  start : Nat
  stop : Nat
  first : CodePoint
  deriving DecidableEq, Repr

namespace EncodeError

/-- The wording of the refusal. -/
def message (e : EncodeError) : Text :=
  let place : Text :=
    if e.stop = e.start + 1 then
      "character '" ++ e.first.numericEscape ++ "' in position " ++ Text.ofNat e.start
    else "characters in position " ++ Text.ofNat e.start ++ "-" ++ Text.ofNat (e.stop - 1)
  "'" ++ e.charset.name ++ "' codec can't encode " ++ place ++ ": " ++ e.charset.refusal

end EncodeError

namespace Text

/-- The bytes of a text, all of whose code points the encoding has. -/
def bytesIn (charset : Charset) (t : Text) : Bytes := t.flatMap charset.bytesOf

/-- The bytes of a text in an encoding. -/
def encode (charset : Charset) (t : Text) : Except EncodeError Bytes :=
  match t.dropWhile charset.holds with
  | [] => .ok (bytesIn charset t)
  | c :: rest =>
    let start := (t.takeWhile charset.holds).length
    let block := (rest.takeWhile fun d => !charset.holds d).length
    .error ⟨charset, start, start + 1 + block, c⟩

/-! ### Reading UTF-8 -/

/-- A sequence under way: the value so far, how many bytes are to come, and the range of the
next one. -/
structure Pending where
  value : Nat
  left : Nat
  low : Nat
  high : Nat

/-- What the first byte of a sequence says. -/
inductive Lead where
  /-- The byte is a code point of its own. -/
  | single (n : Nat)
  /-- More bytes are to come. -/
  | opens (p : Pending)
  /-- No sequence starts with the byte. -/
  | stray

/-- The part of a first byte. -/
def lead (b : Nat) : Lead :=
  if b < 0x80 then .single b
  else if b < 0xC2 then .stray
  else if b < 0xE0 then .opens ⟨b - 0xC0, 1, 0x80, 0xBF⟩
  else if b = 0xE0 then .opens ⟨0, 2, 0xA0, 0xBF⟩
  else if b = 0xED then .opens ⟨0xD, 2, 0x80, 0x9F⟩
  else if b < 0xF0 then .opens ⟨b - 0xE0, 2, 0x80, 0xBF⟩
  else if b = 0xF0 then .opens ⟨0, 3, 0x90, 0xBF⟩
  else if b = 0xF4 then .opens ⟨4, 3, 0x80, 0x8F⟩
  else if b < 0xF4 then .opens ⟨b - 0xF0, 3, 0x80, 0xBF⟩
  else .stray

/-- The units of bytes read as UTF-8, with a sequence possibly under way: code points, and
`none` where the bytes are no UTF-8. -/
def utf8UnitsFrom : Option Pending → Bytes → List (Option CodePoint)
  | none, [] => []
  | some _, [] => [none]
  | none, b :: rest =>
    match lead b.toNat with
    | .single n => some (CodePoint.ofNat n) :: utf8UnitsFrom none rest
    | .opens p => utf8UnitsFrom (some p) rest
    | .stray => none :: utf8UnitsFrom none rest
  | some p, b :: rest =>
    if p.low ≤ b.toNat ∧ b.toNat ≤ p.high then
      let value := p.value * 0x40 + (b.toNat - 0x80)
      if p.left ≤ 1 then some (CodePoint.ofNat value) :: utf8UnitsFrom none rest
      else utf8UnitsFrom (some ⟨value, p.left - 1, 0x80, 0xBF⟩) rest
    else
      none :: match lead b.toNat with
        | .single n => some (CodePoint.ofNat n) :: utf8UnitsFrom none rest
        | .opens q => utf8UnitsFrom (some q) rest
        | .stray => none :: utf8UnitsFrom none rest

/-- The units of bytes read as UTF-8. -/
def utf8Units (bytes : Bytes) : List (Option CodePoint) := utf8UnitsFrom none bytes

/-- The text of bytes in UTF-8, with a replacement character where they are no UTF-8. -/
def ofUtf8Lossy (bytes : Bytes) : Text :=
  (utf8Units bytes).map fun unit => unit.getD (CodePoint.ofNat 0xFFFD)

/-- The text of bytes in UTF-8. -/
def ofUtf8? (bytes : Bytes) : Option Text := (utf8Units bytes).mapM id

/-- The text of bytes in Latin-1. -/
def ofLatin1 (bytes : Bytes) : Text := bytes.map fun b => CodePoint.ofNat b.toNat

end Text

end HttpCourier
