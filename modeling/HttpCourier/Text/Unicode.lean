import HttpCourier.Text.Encoding

/-!
# HttpCourier.Text.Unicode

**Text in any of the Unicode encodings**, which the first bytes tell apart: by a mark, or, for a
text that starts with two ASCII letters, by where the zero bytes stand. Lone surrogates are read
as such; anything else that is out of order makes the bytes no text.
-/

namespace HttpCourier

/-- The order of the bytes of a unit. -/
inductive ByteOrder where
  | big
  | little
  deriving DecidableEq, Repr

/-- The encodings. -/
inductive UnicodeForm where
  | utf8
  | utf16 (order : ByteOrder)
  | utf32 (order : ByteOrder)
  deriving DecidableEq, Repr

namespace UnicodeForm

/-- The marks that name an encoding at the start of a text. -/
def marks : List (Bytes × UnicodeForm) :=
  [([0x00, 0x00, 0xFE, 0xFF], utf32 .big), ([0xFF, 0xFE, 0x00, 0x00], utf32 .little),
   ([0xFE, 0xFF], utf16 .big), ([0xFF, 0xFE], utf16 .little), ([0xEF, 0xBB, 0xBF], utf8)]

/-- The encoding of bytes without a mark. -/
def ofZeros : Bytes → UnicodeForm
  | a :: b :: c :: d :: _ =>
    if a = 0 then if b = 0 then utf32 .big else utf16 .big
    else if b = 0 then if c = 0 ∧ d = 0 then utf32 .little else utf16 .little
    else utf8
  | [a, b] => if a = 0 then utf16 .big else if b = 0 then utf16 .little else utf8
  | _ => utf8

/-- The encoding of bytes, and the bytes without a mark. -/
def detect (bytes : Bytes) : UnicodeForm × Bytes :=
  match marks.find? fun m => m.1.isPrefixOf bytes with
  | some (mark, form) => (form, bytes.drop mark.length)
  | none => (ofZeros bytes, bytes)

end UnicodeForm

namespace Text

/-! ### Units of several bytes -/

/-- The number that bytes spell. -/
def unitValue (order : ByteOrder) (bytes : Bytes) : Nat :=
  let ordered := match order with
    | .big => bytes
    | .little => bytes.reverse
  ordered.foldl (fun n b => n * 256 + b.toNat) 0

/-- The units of two bytes each; a byte that is left over makes them none. -/
def units16? (order : ByteOrder) : Bytes → Option (List Nat)
  | [] => some []
  | [_] => none
  | a :: b :: rest => (units16? order rest).map (unitValue order [a, b] :: ·)

/-- The units of four bytes each; bytes that are left over make them none. -/
def units32? (order : ByteOrder) : Bytes → Option (List Nat)
  | [] => some []
  | a :: b :: c :: d :: rest => (units32? order rest).map (unitValue order [a, b, c, d] :: ·)
  | _ => none

/-- The code points of units of two bytes: two halves of a pair join. -/
def joinPairs : List Nat → Text
  | [] => []
  | [n] => [CodePoint.ofNat n]
  | n :: m :: rest =>
    if 0xD800 ≤ n ∧ n ≤ 0xDBFF ∧ 0xDC00 ≤ m ∧ m ≤ 0xDFFF then
      CodePoint.ofNat (0x10000 + (n - 0xD800) * 0x400 + (m - 0xDC00)) :: joinPairs rest
    else CodePoint.ofNat n :: joinPairs (m :: rest)

/-- The code points of numbers, all of which must be code points. -/
def ofNumbers? (ns : List Nat) : Option Text :=
  ns.mapM fun n => if n < 0x110000 then some (CodePoint.ofNat n) else none

/-! ### UTF-8 with lone surrogates -/

/-- The surrogate whose three bytes stand in front. -/
def surrogateAtStart? : Bytes → Option (CodePoint × Bytes)
  | a :: b :: c :: rest =>
    if a = 0xED ∧ 0xA0 ≤ b.toNat ∧ b.toNat ≤ 0xBF ∧ 0x80 ≤ c.toNat ∧ c.toNat ≤ 0xBF then
      some (CodePoint.ofNat (0xD000 + (b.toNat - 0x80) * 0x40 + (c.toNat - 0x80)), rest)
    else none
  | _ => none

/-- Bytes cut where a surrogate stands: the bytes before each one, and at last those behind it.
The bytes of the current stretch are gathered in reverse; `skip` bytes belong to a surrogate
already seen. -/
def surrogateCuts (skip : Nat) (before : Bytes) : Bytes → List (Bytes × Option CodePoint)
  | [] => [(before.reverse, none)]
  | b :: rest =>
    match skip with
    | skip + 1 => surrogateCuts skip before rest
    | 0 =>
      match surrogateAtStart? (b :: rest) with
      | some (c, _) => (before.reverse, some c) :: surrogateCuts 2 [] rest
      | none => surrogateCuts 0 (b :: before) rest

/-- The text of bytes in UTF-8, in which lone surrogates are read as such. -/
def ofUtf8WithSurrogates? (bytes : Bytes) : Option Text :=
  let pieces := (surrogateCuts 0 [] bytes).mapM fun (stretch, c) =>
    (ofUtf8? stretch).map fun t => t ++ c.toList
  pieces.map List.flatten

/-- The text of bytes in one of the encodings. -/
def ofUnicode? (form : UnicodeForm) (bytes : Bytes) : Option Text :=
  match form with
  | .utf8 => ofUtf8WithSurrogates? bytes
  | .utf16 order => (units16? order bytes).map joinPairs
  | .utf32 order => (units32? order bytes).bind ofNumbers?

/-- The text of bytes in the encoding that their start tells. -/
def ofDetected? (bytes : Bytes) : Option Text :=
  let (form, rest) := UnicodeForm.detect bytes
  ofUnicode? form rest

end Text

end HttpCourier
