import HttpCourier.Text.Encoding

/-!
# HttpCourier.Text.Base64

**Bytes as Base64 text.** Three bytes become four letters of a 64-letter alphabet; a last block
of one or two bytes is padded with `=`.
-/

namespace HttpCourier.Base64

/-- The letter of a six-bit number. -/
def letter (n : Nat) : CodePoint :=
  if n < 26 then CodePoint.ofNat (0x41 + n)
  else if n < 52 then CodePoint.ofNat (0x61 + (n - 26))
  else if n < 62 then CodePoint.ofNat (0x30 + (n - 52))
  else if n = 62 then '+'
  else '/'

/-- The six-bit number of a letter. -/
def value? (c : CodePoint) : Option Nat :=
  if 0x41 ≤ c.val ∧ c.val ≤ 0x5A then some (c.val - 0x41)
  else if 0x61 ≤ c.val ∧ c.val ≤ 0x7A then some (c.val - 0x61 + 26)
  else if 0x30 ≤ c.val ∧ c.val ≤ 0x39 then some (c.val - 0x30 + 52)
  else if c = '+' then some 62
  else if c = '/' then some 63
  else none

/-- The padded Base64 text of bytes. -/
def encode : Bytes → Text
  | [] => []
  | [a] =>
    [letter (a.toNat / 4), letter (a.toNat % 4 * 16), '=', '=']
  | [a, b] =>
    [letter (a.toNat / 4), letter (a.toNat % 4 * 16 + b.toNat / 16),
     letter (b.toNat % 16 * 4), '=']
  | a :: b :: c :: rest =>
    letter (a.toNat / 4) :: letter (a.toNat % 4 * 16 + b.toNat / 16) ::
      letter (b.toNat % 16 * 4 + c.toNat / 64) :: letter (c.toNat % 64) :: encode rest

/-- The bytes of a padded Base64 text. -/
def decode? : Text → Option Bytes
  | [] => some []
  | [a, b, c, d] => do
    let x ← value? a
    let y ← value? b
    if c = '=' then
      if d = '=' then some [UInt8.ofNat (x * 4 + y / 16)] else none
    else
      let z ← value? c
      if d = '=' then
        some [UInt8.ofNat (x * 4 + y / 16), UInt8.ofNat (y % 16 * 16 + z / 4)]
      else
        let w ← value? d
        some [UInt8.ofNat (x * 4 + y / 16), UInt8.ofNat (y % 16 * 16 + z / 4),
          UInt8.ofNat (z % 4 * 64 + w)]
  | a :: b :: c :: d :: rest => do
    let x ← value? a
    let y ← value? b
    let z ← value? c
    let w ← value? d
    let bytes ← decode? rest
    some (UInt8.ofNat (x * 4 + y / 16) :: UInt8.ofNat (y % 16 * 16 + z / 4) ::
      UInt8.ofNat (z % 4 * 64 + w) :: bytes)
  | _ => none

end HttpCourier.Base64
