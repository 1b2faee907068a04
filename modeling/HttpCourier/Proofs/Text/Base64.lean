import HttpCourier.Proofs.Text.Utf8
import HttpCourier.Text.Base64

/-!
# HttpCourier.Proofs.Text.Base64

**Base64 can be read back**, whatever the length of the bytes is: the letters of a six-bit number
are read as that number (`value?_letter`), three bytes as the four numbers that they are made of
(`decode?_block`), and the last one or two bytes by their padding.
-/

namespace HttpCourier.Base64

/-! ### Letters -/

theorem value?_letter {n : Nat} (h : n < 64) : value? (letter n) = some n := by
  have all : ∀ i : Fin 64, value? (letter i) = some i.val := by decide
  exact all ⟨n, h⟩

theorem letter_ne_pad {n : Nat} (h : n < 64) : letter n ≠ CodePoint.ofChar '=' := by
  have all : ∀ i : Fin 64, letter i ≠ CodePoint.ofChar '=' := by decide
  exact all ⟨n, h⟩

theorem isAscii_letter {n : Nat} (h : n < 64) : (letter n).isAscii = true := by
  have all : ∀ i : Fin 64, (letter i).isAscii = true := by decide
  exact all ⟨n, h⟩

/-! ### Blocks -/

section Blocks

variable {x y z w : Nat} {rest : Text}

/-- One byte of a block that ends in two signs of padding. -/
theorem decode?_one (hx : x < 64) (hy : y < 64) :
    decode? [letter x, letter y, '=', '='] = some [UInt8.ofNat (x * 4 + y / 16)] := by
  simp [decode?, value?_letter hx, value?_letter hy]

/-- Two bytes of a block that ends in one sign of padding. -/
theorem decode?_two (hx : x < 64) (hy : y < 64) (hz : z < 64) :
    decode? [letter x, letter y, letter z, '='] =
      some [UInt8.ofNat (x * 4 + y / 16), UInt8.ofNat (y % 16 * 16 + z / 4)] := by
  simp [decode?, value?_letter hx, value?_letter hy, value?_letter hz, letter_ne_pad hz]

/-- **Three bytes of a block of letters**, and what follows. -/
theorem decode?_block (hx : x < 64) (hy : y < 64) (hz : z < 64) (hw : w < 64) :
    decode? (letter x :: letter y :: letter z :: letter w :: rest) =
      (decode? rest).map fun bytes => UInt8.ofNat (x * 4 + y / 16) ::
        UInt8.ofNat (y % 16 * 16 + z / 4) :: UInt8.ofNat (z % 4 * 64 + w) :: bytes := by
  cases rest with
  | nil =>
    simp [decode?, value?_letter hx, value?_letter hy, value?_letter hz, value?_letter hw,
      letter_ne_pad hz, letter_ne_pad hw]
  | cons c rest =>
    rw [decode?, value?_letter hx, value?_letter hy, value?_letter hz, value?_letter hw]
    · cases decode? (c :: rest) <;> rfl
    · simp

end Blocks

/-! ### Bytes -/

variable {a b c : UInt8}

/-- The first byte of a block is in its first two numbers. -/
theorem first_byte {n : Nat} (h : n < 16) : UInt8.ofNat (a.toNat / 4 * 4 +
    (a.toNat % 4 * 16 + n) / 16) = a := by
  rw [show a.toNat / 4 * 4 + (a.toNat % 4 * 16 + n) / 16 = a.toNat by omega, UInt8.ofNat_toNat]

/-- The second byte is in the second and the third number. -/
theorem second_byte {m n : Nat} (h : n < 4) : UInt8.ofNat ((m * 16 + b.toNat / 16) % 16 * 16 +
    (b.toNat % 16 * 4 + n) / 4) = b := by
  have small := b.toNat_lt
  rw [show (m * 16 + b.toNat / 16) % 16 * 16 + (b.toNat % 16 * 4 + n) / 4 = b.toNat by omega,
    UInt8.ofNat_toNat]

/-- The third byte is in the third and the last number. -/
theorem third_byte {m : Nat} : UInt8.ofNat ((m * 4 + c.toNat / 64) % 4 * 64 + c.toNat % 64) = c := by
  have small := c.toNat_lt
  rw [show (m * 4 + c.toNat / 64) % 4 * 64 + c.toNat % 64 = c.toNat by omega, UInt8.ofNat_toNat]

/-- **Base64 is read back** as the bytes that it stands for. -/
theorem decode?_encode (bytes : Bytes) : decode? (encode bytes) = some bytes := by
  -- By induction over the blocks of three bytes, as they are written.
  fun_induction encode bytes with
  | case1 => rfl
  | case2 a =>
    have small := a.toNat_lt
    rw [decode?_one (by omega) (by omega)]
    exact congrArg (some [·]) (first_byte (n := 0) (by decide))
  | case3 a b =>
    have smallA := a.toNat_lt
    have smallB := b.toNat_lt
    rw [decode?_two (by omega) (by omega) (by omega), first_byte (by omega)]
    exact congrArg (some [a, ·]) (second_byte (n := 0) (by decide))
  | case4 a b c rest ih =>
    have smallA := a.toNat_lt
    have smallB := b.toNat_lt
    have smallC := c.toNat_lt
    rw [decode?_block (by omega) (by omega) (by omega) (by omega), ih, first_byte (by omega),
      second_byte (by omega), third_byte]
    rfl

/-- Each block of three bytes, the last one included, takes four letters. -/
theorem length_encode (bytes : Bytes) : (encode bytes).length = 4 * ((bytes.length + 2) / 3) := by
  fun_induction encode bytes with
  | case1 => rfl
  | case2 | case3 => simp
  | case4 a b c rest ih =>
    simp only [List.length_cons, ih]
    omega

theorem isAscii_encode (bytes : Bytes) : (encode bytes).isAscii = true := by
  have cons {d : CodePoint} {t : Text} (hd : d.isAscii = true) (ht : Text.isAscii t = true) :
      Text.isAscii (d :: t) = true := Bool.and_eq_true_iff.2 ⟨hd, ht⟩
  fun_induction encode bytes with
  | case1 => rfl
  | case2 a =>
    have small := a.toNat_lt
    exact cons (isAscii_letter (by omega)) (cons (isAscii_letter (by omega)) (by decide))
  | case3 a b =>
    have smallA := a.toNat_lt
    have smallB := b.toNat_lt
    exact cons (isAscii_letter (by omega)) (cons (isAscii_letter (by omega))
      (cons (isAscii_letter (by omega)) (by decide)))
  | case4 a b c rest ih =>
    have smallA := a.toNat_lt
    have smallB := b.toNat_lt
    have smallC := c.toNat_lt
    exact cons (isAscii_letter (by omega)) (cons (isAscii_letter (by omega))
      (cons (isAscii_letter (by omega)) (cons (isAscii_letter (by omega)) ih)))

end HttpCourier.Base64
