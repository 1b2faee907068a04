import HttpCourier.Text.Encoding
import Mathlib.Data.List.Basic
import Mathlib.Data.List.TakeWhile

/-!
# HttpCourier.Proofs.Text.Utf8

**UTF-8 can be read back.** The bytes of a text without lone surrogates are read as that text
(`Text.utf8Units_bytesIn`), so that different texts have different bytes. One lemma says what each
kind of byte does to the reader; a code point's bytes are then read one after the other.

For ASCII texts all encodings agree.
-/

namespace HttpCourier

theorem CodePoint.ofNat_val (c : CodePoint) : ofNat c.val = c := dif_pos c.isLt

namespace Charset

theorem ascii_holds {c : CodePoint} : ascii.holds c = true ↔ c.val < 128 := decide_eq_true_iff

theorem utf8_holds {c : CodePoint} : utf8.holds c = true ↔ c.isSurrogate = false := by
  show (!c.isSurrogate) = true ↔ _
  rw [Bool.not_eq_true']

theorem utf8Bytes_of_lt {n : Nat} (h : n < 128) : utf8Bytes n = [UInt8.ofNat n] := if_pos h

theorem utf8Bytes_ne_nil (n : Nat) : utf8Bytes n ≠ [] := by
  unfold utf8Bytes
  split
  · exact List.cons_ne_nil _ _
  · split
    · exact List.cons_ne_nil _ _
    · split <;> exact List.cons_ne_nil _ _

/-- Beyond ASCII no byte of a code point is an ASCII byte. -/
theorem le_of_mem_utf8Bytes {n : Nat} (h : 128 ≤ n) (small : n < 0x110000) {b : UInt8}
    (hb : b ∈ utf8Bytes n) : 128 ≤ b.toNat := by
  have byte {m : Nat} (least : 128 ≤ m) (greatest : m < 256) : 128 ≤ (UInt8.ofNat m).toNat :=
    Nat.le_trans least (Nat.le_of_eq (UInt8.toNat_ofNat_of_lt greatest).symm)
  unfold utf8Bytes at hb
  rw [if_neg (Nat.not_lt.2 h)] at hb
  split at hb
  · simp only [List.mem_cons, List.not_mem_nil, or_false] at hb
    rcases hb with rfl | rfl <;> exact byte (by omega) (by omega)
  · split at hb
    · simp only [List.mem_cons, List.not_mem_nil, or_false] at hb
      rcases hb with rfl | rfl | rfl <;> exact byte (by omega) (by omega)
    · simp only [List.mem_cons, List.not_mem_nil, or_false] at hb
      rcases hb with rfl | rfl | rfl | rfl <;> exact byte (by omega) (by omega)

end Charset

namespace Text

/-! ### Encoding -/

theorem encode_ok_iff {charset : Charset} {t : Text} {b : Bytes} :
    encode charset t = .ok b ↔ (∀ c ∈ t, charset.holds c = true) ∧ b = bytesIn charset t := by
  unfold encode
  constructor
  · intro h
    split at h
    · next all =>
      cases h
      exact ⟨List.dropWhile_eq_nil_iff.1 all, rfl⟩
    · cases h
  · intro h
    obtain ⟨all, rfl⟩ := h
    rw [List.dropWhile_eq_nil_iff.2 all]

theorem scalar_iff_holds {t : Text} : t.Scalar ↔ ∀ c ∈ t, Charset.utf8.holds c = true := by
  simp only [Charset.utf8_holds, Scalar]

theorem isAscii_iff_holds {t : Text} : t.isAscii = true ↔ ∀ c ∈ t, Charset.ascii.holds c = true := by
  simp only [Charset.ascii_holds, isAscii, List.all_eq_true, CodePoint.isAscii, decide_eq_true_iff]

theorem scalar_of_isAscii {t : Text} (h : t.isAscii = true) : t.Scalar := by
  intro c hc
  have small := Charset.ascii_holds.1 (isAscii_iff_holds.1 h c hc)
  unfold CodePoint.isSurrogate
  rw [Bool.and_eq_false_iff, decide_eq_false_iff_not]
  exact .inl (by omega)

/-- An ASCII text has the same bytes in ASCII and in UTF-8. -/
theorem bytesIn_of_isAscii {t : Text} (h : t.isAscii = true) :
    bytesIn .ascii t = bytesIn .utf8 t := by
  unfold bytesIn
  refine List.flatMap_congr fun c hc => ?_
  exact (Charset.utf8Bytes_of_lt (Charset.ascii_holds.1 (isAscii_iff_holds.1 h c hc))).symm

/-! ### Reading UTF-8 -/

section Leads

variable {b : Nat}

theorem lead_two (low : 0xC2 ≤ b) (high : b < 0xE0) :
    lead b = .opens ⟨b - 0xC0, 1, 0x80, 0xBF⟩ := by
  unfold lead
  rw [if_neg (by omega), if_neg (by omega), if_pos high]

/-- The first byte of three leaves out what has shorter sequences, and the surrogates. -/
theorem lead_three (low : 0xE0 ≤ b) (high : b < 0xF0) :
    lead b = .opens ⟨b - 0xE0, 2, if b = 0xE0 then 0xA0 else 0x80,
      if b = 0xED then 0x9F else 0xBF⟩ := by
  unfold lead
  rw [if_neg (by omega), if_neg (by omega), if_neg (by omega)]
  by_cases hE : b = 0xE0
  · subst hE
    rfl
  · rw [if_neg hE, if_neg hE]
    by_cases hD : b = 0xED
    · subst hD
      rfl
    · rw [if_neg hD, if_neg hD, if_pos high]

/-- The first byte of four leaves out what has shorter sequences, and what is no code point. -/
theorem lead_four (low : 0xF0 ≤ b) (high : b < 0xF5) :
    lead b = .opens ⟨b - 0xF0, 3, if b = 0xF0 then 0x90 else 0x80,
      if b = 0xF4 then 0x8F else 0xBF⟩ := by
  unfold lead
  rw [if_neg (by omega), if_neg (by omega), if_neg (by omega), if_neg (by omega),
    if_neg (by omega), if_neg (by omega)]
  by_cases h0 : b = 0xF0
  · subst h0
    rfl
  · rw [if_neg h0, if_neg h0]
    by_cases h4 : b = 0xF4
    · subst h4
      rfl
    · rw [if_neg h4, if_neg h4, if_pos (by omega)]

end Leads

section Bytes

variable {b : Nat} {p : Pending} (rest : Bytes)

theorem toNat_ofNat_of_lt (h : b < 256) : (UInt8.ofNat b).toNat = b := UInt8.toNat_ofNat_of_lt h

theorem unitsFrom_single (h : b < 0x80) :
    utf8UnitsFrom none (UInt8.ofNat b :: rest) =
      some (CodePoint.ofNat b) :: utf8UnitsFrom none rest := by
  rw [utf8UnitsFrom, toNat_ofNat_of_lt (Nat.lt_trans h (by decide)), lead, if_pos h]

theorem unitsFrom_opens (h : lead b = .opens p) (hb : b < 256) :
    utf8UnitsFrom none (UInt8.ofNat b :: rest) = utf8UnitsFrom (some p) rest := by
  rw [utf8UnitsFrom, toNat_ofNat_of_lt hb, h]

/-- A byte in range goes on with a sequence that has more than one byte to come. -/
theorem unitsFrom_goesOn {value left low high : Nat} (h : b < 0x40) (least : low ≤ 0x80 + b)
    (greatest : 0x80 + b ≤ high) :
    utf8UnitsFrom (some ⟨value, left + 2, low, high⟩) (UInt8.ofNat (0x80 + b) :: rest) =
      utf8UnitsFrom (some ⟨value * 0x40 + b, left + 1, 0x80, 0xBF⟩) rest := by
  rw [utf8UnitsFrom, toNat_ofNat_of_lt (by omega), if_pos ⟨least, greatest⟩]
  dsimp only
  rw [if_neg (by omega), Nat.add_sub_cancel_left]
  rfl

/-- The last byte of a sequence. -/
theorem unitsFrom_ends {value : Nat} (h : b < 0x40) :
    utf8UnitsFrom (some ⟨value, 1, 0x80, 0xBF⟩) (UInt8.ofNat (0x80 + b) :: rest) =
      some (CodePoint.ofNat (value * 0x40 + b)) :: utf8UnitsFrom none rest := by
  rw [utf8UnitsFrom, toNat_ofNat_of_lt (by omega),
    if_pos ⟨Nat.le_add_right _ _, show 0x80 + b ≤ 0xBF by omega⟩]
  dsimp only
  rw [if_pos (Nat.le_refl 1), Nat.add_sub_cancel_left]

end Bytes

/-- **The bytes of a code point** are read as that code point. The cases are those of its length. -/
theorem unitsFrom_utf8Bytes {c : CodePoint} (h : c.isSurrogate = false) (rest : Bytes) :
    utf8UnitsFrom none (Charset.utf8Bytes c.val ++ rest) = some c :: utf8UnitsFrom none rest := by
  have small := c.isLt
  have whole := c.ofNat_val
  have scalar : ¬ (0xD800 ≤ c.val ∧ c.val ≤ 0xDFFF) := by
    intro bad
    unfold CodePoint.isSurrogate at h
    rw [decide_eq_true bad.1, decide_eq_true bad.2] at h
    cases h
  generalize c.val = n at *
  unfold Charset.utf8Bytes
  split
  · next one =>
    rw [List.singleton_append, unitsFrom_single rest one, whole]
  · split
    · next one two =>
      have last : n % 0x40 < 0x40 := Nat.mod_lt n (by decide)
      rw [List.cons_append, List.singleton_append,
        unitsFrom_opens _ (lead_two (by omega) (by omega)) (by omega), Nat.add_sub_cancel_left,
        unitsFrom_ends rest last, Nat.div_add_mod', whole]
    · split
      · next one two three =>
        have second : n / 0x40 % 0x40 < 0x40 := Nat.mod_lt _ (by decide)
        have last : n % 0x40 < 0x40 := Nat.mod_lt n (by decide)
        have value : (n / 0x1000 * 0x40 + n / 0x40 % 0x40) * 0x40 + n % 0x40 = n := by omega
        rw [List.cons_append, List.cons_append, List.singleton_append,
          unitsFrom_opens _ (lead_three (by omega) (by omega)) (by omega), Nat.add_sub_cancel_left,
          unitsFrom_goesOn _ second (by split <;> omega) (by split <;> omega),
          unitsFrom_ends rest last, value, whole]
      · next one two three =>
        have second : n / 0x1000 % 0x40 < 0x40 := Nat.mod_lt _ (by decide)
        have third : n / 0x40 % 0x40 < 0x40 := Nat.mod_lt _ (by decide)
        have last : n % 0x40 < 0x40 := Nat.mod_lt n (by decide)
        have value : ((n / 0x40000 * 0x40 + n / 0x1000 % 0x40) * 0x40 + n / 0x40 % 0x40) * 0x40 +
            n % 0x40 = n := by omega
        rw [List.cons_append, List.cons_append, List.cons_append, List.singleton_append,
          unitsFrom_opens _ (lead_four (by omega) (by omega)) (by omega), Nat.add_sub_cancel_left,
          unitsFrom_goesOn _ second (by split <;> omega) (by split <;> omega),
          unitsFrom_goesOn _ third (Nat.le_add_right _ _) (by omega),
          unitsFrom_ends rest last, value, whole]

/-- **The bytes of a text** are read as its code points. -/
theorem utf8Units_bytesIn {t : Text} (h : t.Scalar) :
    utf8Units (bytesIn .utf8 t) = t.map some := by
  induction t with
  | nil => rfl
  | cons c t ih =>
    obtain ⟨here, rest⟩ := List.forall_mem_cons.1 h
    unfold bytesIn utf8Units at *
    rw [List.flatMap_cons, List.map_cons, ← ih rest]
    exact unitsFrom_utf8Bytes here _

theorem ofUtf8?_bytesIn {t : Text} (h : t.Scalar) : ofUtf8? (bytesIn .utf8 t) = some t := by
  unfold ofUtf8?
  rw [utf8Units_bytesIn h, List.mapM_map]
  show t.mapM (fun c => pure (id c)) = some t
  rw [List.mapM_pure, List.map_id]
  rfl

theorem ofUtf8Lossy_bytesIn {t : Text} (h : t.Scalar) : ofUtf8Lossy (bytesIn .utf8 t) = t := by
  unfold ofUtf8Lossy
  rw [utf8Units_bytesIn h, List.map_map]
  exact List.map_id t

/-- Different texts have different bytes. -/
theorem bytesIn_inj {t u : Text} (ht : t.Scalar) (hu : u.Scalar) :
    bytesIn .utf8 t = bytesIn .utf8 u ↔ t = u := by
  constructor
  · intro h
    rw [← ofUtf8Lossy_bytesIn ht, h, ofUtf8Lossy_bytesIn hu]
  · rintro rfl
    rfl

end Text

end HttpCourier
