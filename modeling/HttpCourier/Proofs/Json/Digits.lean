import HttpCourier.Json.Lenient
import Mathlib.Data.List.TakeWhile

/-!
# HttpCourier.Proofs.Json.Digits

**Texts that are one integer literal.** The lenient reader leaves a text of digits as it is, and
the strict one takes all of it for one token. How many digits there are decides whether it has a
value: a literal of more than `maxDigits` has none, and stops the reading in a way of its own.
-/

namespace HttpCourier

namespace CodePoint

theorem isDigit_iff {c : CodePoint} : c.isDigit = true ↔ 0x30 ≤ c.val ∧ c.val ≤ 0x39 := by
  rw [isDigit, Bool.and_eq_true, decide_eq_true_iff, decide_eq_true_iff]

/-- A digit is none of the characters with a number outside theirs. -/
theorem ne_ofChar_of_isDigit {c : CodePoint} {x : Char} (h : c.isDigit = true)
    (hx : x.toNat < 0x30 ∨ 0x39 < x.toNat) : c ≠ ofChar x := by
  intro hc
  rw [hc, isDigit_iff, ofChar_val] at h
  omega

end CodePoint

namespace Json

/-! ### Nothing to clean -/

namespace Lenient

theorem dropComments_plain_append {t : Text} (at_ : Nat)
    (h : ∀ c ∈ t, c ≠ CodePoint.ofChar '"' ∧ c ≠ CodePoint.ofChar '/') (rest : Text) :
    dropComments .code 0 at_ (t ++ rest) =
      (dropComments .code 0 (at_ + t.length) rest).map (t ++ ·) := by
  induction t generalizing at_ with
  | nil =>
    show dropComments .code 0 at_ rest = (dropComments .code 0 at_ rest).map id
    cases dropComments .code 0 at_ rest <;> rfl
  | cons c t ih =>
    obtain ⟨h₁, h₂⟩ := h c List.mem_cons_self
    have shift : at_ + (c :: t).length = at_ + 1 + t.length := by simp; omega
    rw [List.cons_append, dropComments.eq_def]
    dsimp only
    rw [if_neg h₁, if_neg (fun h => h₂ h.1), if_neg (fun h => h₂ h.1),
      ih _ fun d hd => h d (List.mem_cons_of_mem _ hd), shift]
    cases dropComments .code 0 (at_ + 1 + t.length) rest <;> rfl

theorem dropTrailingCommas_plain_append {t : Text}
    (h : ∀ c ∈ t, c ≠ CodePoint.ofChar '"' ∧ c ≠ CodePoint.ofChar ',') (rest : Text) :
    dropTrailingCommas 0 (t ++ rest) = t ++ dropTrailingCommas 0 rest := by
  induction t with
  | nil => rfl
  | cons c t ih =>
    obtain ⟨h₁, h₂⟩ := h c List.mem_cons_self
    rw [List.cons_append, dropTrailingCommas.eq_def]
    dsimp only
    rw [if_neg h₁, if_neg (fun h => h₂ h.1), ih fun d hd => h d (List.mem_cons_of_mem _ hd)]
    rfl

end Lenient

/-- A text without quotes, slashes and commas is read as it is. -/
theorem readLenient_of_plain {t : Text} (h : ∀ c ∈ t, c ≠ CodePoint.ofChar '"' ∧
    c ≠ CodePoint.ofChar '/' ∧ c ≠ CodePoint.ofChar ',') : readLenient t = read t := by
  have uncommented := Lenient.dropComments_plain_append 0
    (fun c hc => ⟨(h c hc).1, (h c hc).2.1⟩) []
  have unchanged := Lenient.dropTrailingCommas_plain_append
    (fun c hc => ⟨(h c hc).1, (h c hc).2.2⟩) []
  have nothing : Lenient.dropComments .code 0 (0 + t.length) [] = .ok [] := rfl
  rw [nothing, List.append_nil] at uncommented
  rw [List.append_nil] at unchanged
  have cleaned : stripComments t = .ok t := by
    unfold stripComments
    rw [uncommented]
    simp [Except.map]
  unfold readLenient
  rw [cleaned]
  show read (stripTrailingCommas t) = read t
  rw [stripTrailingCommas, unchanged]
  simp [Lenient.dropTrailingCommas]

/-! ### One token -/

theorem scan_of_digits {c : CodePoint} {rest : Text} (hd : ∀ d ∈ c :: rest, d.isDigit = true)
    (h0 : c ≠ CodePoint.ofChar '0') :
    Numeral.scan (c :: rest) = some (⟨false, c :: rest, none, none⟩, (c :: rest).length) := by
  have minus : c ≠ CodePoint.ofChar '-' :=
    CodePoint.ne_ofChar_of_isDigit (hd c List.mem_cons_self) (by decide)
  have whole : Numeral.digits (c :: rest) = c :: rest := by
    unfold Numeral.digits
    exact List.takeWhile_eq_self_iff.2 hd
  have scanned : Numeral.scanWhole (c :: rest) = c :: rest := by
    unfold Numeral.scanWhole
    rw [whole]
    exact if_neg fun h => h0 (Option.some.inj h)
  unfold Numeral.scan
  simp [minus, scanned, Numeral.scanFraction, Numeral.scanExponent]

/-- No word that is a value starts with a digit. -/
theorem find?_words_of_isDigit {c : CodePoint} (hc : c.isDigit = true) (rest : Text) :
    (words.find? fun w => Text.startsWith (c :: rest) w.1) = none := by
  have heads : ∀ w ∈ words, w.1.head?.map CodePoint.isDigit = some false := by decide
  refine List.find?_eq_none.2 fun w hw => ?_
  obtain ⟨spelling, v⟩ := w
  have h := heads _ hw
  cases spelling with
  | nil => cases h
  | cons x xs =>
    have hx : x ≠ c := by
      intro hx
      rw [List.head?_cons, Option.map_some, hx, hc] at h
      cases h
    simp [Text.startsWith, hx]

theorem first_of_digits {c : CodePoint} {rest : Text} (at_ : Nat)
    (hd : ∀ d ∈ c :: rest, d.isDigit = true) (h0 : c ≠ CodePoint.ofChar '0') :
    Token.first at_ c rest =
      (.number ⟨false, c :: rest, none, none⟩, (c :: rest).length) := by
  have hc : c.isDigit = true := hd c List.mem_cons_self
  have other {x : Char} (hx : x.toNat < 0x30 ∨ 0x39 < x.toNat) : c ≠ CodePoint.ofChar x :=
    CodePoint.ne_ofChar_of_isDigit hc hx
  -- No digit is one of the marks, so that only the branch of the numerals is left.
  unfold Token.first
  rw [if_neg (other (by decide)), if_neg (other (by decide)), if_neg (other (by decide)),
    if_neg (other (by decide)), if_neg (other (by decide)), if_neg (other (by decide)),
    if_neg (other (by decide)), find?_words_of_isDigit hc, scan_of_digits hd h0]

theorem tokens_of_digits {c : CodePoint} {rest : Text}
    (hd : ∀ d ∈ c :: rest, d.isDigit = true) (h0 : c ≠ CodePoint.ofChar '0') :
    ∃ more, Token.scan (c :: rest) = (0, .number ⟨false, c :: rest, none, none⟩) :: more := by
  have hc := hd c List.mem_cons_self
  have blank : c.isJsonBlank = false := by
    rw [CodePoint.isDigit_iff] at hc
    unfold CodePoint.isJsonBlank
    simp
    omega
  unfold Token.scan Token.scanFrom
  rw [blank, first_of_digits 0 hd h0]
  exact ⟨_, rfl⟩

/-- A literal has no value exactly if it is an integer with too many digits. -/
theorem Numeral.value_error_iff {m : Numeral} {n : Nat} :
    m.value = .error n ↔
      m.fraction = none ∧ m.exponent = none ∧ maxDigits < m.whole.length ∧ n = m.whole.length := by
  unfold Numeral.value
  split
  · next integer =>
    split
    · next long => simp [integer, long, eq_comm]
    · next long => simp [long]
  · next other =>
    constructor
    · intro h
      cases h
    · rintro ⟨h₁, h₂, -⟩
      exact absurd ⟨h₁, h₂⟩ other

/-- **An integer literal with too many digits** has no value, and it is no malformed text. -/
theorem readLenient_of_digits {t : Text} (hd : ∀ c ∈ t, c.isDigit = true)
    (h0 : t.head? ≠ some (CodePoint.ofChar '0')) (hl : maxDigits < t.length) :
    readLenient t = .error (.overlongInteger t.length) := by
  have other {x : Char} (hx : x.toNat < 0x30 ∨ 0x39 < x.toNat) :
      ∀ c ∈ t, c ≠ CodePoint.ofChar x :=
    fun c hc => CodePoint.ne_ofChar_of_isDigit (hd c hc) hx
  rw [readLenient_of_plain fun c hc =>
    ⟨other (by decide) c hc, other (by decide) c hc, other (by decide) c hc⟩]
  cases t with
  | nil => exact absurd hl (by decide)
  | cons c rest =>
    have mark : (c :: rest).head? ≠ some (CodePoint.ofNat 0xFEFF) := by
      intro h
      have hc := hd c List.mem_cons_self
      rw [Option.some.inj h] at hc
      exact absurd hc (by decide)
    obtain ⟨more, scanned⟩ := tokens_of_digits hd fun h => h0 (congrArg some h)
    have valueless : Numeral.value ⟨false, c :: rest, none, none⟩ = .error (c :: rest).length :=
      Numeral.value_error_iff.2 ⟨rfl, rfl, hl, rfl⟩
    have stopped : Reader.start.run (Token.scan (c :: rest)) =
        .error (.overlongInteger (c :: rest).length) := by
      rw [scanned]
      unfold Reader.run Reader.start Reader.step Reader.startValue
      dsimp only
      rw [valueless]
    unfold read
    rw [if_neg mark, stopped]

end Json

end HttpCourier
