import HttpCourier.Proofs.Text.Utf8
import HttpCourier.Text.Case

/-!
# HttpCourier.Proofs.Text.Case

**The lower case of texts and of their ASCII letters.** Names of header fields are told apart with
their ASCII letters in lower case, and looked up in the lower case of Unicode. Taking the ASCII
letters first makes no difference to the latter (`Text.lower_asciiLower`): an ASCII letter is cased
in either form, so that a sigma next to it does not see which one it is.
-/

namespace HttpCourier

namespace CodePoint

/-- Only the ASCII letters in upper case have another one in lower case. -/
theorem asciiLower_cases (c : CodePoint) :
    c.asciiLower = c ∨ ∃ i : Fin 26, c = ofNat (0x41 + i) ∧ c.asciiLower = ofNat (0x61 + i) := by
  unfold asciiLower
  split
  · next h =>
    refine .inr ⟨⟨c.val - 0x41, by omega⟩, ?_, ?_⟩
    · rw [show 0x41 + (c.val - 0x41) = c.val by omega, ofNat_val]
    · rw [show c.val + 32 = 0x61 + (c.val - 0x41) by omega]
  · exact .inl rfl

/-- What does not tell the two forms of the ASCII letters apart does not see their case. -/
theorem apply_asciiLower {f : CodePoint → α}
    (h : ∀ i : Fin 26, f (ofNat (0x61 + i)) = f (ofNat (0x41 + i))) (c : CodePoint) :
    f c.asciiLower = f c := by
  rcases c.asciiLower_cases with hc | ⟨i, rfl, hc⟩
  · rw [hc]
  · rw [hc, h i]

theorem lower_asciiLower (c : CodePoint) : c.asciiLower.lower = c.lower :=
  apply_asciiLower (f := lower) (by decide) c

theorem isCased_asciiLower (c : CodePoint) : c.asciiLower.isCased = c.isCased :=
  apply_asciiLower (f := isCased) (by decide +kernel) c

theorem isCaseIgnorable_asciiLower (c : CodePoint) :
    c.asciiLower.isCaseIgnorable = c.isCaseIgnorable :=
  apply_asciiLower (f := isCaseIgnorable) (by decide +kernel) c

/-- An encoding that has a letter has it in lower case too. -/
theorem holds_asciiLower (charset : Charset) (c : CodePoint) :
    charset.holds c.asciiLower = charset.holds c :=
  apply_asciiLower (f := charset.holds) (by cases charset <;> decide) c

/-- No ASCII letter is a capital sigma. -/
theorem asciiLower_eq_sigma (c : CodePoint) : c.asciiLower.val = 0x3A3 ↔ c.val = 0x3A3 :=
  Iff.of_eq (apply_asciiLower (f := fun c => c.val = 0x3A3) (by decide) c)

end CodePoint

namespace Text

variable {t : Text}

theorem nextIsCased_asciiLower (t : Text) : nextIsCased (asciiLower t) = nextIsCased t := by
  induction t with
  | nil => rfl
  | cons c t ih =>
    unfold nextIsCased asciiLower at *
    rw [List.map_cons, List.dropWhile_cons, List.dropWhile_cons,
      CodePoint.isCaseIgnorable_asciiLower]
    cases c.isCaseIgnorable with
    | true => exact ih
    | false => exact c.isCased_asciiLower

/-- **The lower case of a text** does not see the case of its ASCII letters. -/
theorem lower_asciiLower (t : Text) : lower (asciiLower t) = lower t := by
  have rest : ∀ before, lowerAfter (asciiLower before) (asciiLower t) = lowerAfter before t := by
    induction t with
    | nil => exact fun _ => rfl
    | cons c t ih =>
      intro before
      show lowerAfter (asciiLower before) (c.asciiLower :: asciiLower t) = _
      rw [lowerAfter, lowerAfter, nextIsCased_asciiLower, nextIsCased_asciiLower,
        CodePoint.lower_asciiLower, ← ih (c :: before)]
      simp only [CodePoint.asciiLower_eq_sigma]
      rfl
  exact rest []

theorem lower_congr {u : Text} (same : asciiLower t = asciiLower u) : lower t = lower u := by
  rw [← lower_asciiLower, same, lower_asciiLower]

/-- A text that is a known one but for its ASCII letters is that one in lower case. -/
theorem lower_of_asciiLower {u : Text} (same : asciiLower t = u) (lowered : lower u = u) :
    lower t = u := by
  rw [← lower_asciiLower, same, lowered]

/-- In an ASCII text only the ASCII letters have a lower case. -/
theorem lower_of_isAscii (h : t.isAscii = true) : lower t = asciiLower t := by
  have rest : ∀ before, lowerAfter before t = asciiLower t := by
    induction t with
    | nil => exact fun _ => rfl
    | cons c t ih =>
      intro before
      obtain ⟨here, there⟩ : c.isAscii = true ∧ isAscii t = true := Bool.and_eq_true_iff.1 h
      have small : c.val < 128 := of_decide_eq_true here
      rw [lowerAfter, ih there, if_neg (by omega), CodePoint.lower, if_pos here]
      rfl
  exact rest []

end Text

end HttpCourier
