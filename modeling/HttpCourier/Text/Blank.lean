import HttpCourier.Text.CodePoint

/-!
# HttpCourier.Text.Blank

**White space in the sense of Unicode**, as it is stripped from the ends of a text, next to the
four blanks that JSON knows.
-/

namespace HttpCourier

namespace CodePoint

/-- Ranges of the white space code points. -/
def blankRanges : List (Nat × Nat) :=
  [(0x09, 0x0D), (0x1C, 0x20), (0x85, 0x85), (0xA0, 0xA0), (0x1680, 0x1680), (0x2000, 0x200A),
   (0x2028, 0x2029), (0x202F, 0x202F), (0x205F, 0x205F), (0x3000, 0x3000)]

/-- Whether the code point is white space. -/
def isBlank (c : CodePoint) : Bool :=
  blankRanges.any fun (first, last) => first ≤ c.val && c.val ≤ last

/-- Whether the code point is a blank of JSON: space, tab, line feed or carriage return. -/
def isJsonBlank (c : CodePoint) : Bool :=
  c.val == 0x20 || c.val == 0x09 || c.val == 0x0A || c.val == 0x0D

theorem isBlank_of_isJsonBlank {c : CodePoint} (h : c.isJsonBlank = true) :
    c.isBlank = true := by
  simp only [isJsonBlank, Bool.or_eq_true, beq_iff_eq] at h
  rcases h with ((h | h) | h) | h <;> simp [isBlank, blankRanges, h]

end CodePoint

namespace Text

/-- The text without the code points at either end that satisfy `p`. -/
def stripBy (p : CodePoint → Bool) (t : Text) : Text :=
  ((t.dropWhile p).reverse.dropWhile p).reverse

/-- The text without the white space at either end. -/
def strip (t : Text) : Text := stripBy CodePoint.isBlank t

/-- Whether the text is empty or all white space. -/
def isBlank (t : Text) : Bool := t.all CodePoint.isBlank

end Text

end HttpCourier
