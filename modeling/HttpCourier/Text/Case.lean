import HttpCourier.Text.CaseTable
import HttpCourier.Text.CodePoint

/-!
# HttpCourier.Text.Case

**Upper and lower case of a text**, with the full mappings of Unicode: one letter may become
several, and a capital sigma at the end of a word takes its final form.

ASCII letters are mapped by arithmetic; the table is read only beyond ASCII.
-/

namespace HttpCourier

namespace CodePoint

/-- The lower-case form of an ASCII letter; any other code point is left alone. -/
def asciiLower (c : CodePoint) : CodePoint :=
  if 0x41 ≤ c.val ∧ c.val ≤ 0x5A then ofNat (c.val + 32) else c

/-- The upper-case form of an ASCII letter; any other code point is left alone. -/
def asciiUpper (c : CodePoint) : CodePoint :=
  if 0x61 ≤ c.val ∧ c.val ≤ 0x7A then ofNat (c.val - 32) else c

/-- The image of a code point under a table of blocks and rows; itself where neither has it. -/
def caseImage (blocks : List (Nat × List Nat)) (rows : List Text.CaseTable.Row)
    (c : CodePoint) : Text :=
  match blocks.lookup c.val with
  | some image => image.map ofNat
  | none =>
    match rows.findSome? (·.image? c.val) with
    | some image => [ofNat image]
    | none => [c]

/-- The upper case of a code point. -/
def upper (c : CodePoint) : Text :=
  if c.isAscii then [c.asciiUpper]
  else caseImage Text.CaseTable.upperBlocks Text.CaseTable.upperRows c

/-- The lower case of a code point, away from the end of a word. -/
def lower (c : CodePoint) : Text :=
  if c.isAscii then [c.asciiLower]
  else caseImage Text.CaseTable.lowerBlocks Text.CaseTable.lowerRows c

/-- Whether one of the ranges holds the code point. -/
def inRanges (ranges : List (Nat × Nat)) (c : CodePoint) : Bool :=
  ranges.any fun (first, last) => first ≤ c.val && c.val ≤ last

/-- Whether the code point is a letter with a case, seen from a neighbouring sigma. -/
def isCased (c : CodePoint) : Bool := inRanges Text.CaseTable.cased c

/-- Whether a sigma looks past the code point for its neighbours. -/
def isCaseIgnorable (c : CodePoint) : Bool := inRanges Text.CaseTable.ignorable c

end CodePoint

namespace Text

/-- The upper case of a text. -/
def upper (t : Text) : Text := t.flatMap CodePoint.upper

/-- Whether the first code point that is not passed over is a cased letter. -/
def nextIsCased (t : Text) : Bool :=
  match t.dropWhile CodePoint.isCaseIgnorable with
  | [] => false
  | c :: _ => c.isCased

/-- The lower case of the rest of a text, given what stands before it in reverse order. -/
def lowerAfter (before : Text) : Text → Text
  | [] => []
  | c :: rest =>
    (if c.val = 0x3A3 then
      if nextIsCased before && !nextIsCased rest then [CodePoint.ofNat 0x3C2]
      else [CodePoint.ofNat 0x3C3]
    else c.lower) ++ lowerAfter (c :: before) rest

/-- The lower case of a text. -/
def lower (t : Text) : Text := lowerAfter [] t

/-- The text with its ASCII letters in lower case and all else left alone. -/
def asciiLower (t : Text) : Text := t.map CodePoint.asciiLower

end Text

end HttpCourier
