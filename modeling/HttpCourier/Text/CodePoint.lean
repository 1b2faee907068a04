/-!
# HttpCourier.Text.CodePoint

**Text as a list of code points.** A configuration may spell half of a surrogate pair
(`\ud800`) inside a string, so the text that the library reads, keeps and writes is not a
`String`: it is a list of code points, lone surrogates included. A `String` stands for the
text of its characters wherever a `Text` is expected.

* `CodePoint` carries its bound, so that no operation has to speak of numbers that no text
  can hold.
* `Text.Scalar` singles out the texts without a lone surrogate: those are the texts that
  have an encoding.
-/

namespace HttpCourier

/-- A code point: a number below `0x110000`, surrogates included. -/
structure CodePoint where
  /-- The number of the code point. -/
  val : Nat
  isLt : val < 0x110000
  deriving DecidableEq, Repr

namespace CodePoint

/-- The code point of a character. -/
def ofChar (c : Char) : CodePoint :=
  ⟨c.toNat, by
    have h := c.valid
    simp only [UInt32.isValidChar, Nat.isValidChar] at h
    simp only [Char.toNat]
    omega⟩

instance : Coe Char CodePoint := ⟨ofChar⟩

/-- The code point of a number, and the replacement character for a number out of range. -/
def ofNat (n : Nat) : CodePoint :=
  if h : n < 0x110000 then ⟨n, h⟩ else ⟨0xFFFD, by decide⟩

instance : Inhabited CodePoint := ⟨ofNat 0⟩

/-- Whether the code point is half of a surrogate pair. -/
def isSurrogate (c : CodePoint) : Bool := 0xD800 ≤ c.val && c.val ≤ 0xDFFF

/-- Whether the code point is in the ASCII range. -/
def isAscii (c : CodePoint) : Bool := c.val < 128

/-- The character of a code point that is no surrogate. -/
def toChar? (c : CodePoint) : Option Char :=
  if h : Nat.isValidChar c.val then some (Char.ofNatAux c.val h) else none

/-- Whether the code point is one of the digits `0` to `9`. -/
def isDigit (c : CodePoint) : Bool := 0x30 ≤ c.val && c.val ≤ 0x39

/-- Whether the code point is one of the letters `A` to `Z` or `a` to `z`. -/
def isLetter (c : CodePoint) : Bool :=
  (0x41 ≤ c.val && c.val ≤ 0x5A) || (0x61 ≤ c.val && c.val ≤ 0x7A)

/-- The value of a decimal or hexadecimal digit. -/
def hexValue? (c : CodePoint) : Option Nat :=
  if 0x30 ≤ c.val ∧ c.val ≤ 0x39 then some (c.val - 0x30)
  else if 0x41 ≤ c.val ∧ c.val ≤ 0x46 then some (c.val - 0x41 + 10)
  else if 0x61 ≤ c.val ∧ c.val ≤ 0x66 then some (c.val - 0x61 + 10)
  else none

@[simp] theorem ofChar_val (c : Char) : (ofChar c).val = c.toNat := rfl

theorem ofChar_inj {a b : Char} : ofChar a = ofChar b ↔ a = b := by
  constructor
  · intro h
    have hv : a.toNat = b.toNat := congrArg CodePoint.val h
    exact Char.ext (UInt32.toNat_inj.1 hv)
  · intro h; rw [h]

end CodePoint

/-- A text: a list of code points. -/
abbrev Text := List CodePoint

namespace Text

/-- The text of a string. -/
def ofString (s : String) : Text := s.toList.map CodePoint.ofChar

instance : Coe String Text := ⟨ofString⟩

/-- No code point of the text is a lone surrogate. -/
def Scalar (t : Text) : Prop := ∀ c ∈ t, c.isSurrogate = false

instance (t : Text) : Decidable (Scalar t) := List.decidableBAll _ t

/-- Every code point of the text is in the ASCII range. -/
def isAscii (t : Text) : Bool := t.all CodePoint.isAscii

/-- The text as a string, each lone surrogate written by `mark`. -/
def toStringWith (mark : CodePoint → String) (t : Text) : String :=
  t.foldl (fun s c => match c.toChar? with
    | some x => s.push x
    | none => s ++ mark c) ""

/-- Whether the text starts with the given one. -/
def startsWith (t head : Text) : Bool := head.isPrefixOf t

/-- Whether the text contains the given one as a block. -/
def hasBlock (t block : Text) : Bool :=
  match t with
  | [] => block.isEmpty
  | c :: rest => startsWith (c :: rest) block || hasBlock rest block

/-- The text before the first code point that satisfies `p`, and the text from there on. -/
def breakAt (p : CodePoint → Bool) (t : Text) : Text × Text :=
  (t.takeWhile fun c => !p c, t.dropWhile fun c => !p c)

/-- The text before and after the first occurrence of a code point. -/
def splitFirst? (c : CodePoint) (t : Text) : Option (Text × Text) :=
  match t.dropWhile (· ≠ c) with
  | [] => none
  | _ :: after => some (t.takeWhile (· ≠ c), after)

/-- The text before and after the last occurrence of a code point. -/
def splitLast? (c : CodePoint) (t : Text) : Option (Text × Text) :=
  (splitFirst? c t.reverse).map fun (a, b) => (b.reverse, a.reverse)

/-- The blocks between the occurrences of a code point; never empty. -/
def splitOn (sep : CodePoint) : Text → List Text
  | [] => [[]]
  | c :: rest =>
    if c = sep then [] :: splitOn sep rest
    else match splitOn sep rest with
      | [] => [[c]]
      | block :: blocks => (c :: block) :: blocks

/-- The blocks with a separator between them. -/
def join (sep : Text) : List Text → Text
  | [] => []
  | [block] => block
  | block :: blocks => block ++ sep ++ join sep blocks

/-- The order of texts by the numbers of their code points. -/
def le : Text → Text → Bool
  | [], _ => true
  | _ :: _, [] => false
  | a :: s, b :: t => a.val < b.val || (a.val == b.val && le s t)

/-- The decimal digits of a natural number. -/
def ofNat (n : Nat) : Text := (Nat.toDigits 10 n).map CodePoint.ofChar

/-- The decimal digits of an integer, after a minus sign where it is negative. -/
def ofInt (i : Int) : Text :=
  if i < 0 then CodePoint.ofChar '-' :: ofNat i.natAbs else ofNat i.natAbs

/-- The value of a text of decimal digits. -/
def digitsValue (t : Text) : Nat := t.foldl (fun n c => 10 * n + (c.val - 0x30)) 0

/-- The hexadecimal digits of a number, padded with zeros to a width. -/
def hexPadded (width n : Nat) : Text :=
  let digits := (Nat.toDigits 16 n).map CodePoint.ofChar
  List.replicate (width - digits.length) (CodePoint.ofChar '0') ++ digits

end Text

end HttpCourier
