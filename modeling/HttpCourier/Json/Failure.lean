import HttpCourier.Text.CodePoint

/-!
# HttpCourier.Json.Failure

**Why a text is no JSON.** A malformed text is reported with a reason and a place; a place is an
offset, and the line and column that it falls on. Two more things stop a reader: an integer
with more digits than are converted, and containers nested too deep.
-/

namespace HttpCourier.Json

/-- What is wrong at a place. -/
inductive Reason where
  | expectingValue
  | expectingName
  | expectingColon
  | expectingComma
  | extraData
  | unterminatedString
  | controlCharacter
  | badEscape
  | badUnicodeEscape
  | byteOrderMark
  | unterminatedComment
  deriving DecidableEq, Repr

/-- The wording of a reason. -/
def Reason.message : Reason → String
  | expectingValue => "Expecting value"
  | expectingName => "Expecting property name enclosed in double quotes"
  | expectingColon => "Expecting ':' delimiter"
  | expectingComma => "Expecting ',' delimiter"
  | extraData => "Extra data"
  | unterminatedString => "Unterminated string starting at"
  | controlCharacter => "Invalid control character at"
  | badEscape => "Invalid \\escape"
  | badUnicodeEscape => "Invalid \\uXXXX escape"
  | byteOrderMark => "Unexpected UTF-8 BOM (decode using utf-8-sig)"
  | unterminatedComment => "Unterminated block comment"

/-- A place in a text. Lines and columns count from one, offsets from zero. -/
structure Place where
  offset : Nat
  line : Nat
  column : Nat
  deriving DecidableEq, Repr

/-- The place of an offset in a text. -/
def Place.of (t : Text) (offset : Nat) : Place :=
  let before := t.take offset
  let newline := CodePoint.ofChar '\n'
  ⟨offset, before.count newline + 1,
    (before.reverse.takeWhile (· ≠ newline)).length + 1 + (offset - before.length)⟩

/-- Why a text gives no value. -/
inductive Failure where
  | malformed (reason : Reason) (place : Place)
  /-- An integer literal has more digits than are converted. -/
  | overlongInteger (digits : Nat)
  /-- Containers are nested too deep. -/
  | tooDeep
  deriving DecidableEq, Repr

/-- How many digits an integer literal may have. -/
def maxDigits : Nat := 4300

/-- How many containers may be open at once. -/
def maxDepth : Nat := 990

/-- What is said of an integer with more digits than are converted. -/
def beyondDigits : Text :=
  "Exceeds the limit (" ++ Text.ofNat maxDigits ++ " digits) for integer string conversion"

/-- How that limit can be raised. -/
def raisingDigits : Text := "; use sys.set_int_max_str_digits() to increase the limit"

/-- The wording of a failure. -/
def Failure.message : Failure → Text
  | malformed reason place =>
    reason.message ++ ": line " ++ Text.ofNat place.line ++ " column " ++ Text.ofNat place.column ++
      " (char " ++ Text.ofNat place.offset ++ ")"
  | overlongInteger digits =>
    beyondDigits ++ ": value has " ++ Text.ofNat digits ++ " digits" ++ raisingDigits
  | tooDeep => "nesting too deep"

end HttpCourier.Json
