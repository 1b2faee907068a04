import HttpCourier.Json.Numeral
import HttpCourier.Text.Blank

/-!
# HttpCourier.Json.Token

**The tokens of a JSON text**, each with the offset at which it starts. Blanks between tokens
are skipped. Where no token can be read the list ends with a token that says so: whether that
is an error, and which, depends on what was expected there.
-/

namespace HttpCourier.Json

/-- A token. -/
inductive Token where
  | beginArray
  | endArray
  | beginObject
  | endObject
  | colon
  | comma
  /-- `null`, `true`, `false`, and the three words for numbers that are not finite. -/
  | word (v : Value)
  | number (n : Numeral)
  | string (t : Text)
  /-- A string that cannot be read, with the reason and the offset of the fault. -/
  | brokenString (reason : Reason) (offset : Nat)
  /-- No token starts here. -/
  | stray
  /-- The end of the text. -/
  | finish

/-! ### String literals -/

/-- A code point of a string literal, as it was written. -/
inductive Letter where
  /-- Written as itself or by a short escape. -/
  | plain (c : CodePoint)
  /-- Written by its number, as `\uXXXX`. -/
  | numbered (n : Nat)

/-- Whether the number is the first half of a surrogate pair. -/
def isHighSurrogate (n : Nat) : Bool := 0xD800 ≤ n && n ≤ 0xDBFF

/-- Whether the number is the second half of a surrogate pair. -/
def isLowSurrogate (n : Nat) : Bool := 0xDC00 ≤ n && n ≤ 0xDFFF

/-- The code points of letters: two halves of a pair, both written by number, join. -/
def Letter.join : List Letter → Text
  | [] => []
  | .plain c :: rest => c :: join rest
  | [.numbered n] => [CodePoint.ofNat n]
  | .numbered n :: .plain c :: rest => CodePoint.ofNat n :: c :: join rest
  | .numbered n :: .numbered m :: rest =>
    if isHighSurrogate n && isLowSurrogate m then
      CodePoint.ofNat (0x10000 + (n - 0xD800) * 0x400 + (m - 0xDC00)) :: join rest
    else CodePoint.ofNat n :: join (.numbered m :: rest)

/-- The code point that a short escape stands for. -/
def shortEscape? (c : CodePoint) : Option CodePoint :=
  if c = '"' ∨ c = '\\' ∨ c = '/' then some c
  else if c = 'b' then some (CodePoint.ofNat 0x08)
  else if c = 'f' then some (CodePoint.ofNat 0x0C)
  else if c = 'n' then some (CodePoint.ofNat 0x0A)
  else if c = 'r' then some (CodePoint.ofNat 0x0D)
  else if c = 't' then some (CodePoint.ofNat 0x09)
  else none

/-- The number that four hexadecimal digits spell. -/
def hexValue? (a b c d : CodePoint) : Option Nat := do
  let w ← a.hexValue?
  let x ← b.hexValue?
  let y ← c.hexValue?
  let z ← d.hexValue?
  some (((w * 16 + x) * 16 + y) * 16 + z)

/-- The letters of a string literal and the number of code points that they take, the closing
quote included. `opened` is the offset of the opening quote, and `at_` that of the text. -/
def scanLetters (opened at_ : Nat) : Text → Except (Reason × Nat) (List Letter × Nat)
  | [] => .error (.unterminatedString, opened)
  | c :: rest =>
    if c = '"' then .ok ([], 1)
    else if c = '\\' then
      match rest with
      | [] => .error (.unterminatedString, opened)
      | e :: rest =>
        if e = 'u' then
          match rest with
          | h₁ :: h₂ :: h₃ :: h₄ :: rest =>
            match hexValue? h₁ h₂ h₃ h₄, rest.isEmpty with
            | some n, false =>
              (scanLetters opened (at_ + 6) rest).map fun (letters, n') =>
                (.numbered n :: letters, n' + 6)
            | _, _ => .error (.badUnicodeEscape, at_ + 1)
          | _ => .error (.badUnicodeEscape, at_ + 1)
        else match shortEscape? e with
          | some d =>
            (scanLetters opened (at_ + 2) rest).map fun (letters, n) =>
              (.plain d :: letters, n + 2)
          | none => .error (.badEscape, at_)
    else if c.val < 0x20 then .error (.controlCharacter, at_)
    else
      (scanLetters opened (at_ + 1) rest).map fun (letters, n) => (.plain c :: letters, n + 1)

/-! ### Tokens -/

/-- The words that are values. -/
def words : List (Text × Value) :=
  [("null", .null), ("true", .bool true), ("false", .bool false), ("NaN", .float .nan),
   ("Infinity", .float (.infinite false)), ("-Infinity", .float (.infinite true))]

namespace Token

/-- The token that starts with `c`, which stands at the given offset, and the number of code
points that it takes. -/
def first (at_ : Nat) (c : CodePoint) (rest : Text) : Token × Nat :=
  if c = '[' then (beginArray, 1)
  else if c = ']' then (endArray, 1)
  else if c = '{' then (beginObject, 1)
  else if c = '}' then (endObject, 1)
  else if c = ':' then (colon, 1)
  else if c = ',' then (comma, 1)
  else if c = '"' then
    match scanLetters at_ (at_ + 1) rest with
    | .ok (letters, n) => (string (Letter.join letters), n + 1)
    | .error (reason, offset) => (brokenString reason offset, 1)
  else match words.find? fun w => Text.startsWith (c :: rest) w.1 with
    | some (spelling, v) => (word v, spelling.length)
    | none =>
      match Numeral.scan (c :: rest) with
      | some (n, length) => (number n, length)
      | none => (stray, 1)

/-- Whether the text cannot be read beyond the token. -/
def isFault : Token → Bool
  | brokenString .. => true
  | stray => true
  | _ => false

/-- The tokens of a text that starts at an offset, after `skip` code points that belong to a
token already read. -/
def scanFrom (skip at_ : Nat) : Text → List (Nat × Token)
  | [] => [(at_, finish)]
  | c :: rest =>
    match skip with
    | skip + 1 => scanFrom skip (at_ + 1) rest
    | 0 =>
      if c.isJsonBlank then scanFrom 0 (at_ + 1) rest
      else
        let (token, length) := first at_ c rest
        (at_, token) :: if token.isFault then [] else scanFrom (length - 1) (at_ + 1) rest

/-- The tokens of a text. -/
def scan (t : Text) : List (Nat × Token) := scanFrom 0 0 t

end Token

end HttpCourier.Json
