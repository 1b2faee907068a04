import HttpCourier.Json.Failure
import HttpCourier.Json.Value

/-!
# HttpCourier.Json.Numeral

**Number literals**: an optional minus sign, digits without a needless leading zero, and
optionally a fraction and an exponent. A literal with neither is an integer and is converted
exactly; any other is the nearest binary64 number.
-/

namespace HttpCourier.Json

/-- A number literal, taken apart. -/
structure Numeral where
  negative : Bool
  whole : Text
  /-- The digits after the point. -/
  fraction : Option Text
  /-- Whether the exponent is negative, and its digits. -/
  exponent : Option (Bool × Text)
  deriving DecidableEq, Repr

namespace Numeral

/-- The digits at the start of a text. -/
def digits (t : Text) : Text := t.takeWhile CodePoint.isDigit

/-- The whole part at the start of a text: a zero, or digits that start with another. -/
def scanWhole (t : Text) : Text :=
  if (digits t).head? = some (CodePoint.ofChar '0') then [CodePoint.ofChar '0'] else digits t

/-- The fraction at the start of a text, if a point and a digit stand there. -/
def scanFraction (t : Text) : Option Text :=
  match t with
  | c :: rest =>
    if c = CodePoint.ofChar '.' ∧ digits rest ≠ [] then some (digits rest) else none
  | [] => none

/-- The exponent at the start of a text, with the number of code points that it takes. -/
def scanExponent (t : Text) : Option ((Bool × Text) × Nat) :=
  match t with
  | e :: rest =>
    if e = CodePoint.ofChar 'e' ∨ e = CodePoint.ofChar 'E' then
      let signed := rest.head? = some (CodePoint.ofChar '-') ∨
        rest.head? = some (CodePoint.ofChar '+')
      let ds := digits (if signed then rest.drop 1 else rest)
      if ds = [] then none
      else some ((rest.head? = some (CodePoint.ofChar '-'), ds),
        ds.length + if signed then 2 else 1)
    else none
  | [] => none

/-- The number literal at the start of a text, with the number of code points that it takes. -/
def scan (t : Text) : Option (Numeral × Nat) :=
  let negative := t.head? = some (CodePoint.ofChar '-')
  let body := if negative then t.drop 1 else t
  let whole := scanWhole body
  if whole = [] then none
  else
    let afterWhole := body.drop whole.length
    let fraction := scanFraction afterWhole
    let fractionLength := match fraction with
      | some ds => ds.length + 1
      | none => 0
    let exponent := scanExponent (afterWhole.drop fractionLength)
    some (⟨negative, whole, fraction, exponent.map (·.1)⟩,
      (if negative then 1 else 0) + whole.length + fractionLength +
        (exponent.map (·.2)).getD 0)

/-- The value of the digits of a signed exponent. -/
def exponentValue : Option (Bool × Text) → Int
  | none => 0
  | some (negative, ds) =>
    if negative then -(Text.digitsValue ds : Int) else (Text.digitsValue ds : Int)

/-- The binary64 number nearest to a literal. -/
def toBinary64 (n : Numeral) : Binary64 :=
  let fraction := n.fraction.getD []
  let ds := (n.whole ++ fraction).dropWhile (· = CodePoint.ofChar '0')
  Binary64.ofDecimal n.negative (Text.digitsValue ds) ds.length
    (exponentValue n.exponent - fraction.length)

/-- The integer of a literal without fraction and exponent. -/
def toInt (n : Numeral) : Int :=
  if n.negative then -(Text.digitsValue n.whole : Int) else (Text.digitsValue n.whole : Int)

/-- The value of a literal, or the number of its digits where an integer has too many. -/
def value (n : Numeral) : Except Nat Value :=
  if n.fraction = none ∧ n.exponent = none then
    if maxDigits < n.whole.length then .error n.whole.length
    else .ok (.int n.toInt)
  else .ok (.float n.toBinary64)

end Numeral

end HttpCourier.Json
