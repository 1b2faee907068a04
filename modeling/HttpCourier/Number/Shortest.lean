import HttpCourier.Number.Binary64

/-!
# HttpCourier.Number.Shortest

**The fewest digits that read back.** Among the decimals that round to a given number, the
shortest is written, and of several shortest the nearest. For one digit, two digits and so on
up to seventeen, the two decimals next to the number on that grid are tried.

Where the positional form ends and how an exponent is written is for a `Layout` to say; the
library has two of them.
-/

namespace HttpCourier

namespace Binary64

/-- A decimal `digits · 10 ^ exponent`. -/
structure Decimal where
  digits : Nat
  exponent : Int
  deriving DecidableEq, Repr

/-- How many decimal digits a natural number has. -/
def digitCount (n : Nat) : Nat := (Nat.toDigits 10 n).length

/-- The decimal exponent of the first digit of a positive quotient. -/
def leadingExponent (num den : Nat) : Int :=
  let guess : Int := (digitCount num : Int) - digitCount den
  let reaches : Bool :=
    if 0 ≤ guess then den * Nat.pow 10 guess.toNat ≤ num else den ≤ num * Nat.pow 10 (-guess).toNat
  if reaches then guess else guess - 1

/-- The decimals with the given number of digits on either side of `num / den`, the nearer one
first. -/
def neighbours (num den : Nat) (lead : Int) (count : Nat) : List Decimal :=
  let e := lead - (count - 1 : Nat)
  let (n, d) := if 0 ≤ e then (num, den * Nat.pow 10 e.toNat) else (num * Nat.pow 10 (-e).toNat, den)
  let below : Decimal := ⟨n / d, e⟩
  let above : Decimal := ⟨n / d + 1, e⟩
  let r := n % d
  if r = 0 then [below]
  else if 2 * r < d ∨ (2 * r = d ∧ n / d % 2 = 0) then [below, above] else [above, below]

/-- Whether the decimal rounds to the finite number with this mantissa and exponent. -/
def readsBack (m : Nat) (e : Int) (d : Decimal) : Bool :=
  ofDecimal false d.digits (digitCount d.digits) d.exponent == finite false m e

/-- The first of the grids `count`, `count + 1`, … that has a decimal which reads back. -/
def shortestFrom (m : Nat) (e : Int) (num den : Nat) (lead : Int) : Nat → Nat → Decimal
  | 0, _ => ⟨num / den, 0⟩
  | more + 1, count =>
    match (neighbours num den lead count).find? (readsBack m e) with
    | some d => d
    | none => shortestFrom m e num den lead more (count + 1)

/-- The shortest decimal that reads back as `mantissa · 2 ^ exponent`. -/
def shortest (m : Nat) (e : Int) : Decimal :=
  if m = 0 then ⟨0, 0⟩
  else
    let (num, den) := magnitude m e
    shortestFrom m e num den (leadingExponent num den) 17 1

/-- How numbers are laid out in a format. -/
structure Layout where
  /-- The least decimal exponent of the first digit that is written positionally. -/
  positionalFrom : Int
  /-- The greatest one. -/
  positionalTo : Int
  /-- The least number of digits of an exponent. -/
  exponentWidth : Nat
  nan : String
  infinity : String
  negativeInfinity : String

/-- The layout of numbers in messages, events and summaries. -/
def messageLayout : Layout := ⟨-4, 15, 2, "nan", "inf", "-inf"⟩

/-- The layout of numbers in a request body: JSON has no infinity and no NaN. -/
def bodyLayout : Layout := ⟨-5, 15, 1, "null", "null", "null"⟩

/-- The digits without trailing zeros, as text. -/
def significant (n : Nat) : Text :=
  ((Text.ofNat n).reverse.dropWhile (· = CodePoint.ofChar '0')).reverse

/-- Copies of the digit zero. -/
def zeros (n : Nat) : Text := List.replicate n (CodePoint.ofChar '0')

/-- The text of a positive decimal: its significant digits, and the exponent of the first. -/
def Layout.digitsText (layout : Layout) (digits : Text) (lead : Int) : Text :=
  if layout.positionalFrom ≤ lead ∧ lead ≤ layout.positionalTo then
    if lead < 0 then "0." ++ zeros (-lead - 1).toNat ++ digits
    else
      let whole := lead.toNat + 1
      if digits.length ≤ whole then digits ++ zeros (whole - digits.length) ++ ".0"
      else digits.take whole ++ "." ++ digits.drop whole
  else
    let head := digits.take 1 ++ (if digits.length ≤ 1 then [] else CodePoint.ofChar '.' :: digits.drop 1)
    let power := Text.ofNat lead.natAbs
    head ++ "e" ++ (if lead < 0 then "-" else "+") ++
      zeros (layout.exponentWidth - power.length) ++ power

/-- The text of a number. -/
def Layout.text (layout : Layout) : Binary64 → Text
  | .nan => layout.nan
  | .infinite false => layout.infinity
  | .infinite true => layout.negativeInfinity
  | .finite negative m e =>
    let minus : Text := if negative then "-" else []
    if m = 0 then minus ++ "0.0"
    else
      let d := shortest m e
      let lead := d.exponent + digitCount d.digits - 1
      minus ++ layout.digitsText (significant d.digits) lead

end Binary64

end HttpCourier
