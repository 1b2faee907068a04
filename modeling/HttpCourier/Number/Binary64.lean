import HttpCourier.Text.CodePoint

/-!
# HttpCourier.Number.Binary64

**Exact binary floating point.** A finite number is a sign, a mantissa and a power of two, in
the one form that the format has for it: the mantissa is below `2 ^ 53`, and it reaches
`2 ^ 52` unless the exponent is the least one. All arithmetic is done on quotients of natural
numbers and rounded once, to the nearest number, a tie to the even mantissa.

* `ofRatio` is the rounding.
* `ofDecimal` reads a decimal; `add`, `divNat` and `roundPlaces` are the arithmetic that the
  library needs.
* `toInt?` tells the whole numbers apart, and gives their value.
-/

namespace HttpCourier

/-- A binary64 number. -/
inductive Binary64 where
  | nan
  | infinite (negative : Bool)
  /-- The number `± mantissa · 2 ^ exponent`. -/
  | finite (negative : Bool) (mantissa : Nat) (exponent : Int)
  deriving DecidableEq, Repr

namespace Binary64

/-- The least exponent. -/
def minExponent : Int := -1074

/-- The greatest exponent. -/
def maxExponent : Int := 971

/-- Zero with a sign. -/
def zero (negative : Bool) : Binary64 := finite negative 0 minExponent

/-- The quotient of two natural numbers, rounded to the nearest one and a half to the even. -/
def roundDiv (num den : Nat) : Nat :=
  let q := num / den
  let r := num % den
  if den < 2 * r ∨ (den = 2 * r ∧ q % 2 = 1) then q + 1 else q

/-- The quotient `num / den` in units of `2 ^ e`, as a quotient. -/
def inUnits (num den : Nat) (e : Int) : Nat × Nat :=
  if 0 ≤ e then (num, den * Nat.pow 2 e.toNat) else (num * Nat.pow 2 (-e).toNat, den)

/-- The number nearest to `± num / den`. -/
def ofRatio (negative : Bool) (num den : Nat) : Binary64 :=
  if num = 0 then zero negative
  else
    let guess := max ((num.log2 : Int) - den.log2 - 53) minExponent
    let low := inUnits num den guess
    let e := if Nat.pow 2 53 ≤ low.1 / low.2 then guess + 1 else guess
    let scaled := inUnits num den e
    let m := roundDiv scaled.1 scaled.2
    let (m, e) := if m = Nat.pow 2 53 then (Nat.pow 2 52, e + 1) else (m, e)
    if maxExponent < e then infinite negative else finite negative m e

/-- The number nearest to `± digits · 10 ^ exponent`, where `digits` has `width` digits.
Beyond the range of the format no power of ten is computed. -/
def ofDecimal (negative : Bool) (digits width : Nat) (exponent : Int) : Binary64 :=
  if digits = 0 then zero negative
  else if 400 < exponent + width then infinite negative
  else if exponent + width < -400 then zero negative
  else if 0 ≤ exponent then ofRatio negative (digits * Nat.pow 10 exponent.toNat) 1
  else ofRatio negative digits (Nat.pow 10 (-exponent).toNat)

/-- The number nearest to an integer. -/
def ofInt (i : Int) : Binary64 := ofRatio (i < 0) i.natAbs 1

/-- The numerator and denominator of the magnitude of `mantissa · 2 ^ exponent`. -/
def magnitude (mantissa : Nat) (exponent : Int) : Nat × Nat :=
  if 0 ≤ exponent then (mantissa * Nat.pow 2 exponent.toNat, 1)
  else (mantissa, Nat.pow 2 (-exponent).toNat)

/-- The value of a whole number. -/
def toInt? : Binary64 → Option Int
  | finite negative m e =>
    let (num, den) := magnitude m e
    if num % den = 0 then some (if negative then -(num / den : Nat) else (num / den : Nat))
    else none
  | _ => none

/-- Whether the number is below zero. -/
def isNegative : Binary64 → Bool
  | nan => false
  | infinite negative => negative
  | finite negative m _ => negative && m != 0

/-- Whether the number is finite. -/
def isFinite : Binary64 → Bool
  | finite .. => true
  | _ => false

/-- The sum of two numbers, rounded. -/
def add : Binary64 → Binary64 → Binary64
  | nan, _ => nan
  | _, nan => nan
  | infinite a, infinite b => if a = b then infinite a else nan
  | infinite a, _ => infinite a
  | _, infinite b => infinite b
  | finite n₁ m₁ e₁, finite n₂ m₂ e₂ =>
    if m₁ = 0 ∧ m₂ = 0 then zero (n₁ && n₂)
    else
      let e := min e₁ e₂
      let units (n : Bool) (m : Nat) (f : Int) : Int :=
        let u : Int := (m * Nat.pow 2 (f - e).toNat : Nat)
        if n then -u else u
      let sum := units n₁ m₁ e₁ + units n₂ m₂ e₂
      let (num, den) := magnitude sum.natAbs e
      ofRatio (sum < 0) num den

/-- The number divided by a positive natural number, rounded. -/
def divNat (x : Binary64) (n : Nat) : Binary64 :=
  match x with
  | finite negative m e =>
    let (num, den) := magnitude m e
    ofRatio negative num (den * n)
  | other => other

/-- The number rounded to a number of decimal places; its exact value decides, and a half goes
to the even neighbour. -/
def roundPlaces (places : Nat) : Binary64 → Binary64
  | finite negative m e =>
    let (num, den) := magnitude m e
    ofRatio negative (roundDiv (num * Nat.pow 10 places) den) (Nat.pow 10 places)
  | other => other

end Binary64

end HttpCourier
