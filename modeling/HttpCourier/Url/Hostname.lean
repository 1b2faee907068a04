import HttpCourier.Text.CodePoint
import HttpCourier.Url.LabelTable

/-!
# HttpCourier.Url.Hostname

**Host names beyond ASCII**, written label by label in ASCII. A label that is ASCII already
stays as it is; any other is encoded with Punycode behind `xn--`.
-/

namespace HttpCourier.Url

/-! ### Punycode -/

/-- The letter of a base-36 digit. -/
def punycodeLetter (d : Nat) : CodePoint :=
  if d < 26 then CodePoint.ofNat (0x61 + d) else CodePoint.ofNat (0x30 + (d - 26))

/-- The bias behind a delta, given how many code points are placed. -/
def adaptBias (delta count : Nat) (isFirst : Bool) : Nat :=
  let halved := if isFirst then delta / 700 else delta / 2
  let start := halved + halved / count
  let rec scale (k d : Nat) : Nat → Nat
    | 0 => k
    | fuel + 1 => if 455 < d then scale (k + 36) (d / 35) fuel else k + 36 * d / (d + 38)
  scale 0 start (start + 1)

/-- The digits of a delta as a number of variable length. -/
def deltaLetters (bias : Nat) (q k : Nat) : Nat → Text
  | 0 => []
  | fuel + 1 =>
    let t := if k ≤ bias then 1 else if bias + 26 ≤ k then 26 else k - bias
    if q < t then [punycodeLetter q]
    else
      punycodeLetter (t + (q - t) % (36 - t)) ::
        deltaLetters bias ((q - t) / (36 - t)) (k + 36) fuel

/-- The state of an encoding: the delta so far, the bias, how many code points are placed, and
the letters in reverse order of their groups. -/
structure Placing where
  delta : Nat
  bias : Nat
  placed : Nat
  groups : List Text

/-- One code point of the label, in the round that places the code points numbered `n`. -/
def placeCodePoint (basic n : Nat) (s : Placing) (c : CodePoint) : Placing :=
  if c.val < n then { s with delta := s.delta + 1 }
  else if c.val = n then
    { delta := 0
      bias := adaptBias s.delta (s.placed + 1) (s.placed = basic)
      placed := s.placed + 1
      groups := deltaLetters s.bias s.delta 36 (s.delta + 1) :: s.groups }
  else s

/-- The letters for the code points beyond ASCII, in rounds of rising number; `n` is the number
that the next round could start at. -/
def placeRounds (label : Text) (basic : Nat) (n : Nat) (s : Placing) : List Nat → Placing
  | [] => s
  | m :: rounds =>
    let s := { s with delta := s.delta + (m - n) * (s.placed + 1) }
    let s := label.foldl (placeCodePoint basic m) s
    placeRounds label basic (m + 1) { s with delta := s.delta + 1 } rounds

/-- A label in Punycode. -/
def punycode (label : Text) : Text :=
  let basic := label.filter CodePoint.isAscii
  let numbers := ((label.filter fun c => !c.isAscii).map CodePoint.val).mergeSort.eraseDups
  let s := placeRounds label basic.length 128 ⟨0, 72, basic.length, []⟩ numbers
  (if basic = [] then [] else basic ++ [CodePoint.ofChar '-']) ++ s.groups.reverse.flatten

/-! ### Labels -/

/-- Whether the code point separates labels. -/
def isLabelDot (c : CodePoint) : Bool :=
  c = '.' || c.val = 0x3002 || c.val = 0xFF0E || c.val = 0xFF61

/-- Whether the hyphens of a label are in order: none at either end, and no two of them in the
third and fourth place. -/
def hyphensAreFine (label : Text) : Bool :=
  label.head? != some (CodePoint.ofChar '-') && label.getLast? != some (CodePoint.ofChar '-') &&
    (label.drop 2).take 2 != [CodePoint.ofChar '-', CodePoint.ofChar '-']

/-- Whether the label holds one of the decimal digits that start with the one numbered `first`. -/
def holdsDigits (first : Nat) (label : Text) : Bool :=
  label.any fun c => first ≤ c.val && c.val < first + 10

/-- Whether a code point may stand in a label, between what stands before and after it. A middle
dot may stand between two letters `l`; Arabic digits of two kinds do not go together; the marks
of numerals, abbreviations and word breaks are taken as they are. -/
def mayStandIn (label : Text) (before : Option CodePoint) (c : CodePoint) (after : Option CodePoint) :
    Bool :=
  if c.isAscii then c.isLetter || c.isDigit || c = '-'
  else if c.val = 0xB7 then
    before = some (CodePoint.ofChar 'l') && after = some (CodePoint.ofChar 'l')
  else if 0x660 ≤ c.val ∧ c.val < 0x66A then !holdsDigits 0x6F0 label
  else if 0x6F0 ≤ c.val ∧ c.val < 0x6FA then !holdsDigits 0x660 label
  else [0x375, 0x5F3, 0x5F4, 0x30FB].contains c.val || labelRows.any (inRow c.val)

/-- Whether the code points of the rest of a label may stand there. -/
def lettersAreFine (label : Text) (before : Option CodePoint) : Text → Bool
  | [] => true
  | c :: rest => mayStandIn label before c rest.head? && lettersAreFine label (some c) rest

/-- Whether the label is in Punycode already. -/
def isEncoded (label : Text) : Bool := Text.isAscii label && Text.startsWith label "xn--"

/-- The ASCII form of a label. -/
def asciiLabel? (label : Text) : Option Text :=
  let form? :=
    if label = [] then none
    else if isEncoded label then some label
    else if !hyphensAreFine label || !lettersAreFine label none label then none
    else if Text.isAscii label then some label
    else some ("xn--" ++ punycode label)
  match form? with
  | some form => if form.length ≤ 63 then some form else none
  | none => none

/-- The ASCII form of a host name. -/
def asciiHostname? (host : Text) : Option Text :=
  let labels := Text.splitOn '.' (host.map fun c => if isLabelDot c then '.' else c)
  let trailing := labels.getLast? = some []
  let labels := if trailing then labels.dropLast else labels
  match labels.mapM asciiLabel? with
  | none => none
  | some [] => none
  | some forms =>
    let name := Text.join [CodePoint.ofChar '.'] forms ++
      if trailing then [CodePoint.ofChar '.'] else []
    if name.length ≤ (if trailing then 254 else 253) then some name else none

end HttpCourier.Url
