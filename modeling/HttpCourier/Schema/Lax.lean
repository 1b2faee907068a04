import HttpCourier.Json.Numeral
import HttpCourier.Schema.Complaint
import HttpCourier.Text.Blank
import HttpCourier.Text.Case

/-!
# HttpCourier.Schema.Lax

**Lax conversions of JSON values to fields.** A field accepts more than values of its own type,
as long as nothing is lost: a whole number may be spelled as a float or in a string, and a
boolean by one of a few words or by `0` and `1`. What is no such spelling is refused with a
cause that says how far the reading came.
-/

namespace HttpCourier.Schema

open Json (Value Members)

/-- White space that a number may have around it. -/
def isPadding (c : CodePoint) : Bool := c.isBlank && !(0x1C ≤ c.val && c.val ≤ 0x1F)

/-! ### Text -/

/-- A string. -/
def text : Value → Checked Text
  | .string t => .fits t
  | _ => .fault .notAString

/-- A string that is not empty and has an encoding. -/
def properText (v : Value) : Checked { t : Text // t ≠ [] ∧ Text.Scalar t } :=
  match v with
  | .string t =>
    if hs : Text.Scalar t then
      if he : t ≠ [] then .fits ⟨t, he, hs⟩ else .fault .emptyString
    else .fault .notEncodable
  | _ => .fault .notAString

/-! ### Whole numbers -/

/-- The digits behind leading zeros and the underscores between them; one zero where nothing
else is left. A text that does not start with a digit is refused. -/
def dropLeadingZeros (t : Text) : Option Text :=
  match t with
  | [] => none
  | c :: _ =>
    if !c.isDigit then none
    else if c ≠ '0' then some t
    else
      let zeros := t.takeWhile fun d => d = CodePoint.ofChar '0' || d = CodePoint.ofChar '_'
      match t.drop zeros.length with
      | [] => some (zeros.drop (zeros.length - 1))
      | d :: rest =>
        if d.isDigit then some (d :: rest)
        else if d = '.' then some (zeros.drop (zeros.length - 1) ++ d :: rest)
        else none

/-- The text before a point that only zeros follow. -/
def dropDecimalZeros (t : Text) : Text :=
  match Text.splitFirst? '.' t with
  | some (whole, zeros) => if zeros.all (· = CodePoint.ofChar '0') then whole else t
  | none => t

/-- The text without underscores, each of which has to stand between two other letters. -/
def dropUnderscores (t : Text) : Option Text :=
  let pieces := Text.splitOn '_' t
  if pieces.any List.isEmpty then none else some pieces.flatten

/-- The integer that a text spells. -/
def integerOfText (t : Text) : Checked Int :=
  if ¬ Text.Scalar t then .fault .notEncodable
  else if Json.maxDigits < t.length then .fault .oversizedInteger
  else
    let trimmed := Text.stripBy isPadding t
    let negative := trimmed.head? = some (CodePoint.ofChar '-')
    let signed := negative ∨ trimmed.head? = some (CodePoint.ofChar '+')
    let digits? := do
      let digits ← dropLeadingZeros (if signed then trimmed.drop 1 else trimmed)
      let digits ← dropUnderscores (dropDecimalZeros digits)
      if digits.all CodePoint.isDigit then some digits else none
    match digits? with
    | none => .fault .unreadableInteger
    | some digits =>
      let n : Int := Text.digitsValue digits
      .fits (if negative then -n else n)

/-- The integer of a float, within the range of a machine word. -/
def integerOfFloat (x : Binary64) : Checked Int :=
  if !x.isFinite then .fault .notFinite
  else match x.toInt? with
    | none => .fault .fractionalInteger
    | some i => if i.natAbs < Nat.pow 2 63 then .fits i else .fault .oversizedInteger

/-- An integer. -/
def integer : Value → Checked Int
  | .int i => .fits i
  | .bool b => .fits (if b then 1 else 0)
  | .float x => integerOfFloat x
  | .string t => integerOfText t
  | _ => .fault .notAnInteger

/-- An integer that is not too small. -/
def integerFrom (least : Int) (v : Value) : Checked { i : Int // least ≤ i } :=
  (integer v).andThen fun i => if h : least ≤ i then .fits ⟨i, h⟩ else .fault (.below least)

/-- An integer within bounds; the upper one is looked at first. -/
def integerWithin (least greatest : Int) (v : Value) :
    Checked { i : Int // least ≤ i ∧ i ≤ greatest } :=
  (integer v).andThen fun i =>
    if hg : i ≤ greatest then
      if hl : least ≤ i then .fits ⟨i, hl, hg⟩ else .fault (.below least)
    else .fault (.above greatest)

/-! ### Booleans -/

/-- The words that stand for a boolean. -/
def booleanWords : List (Text × Bool) :=
  [("0", false), ("off", false), ("f", false), ("false", false), ("n", false), ("no", false),
   ("1", true), ("on", true), ("t", true), ("true", true), ("y", true), ("yes", true)]

/-- The boolean of a number. -/
def booleanOfInt (i : Int) : Checked Bool :=
  if i = 0 then .fits false else if i = 1 then .fits true else .fault .unreadableBoolean

/-- A boolean. -/
def boolean : Value → Checked Bool
  | .bool b => .fits b
  | .int i => booleanOfInt i
  | .float x =>
    match integerOfFloat x with
    | .fits i => booleanOfInt i
    | .rejects _ => .fault .notABoolean
  | .string t =>
    if ¬ Text.Scalar t then .fault .notEncodable
    else match booleanWords.lookup (Text.asciiLower t) with
      | some b => .fits b
      | none => .fault .unreadableBoolean
  | _ => .fault .notABoolean

/-! ### Numbers -/

/-- The words for numbers that are not finite. -/
def numberWords : List (Text × Binary64) :=
  [("inf", .infinite false), ("infinity", .infinite false), ("nan", .nan)]

/-- The number with its sign turned. -/
def negated : Binary64 → Binary64
  | .nan => .nan
  | .infinite n => .infinite (!n)
  | .finite n m e => .finite (!n) m e

/-- The exponent behind a letter `e`, where the text is one. -/
def exponentOf? (t : Text) : Option (Bool × Text) :=
  match t with
  | [] => none
  | s :: rest =>
    let digits := if s = '-' ∨ s = '+' then rest else t
    if digits.isEmpty || !digits.all CodePoint.isDigit then none
    else some (s = CodePoint.ofChar '-', digits)

/-- The number that an unsigned text spells: digits with a point anywhere among them, and
possibly an exponent. -/
def unsignedNumber? (t : Text) : Option Binary64 :=
  match numberWords.lookup (Text.asciiLower t) with
  | some x => some x
  | none =>
    let (mantissa, power) := Text.breakAt (fun c => c = CodePoint.ofChar 'e' || c = CodePoint.ofChar 'E') t
    let whole := mantissa.takeWhile CodePoint.isDigit
    let rest := mantissa.drop whole.length
    let fraction? : Option Text :=
      match rest with
      | [] => some []
      | c :: digits => if c = '.' ∧ digits.all CodePoint.isDigit then some digits else none
    let exponent? : Option (Option (Bool × Text)) :=
      match power with
      | [] => some none
      | _ :: digits => (exponentOf? digits).map some
    match fraction?, exponent? with
    | some fraction, some exponent =>
      if whole.isEmpty && fraction.isEmpty then none
      else some (Json.Numeral.toBinary64 ⟨false, whole, some fraction, exponent⟩)
    | _, _ => none

/-- The number that a text spells. -/
def number? (t : Text) : Option Binary64 :=
  match t with
  | c :: rest =>
    if c = '-' then (unsignedNumber? rest).map negated
    else if c = '+' then unsignedNumber? rest
    else unsignedNumber? t
  | [] => none

/-- The number of a text, where underscores may stand between digits. -/
def numberOfText (t : Text) : Checked Binary64 :=
  if ¬ Text.Scalar t then .fault .notEncodable
  else
    let trimmed := Text.stripBy isPadding t
    match number? trimmed with
    | some x => .fits x
    | none =>
      match (dropUnderscores trimmed).bind number? with
      | some x => .fits x
      | none => .fault .unreadableNumber

/-- A number. -/
def number : Value → Checked Binary64
  | .float x => .fits x
  | .int i => .fits (Binary64.ofInt i)
  | .bool b => .fits (Binary64.ofInt (if b then 1 else 0))
  | .string t => numberOfText t
  | _ => .fault .notANumber

/-- A number that is not below zero. -/
def nonNegativeNumber (v : Value) : Checked Binary64 :=
  (number v).andThen fun x => if x.isNegative then .fault (.below 0) else .fits x

/-! ### Containers -/

/-- A value that may be absent or null. -/
def optional (check : Value → Checked α) : Value → Checked (Option α)
  | .null => .fits none
  | v => (check v).map some

/-- A list. -/
def list (check : Value → Checked α) : Value → Checked (List α)
  | .array vs => Checked.each check 0 vs
  | _ => .fault .notAList

/-- A list that is kept as a tuple. -/
def tuple (check : Value → Checked α) : Value → Checked (List α)
  | .array vs => Checked.each check 0 vs
  | _ => .fault .notATuple

/-- A mapping. -/
def mapping (check : Value → Checked α) : Value → Checked (List (Text × α))
  | .object members => Checked.eachMember check members
  | _ => .fault .notAMapping

/-! ### Models -/

/-- The field of a model: its value if it is given, and otherwise a default. -/
def field (given : Members) (name : String) (absent : Checked α) (check : Value → Checked α) :
    Checked α :=
  match given.get? (Text.ofString name) with
  | some v => (check v).under (Text.ofString name)
  | none => absent

/-- A field that has to be given. -/
def required (given : Members) (name : String) (check : Value → Checked α) : Checked α :=
  field given name (.rejects [⟨[Text.ofString name], .missing⟩]) check

/-- A field with a default. -/
def withDefault (given : Members) (name : String) (default : α) (check : Value → Checked α) :
    Checked α :=
  field given name (.fits default) check

/-- Complains about the fields that the model does not have. -/
def noOthers (given : Members) (names : List String) (x : Checked α) : Checked α :=
  let unknown := given.filter fun m => !(names.map Text.ofString).contains m.1
  let complaints := unknown.map fun m => (⟨[m.1], .unknownField⟩ : Complaint)
  if complaints.isEmpty then x
  else match x with
    | .fits _ => .rejects complaints
    | .rejects cs => .rejects (cs ++ complaints)

end HttpCourier.Schema
