import HttpCourier.Json.Failure
import HttpCourier.Json.Value
import HttpCourier.Number.Shortest
import HttpCourier.Text.Encoding

/-!
# HttpCourier.Json.Printer

**JSON text of values.** A `Style` says how a value is spaced, whether text beyond ASCII is
escaped, and how numbers are laid out. Three styles are in use: `spaced` for values that stand
inside other text, `compact` for request bodies, and `indented` for summaries.

Not every value can be written: a `Restriction` tells which ones cannot, and for which reason. A
request body (`bodyText`) has a limit on its levels and holds no lone surrogate; a value inside
other text (`valueText`) has a limit on its levels and on the digits of its integers.
-/

namespace HttpCourier.Json

/-- How values are written. -/
structure Style where
  /-- Between two elements or members. -/
  itemSeparator : String
  /-- Between a member's name and its value. -/
  nameSeparator : String
  /-- By how much each level is indented, each item on a line of its own. -/
  indent : Option Nat
  /-- Whether code points beyond ASCII, and DEL, are escaped. -/
  asciiOnly : Bool
  numbers : Binary64.Layout

namespace Style

/-- The layout of numbers where infinity and NaN are written as words. -/
def wordLayout : Binary64.Layout := ⟨-4, 15, 2, "NaN", "Infinity", "-Infinity"⟩

/-- One line, with a space behind each comma and colon. -/
def spaced : Style := ⟨", ", ": ", none, true, wordLayout⟩

/-- One line without spaces, text beyond ASCII left as it is. -/
def compact : Style := ⟨",", ":", none, false, Binary64.bodyLayout⟩

/-- One item on a line, two spaces for each level. -/
def indented : Style := ⟨",", ": ", some 2, true, wordLayout⟩

end Style

/-- The escape of a number below `0x10000`. -/
def unicodeEscape (n : Nat) : Text := "\\u" ++ Text.hexPadded 4 n

/-- A code point inside a string literal. -/
def escaped (asciiOnly : Bool) (c : CodePoint) : Text :=
  if c = '"' then "\\\""
  else if c = '\\' then "\\\\"
  else if c.val = 0x08 then "\\b"
  else if c.val = 0x09 then "\\t"
  else if c.val = 0x0A then "\\n"
  else if c.val = 0x0C then "\\f"
  else if c.val = 0x0D then "\\r"
  else if c.val < 0x20 then unicodeEscape c.val
  else if asciiOnly ∧ 0x7F ≤ c.val then
    if c.val < 0x10000 then unicodeEscape c.val
    else unicodeEscape (0xD800 + (c.val - 0x10000) / 0x400) ++
      unicodeEscape (0xDC00 + (c.val - 0x10000) % 0x400)
  else [c]

/-- The string literal of a text. -/
def stringLiteral (asciiOnly : Bool) (t : Text) : Text :=
  [CodePoint.ofChar '"'] ++ t.flatMap (escaped asciiOnly) ++ [CodePoint.ofChar '"']

namespace Style

/-- What stands before an item at a level. -/
def lineBreak (style : Style) (level : Nat) : Text :=
  match style.indent with
  | none => []
  | some width => CodePoint.ofChar '\n' :: List.replicate (width * level) (CodePoint.ofChar ' ')

mutual

/-- The text of a value at a level of nesting. -/
def textAt (style : Style) (level : Nat) : Value → Text
  | .null => "null"
  | .bool true => "true"
  | .bool false => "false"
  | .int i => Text.ofInt i
  | .float x => style.numbers.text x
  | .string t => stringLiteral style.asciiOnly t
  | .array [] => "[]"
  | .array (v :: rest) =>
    [CodePoint.ofChar '['] ++ style.lineBreak (level + 1) ++ textAt style (level + 1) v ++
      elementsText style (level + 1) rest ++ style.lineBreak level ++ [CodePoint.ofChar ']']
  | .object [] => "\x7b\x7d"
  | .object ((n, v) :: rest) =>
    [CodePoint.ofChar '{'] ++ style.lineBreak (level + 1) ++ stringLiteral style.asciiOnly n ++
      style.nameSeparator ++ textAt style (level + 1) v ++ membersText style (level + 1) rest ++
      style.lineBreak level ++ [CodePoint.ofChar '}']

/-- The text of the elements that follow the first one. -/
def elementsText (style : Style) (level : Nat) : List Value → Text
  | [] => []
  | v :: rest =>
    style.itemSeparator ++ style.lineBreak level ++ textAt style level v ++
      elementsText style level rest

/-- The text of the members that follow the first one. -/
def membersText (style : Style) (level : Nat) : List (Text × Value) → Text
  | [] => []
  | (n, v) :: rest =>
    style.itemSeparator ++ style.lineBreak level ++ stringLiteral style.asciiOnly n ++
      style.nameSeparator ++ textAt style level v ++ membersText style level rest

end

/-- The text of a value. -/
def text (style : Style) (v : Value) : Text := style.textAt 0 v

end Style

/-! ### What can be written -/

/-- What a way of writing does not take. -/
structure Restriction (F : Type) where
  /-- The fault of a container for which there is no level left. -/
  tooDeep : F
  /-- The fault of a value that is no container, where so many levels are left. -/
  ofLeaf : Nat → Value → Option F
  /-- The fault of a member's name. -/
  ofName : Text → Option F

namespace Restriction

variable {F : Type}

mutual

/-- The first fault of a value, in the order of its text; `levels` more levels are permitted. -/
def fault? (r : Restriction F) (levels : Nat) : Value → Option F
  | .array elements =>
    match levels with
    | 0 => some r.tooDeep
    | levels + 1 => elementsFault? r levels elements
  | .object members =>
    match levels with
    | 0 => some r.tooDeep
    | levels + 1 => membersFault? r levels members
  | v => r.ofLeaf levels v

/-- The first fault of a list of elements. -/
def elementsFault? (r : Restriction F) (levels : Nat) : List Value → Option F
  | [] => none
  | v :: rest =>
    match fault? r levels v with
    | some fault => some fault
    | none => elementsFault? r levels rest

/-- The first fault of a list of members. -/
def membersFault? (r : Restriction F) (levels : Nat) : List (Text × Value) → Option F
  | [] => none
  | (n, v) :: rest =>
    match r.ofName n with
    | some fault => some fault
    | none =>
      match fault? r levels v with
      | some fault => some fault
      | none => membersFault? r levels rest

end

/-- The text of a value that has no fault. -/
def write (r : Restriction F) (levels : Nat) (style : Style) (v : Value) : Except F Text :=
  match r.fault? levels v with
  | some fault => .error fault
  | none => .ok (style.text v)

end Restriction

/-! ### Request bodies -/

/-- Why a value cannot be written as a request body. -/
inductive BodyFault where
  /-- A value stands below more than the permitted levels. -/
  | tooDeep
  | unencodable (e : EncodeError)
  deriving DecidableEq, Repr

/-- The wording of a fault. -/
def BodyFault.message : BodyFault → Text
  | tooDeep => "Error serializing to JSON: ValueError: Maximum serialization depth exceeded"
  | unencodable e => "Error serializing to JSON: UnicodeEncodeError: " ++ e.message

/-- How many levels of values a request body may have. -/
def maxBodyLevels : Nat := 255

/-- The reason why a text cannot stand in a body. -/
def textFault? (t : Text) : Option BodyFault :=
  match t.encode .utf8 with
  | .ok _ => none
  | .error e => some (.unencodable e)

/-- A body takes a level for each value, and no text without an encoding. -/
def bodyRestriction : Restriction BodyFault where
  tooDeep := .tooDeep
  ofLeaf levels v :=
    if levels = 0 then some .tooDeep
    else
      match v with
      | .string t => textFault? t
      | _ => none
  ofName := textFault?

/-- The text of a value as a request body. -/
def bodyText (v : Value) : Except BodyFault Text :=
  bodyRestriction.write maxBodyLevels .compact v

/-! ### Values inside other text -/

/-- Why a value cannot be written inside other text. -/
inductive WriteFault where
  /-- An integer has more digits than are converted. -/
  | overlongInteger
  /-- Containers are nested too deep. -/
  | tooDeep
  deriving DecidableEq, Repr

/-- The wording of a fault. -/
def WriteFault.message : WriteFault → Text
  | overlongInteger => beyondDigits ++ raisingDigits
  | tooDeep => "maximum recursion depth exceeded while encoding a JSON object"

/-- Inside other text, containers take a level each, and no integer has too many digits. -/
def valueRestriction : Restriction WriteFault where
  tooDeep := .tooDeep
  ofLeaf _
    | .int i => if maxDigits < (Text.ofNat i.natAbs).length then some .overlongInteger else none
    | _ => none
  ofName _ := none

/-- The text of a value that stands inside other text. -/
def valueText (v : Value) : Except WriteFault Text := valueRestriction.write maxDepth .spaced v

end HttpCourier.Json
