import HttpCourier.Text.Case
import HttpCourier.Url.Locator

/-!
# HttpCourier.Transport.Expiry

**Dates until which cookies are kept.** A date is spelled as `Wed, 09 Jun 2100 10:18:14 GMT`, or
less strictly: the weekday and the time of day may be left out, dashes or slashes may stand
between day, month and year, a year may be shortened, and the time zone may be a number.

A text that is no date says nothing. The exception is a text in the strict spelling whose month
is none: it cannot be read at all.
-/

namespace HttpCourier.Expiry

/-- A date, which need not exist. -/
structure Date where
  year : Nat
  month : Nat
  day : Nat
  hour : Nat
  minute : Nat
  second : Nat
  deriving DecidableEq, Repr

/-! ### Counting seconds -/

/-- How many leap days there are before a year, from the year one on. -/
def leapDaysBefore (year : Nat) : Nat :=
  (year - 1) / 4 - (year - 1) / 100 + (year - 1) / 400

/-- Whether a year is a leap year. -/
def isLeap (year : Nat) : Bool := year % 4 = 0 && (year % 100 ≠ 0 || year % 400 = 0)

/-- How many days of a common year are before a month. -/
def daysBeforeMonth (month : Nat) : Nat :=
  [0, 31, 59, 90, 120, 151, 181, 212, 243, 273, 304, 334].getD (month - 1) 0

/-- How many days are between the start of the year 1970 and a day; a day behind the end of its
month is one of the next month. -/
def dayNumber (year month day : Nat) : Nat :=
  365 * (year - 1970) + (leapDaysBefore year - leapDaysBefore 1970) + daysBeforeMonth month +
    (if isLeap year ∧ 2 < month then 1 else 0) + (day - 1)

/-- The seconds from the start of the year 1970 to a date, if it is one. -/
def Date.seconds? (d : Date) : Option Int :=
  if 1970 ≤ d.year ∧ 1 ≤ d.month ∧ d.month ≤ 12 ∧ 1 ≤ d.day ∧ d.day ≤ 31 ∧ d.hour ≤ 24 ∧
      d.minute ≤ 59 ∧ d.second ≤ 61 then
    some (((dayNumber d.year d.month d.day * 24 + d.hour) * 60 + d.minute) * 60 + d.second : Nat)
  else none

/-! ### Words of a date -/

/-- The names of the months, shortened. -/
def months : List Text :=
  ["jan", "feb", "mar", "apr", "may", "jun", "jul", "aug", "sep", "oct", "nov", "dec"]

/-- The month of a name. -/
def monthOfName? (t : Text) : Option Nat :=
  let index := months.idxOf (Text.lower t)
  if index < 12 then some (index + 1) else none

/-- The month of a name or a number. -/
def month? (t : Text) : Option Nat :=
  match monthOfName? t with
  | some m => some m
  | none =>
    match Url.wholeNumber? t with
    | some n => if 1 ≤ n ∧ n ≤ 12 then some n.toNat else none
    | none => none

/-- The names of the weekdays, shortened. -/
def weekdays : List Text := ["sun", "mon", "tue", "wed", "thu", "fri", "sat"]

/-- Whether the code point is a blank of ASCII. -/
def isGap (c : CodePoint) : Bool := c.val = 0x20 || (0x09 ≤ c.val && c.val ≤ 0x0D)

/-- Whether the code point can stand in a word. -/
def inWord (c : CodePoint) : Bool := c.isLetter || c.isDigit || c = '_'

/-- The text without blanks in front. -/
def dropGap (t : Text) : Text := t.dropWhile isGap

/-- The text behind the name of a weekday, if it starts with one. -/
def dropWeekday (t : Text) : Text :=
  if weekdays.contains (Text.asciiLower (t.take 3)) then
    let rest := (t.drop 3).dropWhile CodePoint.isLetter
    dropGap (if rest.head? = some (CodePoint.ofChar ',') then rest.drop 1 else rest)
  else t

/-- The text behind what separates day, month and year: blanks, a dash or a slash. -/
def dropSeparator? (t : Text) : Option Text :=
  match t with
  | [] => none
  | c :: rest =>
    if isGap c then some (dropGap rest)
    else if c = '-' ∨ c = '/' then some rest
    else none

/-- One or two digits in front of a separator of day, month and year. -/
def day? (t : Text) : Option (Nat × Text) :=
  let digits := t.takeWhile CodePoint.isDigit
  if digits.length = 1 ∨ digits.length = 2 then
    (dropSeparator? (t.drop digits.length)).map fun rest => (Text.digitsValue digits, rest)
  else none

/-- Two digits at the start of a text. -/
def twoDigits? (t : Text) : Option (Nat × Text) :=
  let digits := t.take 2
  if digits.length = 2 ∧ digits.all CodePoint.isDigit then some (Text.digitsValue digits, t.drop 2)
  else none

/-- The number behind a colon at the start of a text. -/
def behindColon? (t : Text) : Option (Nat × Text) :=
  if t.head? = some (CodePoint.ofChar ':') then twoDigits? (t.drop 1) else none

/-- The time of day behind a date, and what follows; midnight where none is spelled. -/
def clock (t : Text) : (Nat × Nat × Nat) × Text :=
  let behind? :=
    match t with
    | c :: rest => if isGap c then some (dropGap rest) else if c = ':' then some rest else none
    | [] => none
  let read? := do
    let behind ← behind?
    let hour := behind.takeWhile CodePoint.isDigit
    if hour.length = 1 ∨ hour.length = 2 then
      let (minute, rest) ← behindColon? (behind.drop hour.length)
      some (Text.digitsValue hour, minute, rest)
    else none
  match read? with
  | none => ((0, 0, 0), t)
  | some (hour, minute, rest) =>
    match behindColon? rest with
    | some (second, rest) => ((hour, minute, second), rest)
    | none => ((hour, minute, 0), rest)

/-! ### Time zones -/

/-- The seconds by which a time zone of one to four digits is ahead. -/
def offsetOfDigits (digits : Text) : Int :=
  if digits.length ≤ 2 then 3600 * Text.digitsValue digits
  else
    let hours := digits.length - 2
    3600 * Text.digitsValue (digits.take hours) + 60 * Text.digitsValue (digits.drop hours)

/-- The names of time zones that are known. -/
def zones : List Text := ["GMT", "UTC", "UT", "Z"]

/-- The seconds by which the time zone at the start of a text is ahead, if the zone is known, and
what follows. Where no zone is spelled, there is nothing to be ahead by. -/
def zone (t : Text) : Option Int × Text :=
  let signed := t.head? = some (CodePoint.ofChar '-') ∨ t.head? = some (CodePoint.ofChar '+')
  let digits := ((if signed then t.drop 1 else t).take 4).takeWhile CodePoint.isDigit
  if 2 ≤ digits.length then
    let offset := offsetOfDigits digits
    (some (if t.head? = some (CodePoint.ofChar '-') then -offset else offset),
      t.drop (digits.length + if signed then 1 else 0))
  else
    let name := t.takeWhile CodePoint.isLetter
    let upper := name.map CodePoint.asciiUpper
    let rest := t.drop name.length
    if name = [] ∨ ((upper = "AM" ∨ upper = "PM") ∧ !rest.head?.any inWord) then (some 0, t)
    else (if zones.contains upper then some 0 else none, rest)

/-- Whether nothing is left of a date but the name of a time zone in parentheses. -/
def isRemark (t : Text) : Bool :=
  match t with
  | [] => true
  | c :: rest =>
    let name := rest.takeWhile inWord
    let behind := rest.drop name.length
    c = '(' && !name.isEmpty && behind.head? = some (CodePoint.ofChar ')') &&
      (behind.drop 1).all isGap

/-! ### Dates -/

/-- A year, which may be shortened: the one closest to this year that ends in the same digits. -/
def fullYear (thisYear n : Nat) : Int :=
  if 1000 ≤ n then n
  else
    let shortened : Int := thisYear % 100
    let year : Int := n + thisYear - shortened
    let ahead := shortened - n
    if ahead > 50 then year + 100 else if ahead < -50 then year - 100 else year

/-- The greatest year. -/
def maxYear : Nat := 9999

/-- The seconds from the start of the year 1970 to a date in a loose spelling. -/
def loose? (thisYear : Nat) (t : Text) : Option Int := do
  let (day, rest) ← day? (dropWeekday (dropGap t))
  let name := rest.takeWhile inWord
  if name = [] then none
  let rest ← dropSeparator? (rest.drop name.length)
  let digits := rest.takeWhile CodePoint.isDigit
  if digits = [] then none
  let ((hour, minute, second), rest) := clock (rest.drop digits.length)
  let (offset, rest) := zone (dropGap rest)
  if !isRemark (dropGap rest) then none
  let year := Text.digitsValue digits
  if maxYear < year then none
  let month ← month? name
  let seconds ← Date.seconds? ⟨(fullYear thisYear year).toNat, month, day, hour, minute, second⟩
  let offset ← offset
  return seconds - offset

/-- The parts of a date in the strict spelling: the name of the month, and the other parts. -/
def strictParts? (t : Text) : Option (Text × Date) := do
  let word := t.take 3
  let name := (t.drop 8).take 3
  let isName (initials : String) (w : Text) : Bool :=
    match w with
    | [a, b, c] => Url.isOneOf initials a && 0x61 ≤ b.val && b.val ≤ 0x7A && 0x61 ≤ c.val && c.val ≤ 0x7A
    | _ => false
  let (day, _) ← twoDigits? (t.drop 5)
  let (century, rest) ← twoDigits? (t.drop 12)
  let (year, _) ← twoDigits? rest
  let (hour, _) ← twoDigits? (t.drop 17)
  let (minute, rest) ← behindColon? (t.drop 19)
  let (second, rest) ← behindColon? rest
  if isName "SMTWF" word ∧ isName "JFMASOND" name ∧ (t.drop 3).take 2 = ", " ∧
      (t.drop 7).take 1 = " " ∧ (t.drop 11).take 1 = " " ∧ (t.drop 16).take 1 = " " ∧
      (rest = " GMT" ∨ rest = " GMT\n") then
    some (name, ⟨century * 100 + year, 0, day, hour, minute, second⟩)
  else none

/-- What a text says about the time until which something is kept. -/
inductive Term where
  /-- Nothing. -/
  | silent
  /-- A number of seconds from the start of the year 1970. -/
  | seconds (n : Int)
  /-- The text cannot be read at all. -/
  | unreadable
  deriving DecidableEq, Repr

/-- Reads a text that should be a date. -/
def read (thisYear : Nat) (t : Text) : Term :=
  let found :=
    match strictParts? t with
    | some (name, d) =>
      match monthOfName? name with
      | some month => some (Date.seconds? { d with month := month })
      | none => none
    | none => some (loose? thisYear t)
  match found with
  | none => .unreadable
  | some none => .silent
  | some (some n) => .seconds n

end HttpCourier.Expiry
