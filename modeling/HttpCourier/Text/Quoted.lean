import HttpCourier.Text.Printable

/-!
# HttpCourier.Text.Quoted

**A text between quotes**, as messages show a value that may hold anything. The quotes are
single, unless the text holds a single quote and no double one. The quote in use and the
backslash are escaped, tab, line feed and carriage return have escapes of their own, and what
cannot be shown is written by its number, with two, four or eight hexadecimal digits.
-/

namespace HttpCourier

namespace CodePoint

/-- The escape of a code point by its number: `\xNN`, `\uNNNN` or `\UNNNNNNNN`. -/
def numericEscape (c : CodePoint) : Text :=
  if c.val < 0x100 then "\\x" ++ Text.hexPadded 2 c.val
  else if c.val < 0x10000 then "\\u" ++ Text.hexPadded 4 c.val
  else "\\U" ++ Text.hexPadded 8 c.val

/-- A code point as it stands between quotes of the given kind. -/
def quotedIn (quote c : CodePoint) : Text :=
  if c = quote ∨ c = '\\' then [ofChar '\\', c]
  else if c = '\t' then "\\t"
  else if c = '\n' then "\\n"
  else if c = '\r' then "\\r"
  else if c.isPrintable then [c]
  else c.numericEscape

end CodePoint

namespace Text

/-- The quote that a text is put in. -/
def quoteFor (t : Text) : CodePoint :=
  if t.contains (CodePoint.ofChar '\'') && !t.contains (CodePoint.ofChar '"') then '"' else '\''

/-- The text between quotes, with escapes. -/
def quoted (t : Text) : Text :=
  [quoteFor t] ++ t.flatMap (CodePoint.quotedIn (quoteFor t)) ++ [quoteFor t]

end Text

end HttpCourier
