import HttpCourier.Json.Reader

/-!
# HttpCourier.Json.Lenient

**Hand-written JSON**: line comments, block comments and a comma before a closing bracket are
accepted. The text is cleaned in two passes, and what is left is read as JSON.

* `stripComments` drops a line comment up to its line feed, and puts a space in the place of a
  block comment. Only a block comment that is never closed is refused.
* `stripTrailingCommas` drops a comma that only blanks keep apart from a closing bracket.

Both passes leave string literals alone. They agree on where a literal ends, except that the
second pass takes an unclosed literal for plain text.
-/

namespace HttpCourier.Json

namespace Lenient

/-! ### Comments -/

/-- Where a comment-dropping pass stands. -/
inductive Mode where
  | code
  | literal
  /-- Behind a backslash in a literal. -/
  | escaped
  | lineComment
  /-- In a block comment that opened at an offset. -/
  | blockComment (opened : Nat)
  deriving DecidableEq, Repr

/-- The rest of a text without its comments. The pass has come to the offset `at_`, and has to
pass over `skip` code points first, which belong to a comment mark. An unclosed block comment
is reported by the offset at which it opened. -/
def dropComments (mode : Mode) (skip at_ : Nat) : Text → Except Nat Text
  | [] =>
    match mode with
    | .blockComment opened => .error opened
    | _ => .ok []
  | c :: rest =>
    match skip with
    | skip + 1 => dropComments mode skip (at_ + 1) rest
    | 0 =>
      match mode with
      | .code =>
        if c = '"' then (dropComments .literal 0 (at_ + 1) rest).map (c :: ·)
        else if c = '/' ∧ rest.head? = some (CodePoint.ofChar '/') then
          dropComments .lineComment 1 (at_ + 1) rest
        else if c = '/' ∧ rest.head? = some (CodePoint.ofChar '*') then
          dropComments (.blockComment at_) 1 (at_ + 1) rest
        else (dropComments .code 0 (at_ + 1) rest).map (c :: ·)
      | .literal =>
        if c = '\\' then (dropComments .escaped 0 (at_ + 1) rest).map (c :: ·)
        else if c = '"' then (dropComments .code 0 (at_ + 1) rest).map (c :: ·)
        else (dropComments .literal 0 (at_ + 1) rest).map (c :: ·)
      | .escaped => (dropComments .literal 0 (at_ + 1) rest).map (c :: ·)
      | .lineComment =>
        if c = '\n' then (dropComments .code 0 (at_ + 1) rest).map (c :: ·)
        else dropComments .lineComment 0 (at_ + 1) rest
      | .blockComment opened =>
        if c = '*' ∧ rest.head? = some (CodePoint.ofChar '/') then
          (dropComments .code 1 (at_ + 1) rest).map (CodePoint.ofChar ' ' :: ·)
        else dropComments (.blockComment opened) 0 (at_ + 1) rest

/-! ### Trailing commas -/

/-- The length of the string literal that the text continues after its opening quote, the
closing quote included. A backslash takes the next code point with it, unless that is a line
feed. -/
def literalLength? : Text → Option Nat
  | [] => none
  | c :: rest =>
    if c = '"' then some 1
    else if c = '\\' then
      match rest with
      | [] => none
      | d :: rest => if d = '\n' then none else (literalLength? rest).map (· + 2)
    else (literalLength? rest).map (· + 1)

/-- Whether the first code point that is not blank is a closing bracket. -/
def closesNext (t : Text) : Bool :=
  match t.dropWhile CodePoint.isBlank with
  | [] => false
  | c :: _ => c = CodePoint.ofChar '}' || c = CodePoint.ofChar ']'

/-- The rest of a text without its trailing commas, where the first `literal` code points
belong to a string literal. -/
def dropTrailingCommas (literal : Nat) : Text → Text
  | [] => []
  | c :: rest =>
    match literal with
    | n + 1 => c :: dropTrailingCommas n rest
    | 0 =>
      if c = '"' then c :: dropTrailingCommas ((literalLength? rest).getD 0) rest
      else if c = ',' ∧ closesNext rest then dropTrailingCommas 0 rest
      else c :: dropTrailingCommas 0 rest

end Lenient

/-- The text without the comments that stand outside string literals. -/
def stripComments (t : Text) : Except Failure Text :=
  match Lenient.dropComments .code 0 0 t with
  | .ok cleaned => .ok cleaned
  | .error opened => .error (.malformed .unterminatedComment (Place.of t opened))

/-- The text without the commas before a closing bracket that stand outside string literals. -/
def stripTrailingCommas (t : Text) : Text := Lenient.dropTrailingCommas 0 t

/-- The value of a hand-written JSON text. Places in a failure are places in the cleaned text;
those of an unclosed comment are places in the text as given. -/
def readLenient (t : Text) : Except Failure Value := do
  let cleaned ← stripComments t
  read (stripTrailingCommas cleaned)

end HttpCourier.Json
