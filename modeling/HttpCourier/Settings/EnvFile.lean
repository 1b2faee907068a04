import HttpCourier.Text.Blank
import HttpCourier.Text.Lines

/-!
# HttpCourier.Settings.EnvFile

**Files of variables**: lines of the form `NAME=value`, with `export` in front if one likes, and
comments that start with `#`. A value may stand in quotation marks, where it can hold line breaks
and escapes. A line that cannot be read is passed over.

Values can refer to other variables as `${NAME}`, or `${NAME:-default}`: those of the file count
more than those of the environment.
-/

namespace HttpCourier.EnvFile

/-- A variable, and its value where there is a sign of equality. -/
abbrev Entry := Text × Option Text

/-! ### Pieces of a line -/

/-- Whether the code point ends a line. -/
def isLineEnd (c : CodePoint) : Bool := c = '\n' || c = '\r'

/-- Whether the code point is white space within a line. -/
def isGap (c : CodePoint) : Bool := c.isBlank && !isLineEnd c

/-- The text without the gap in front. -/
def dropGap (t : Text) : Text := t.dropWhile isGap

/-- The text behind `export` and a gap, if it starts with them. -/
def dropExport (t : Text) : Text :=
  if Text.startsWith t "export" then
    let rest := t.drop 6
    if rest.head?.any isGap then dropGap rest else t
  else t

/-- The text up to a closing quotation mark, and what follows. A mark behind a backslash does not
close, unless no other one follows. -/
def upToQuote? (quote : CodePoint) : Text → Option (Text × Text)
  | [] => none
  | c :: rest =>
    if c = quote then some ([], rest)
    else if c = '\\' then
      match rest with
      | [] => none
      | d :: rest' =>
        if d = quote then
          match upToQuote? quote rest' with
          | some (t, after) => some (c :: d :: t, after)
          | none => some ([c], rest')
        else (upToQuote? quote (d :: rest')).map fun (t, after) => (c :: t, after)
    else (upToQuote? quote rest).map fun (t, after) => (c :: t, after)

/-- The escapes in a value between double quotation marks. -/
def doubleEscapes : List (CodePoint × Nat) :=
  [('\\', 0x5C), ('\'', 0x27), ('"', 0x22), ('a', 0x07), ('b', 0x08), ('f', 0x0C), ('n', 0x0A),
   ('r', 0x0D), ('t', 0x09), ('v', 0x0B)]

/-- The escapes in a value between single quotation marks. -/
def singleEscapes : List (CodePoint × Nat) := [('\\', 0x5C), ('\'', 0x27)]

/-- The text with its escapes resolved. -/
def resolveEscapes (escapes : List (CodePoint × Nat)) : Text → Text
  | [] => []
  | [c] => [c]
  | c :: d :: rest =>
    match if c = '\\' then escapes.lookup d else none with
    | some n => CodePoint.ofNat n :: resolveEscapes escapes rest
    | none => c :: resolveEscapes escapes (d :: rest)

/-- The text up to a gap with a comment behind it. -/
def beforeComment : Text → Text
  | [] => []
  | c :: rest =>
    if c.isBlank && (rest.dropWhile CodePoint.isBlank).head? = some (CodePoint.ofChar '#') then []
    else c :: beforeComment rest

/-- The text without white space at its end. -/
def trimEnd (t : Text) : Text := (t.reverse.dropWhile CodePoint.isBlank).reverse

/-- A value, and what follows it. -/
def value? (t : Text) : Option (Text × Text) :=
  match t with
  | [] => some ([], [])
  | c :: rest =>
    if c = '\'' then (upToQuote? c rest).map fun (v, after) => (resolveEscapes singleEscapes v, after)
    else if c = '"' then
      (upToQuote? c rest).map fun (v, after) => (resolveEscapes doubleEscapes v, after)
    else
      let (line, after) := Text.breakAt isLineEnd t
      some (trimEnd (beforeComment line), after)

/-- The text behind a comment and the end of the line. -/
def lineEnd? (t : Text) : Option Text :=
  let rest := dropGap t
  let rest := if rest.head? = some (CodePoint.ofChar '#') then rest.dropWhile (!isLineEnd ·) else rest
  match rest with
  | [] => some []
  | c :: rest => if isLineEnd c then some rest else none

/-- The text behind the end of the line. -/
def nextLine (t : Text) : Text := (t.dropWhile (!isLineEnd ·)).drop 1

/-- A name, and what follows it; a comment has none. -/
def name? (t : Text) : Option (Option Text × Text) :=
  match t with
  | [] => none
  | c :: rest =>
    if c = '#' then some (none, t)
    else if c = '\'' then
      match Text.splitFirst? '\'' rest with
      | some (name, after) => if name = [] then none else some (some name, after)
      | none => none
    else
      let (name, after) := Text.breakAt (fun c => c = CodePoint.ofChar '=' || c = CodePoint.ofChar '#' || c.isBlank) t
      if name = [] then none else some (some name, after)

/-- One line of a file: the entry, if it has one, and the text behind it. -/
def line (t : Text) : Option Entry × Text :=
  let t := dropExport t
  match name? t with
  | none => (none, nextLine t)
  | some (name, rest) =>
    let rest := dropGap rest
    let read : Option (Option Text × Text) :=
      match rest with
      | c :: after =>
        if c = '=' then (value? (dropGap after)).map fun (v, rest) => (some v, rest)
        else some (none, rest)
      | [] => some (none, [])
    match read with
    | none => (none, nextLine rest)
    | some (value, rest) =>
      match lineEnd? rest with
      | some rest => (name.map fun n => (n, value), rest)
      | none => (none, nextLine rest)

/-- The entries of a text. Each line takes at least one code point; `fuel` bounds their number. -/
def entriesWithin : (fuel : Nat) → Text → List Entry
  | 0, _ => []
  | fuel + 1, t =>
    match t.dropWhile CodePoint.isBlank with
    | [] => []
    | c :: rest =>
      let (entry, after) := line (c :: rest)
      entry.toList ++ entriesWithin fuel after

/-! ### References -/

/-- A reference at the start of a text: the name, the default, and how many code points it
takes. -/
def referenceAtStart? (t : Text) : Option (Text × Text × Nat) :=
  match t with
  | d :: b :: rest =>
    if d = '$' ∧ b = '\x7b' then
      let (name, after) :=
        Text.breakAt (fun c => c = CodePoint.ofChar '\x7d' || c = CodePoint.ofChar ':') rest
      match after with
      | c :: after' =>
        if c = '\x7d' then some (name, [], 3 + name.length)
        else
          match after' with
          | m :: after'' =>
            if m = '-' then
              (Text.splitFirst? '\x7d' after'').map fun (default, _) =>
                (name, default, 5 + name.length + default.length)
            else none
          | [] => none
      | [] => none
    else none
  | _ => none

/-- A text with its references resolved, after `skip` code points that belong to a reference
already seen. -/
def resolve (entries : List Entry) (skip : Nat) : Text → Text
  | [] => []
  | c :: rest =>
    match skip with
    | skip + 1 => resolve entries skip rest
    | 0 =>
      match referenceAtStart? (c :: rest) with
      | some (name, default, length) =>
        (match entries.lookup name with
          | some value => value.getD []
          | none => default) ++ resolve entries (length - 1) rest
      | none => c :: resolve entries 0 rest

/-- The entries with their references resolved; those before, the last one first, count more
than the environment. -/
def resolveAll (environment before : List Entry) : List Entry → List Entry
  | [] => []
  | (name, value) :: rest =>
    let resolved := (name, value.map (resolve (before ++ environment) 0))
    resolved :: resolveAll environment (resolved :: before) rest

/-- The variables of a file, in an environment. -/
def read (environment : List Entry) (t : Text) : List Entry :=
  let t := Text.unifyLines t
  resolveAll environment [] (entriesWithin (t.length + 1) t)

end HttpCourier.EnvFile
