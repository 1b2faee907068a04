import HttpCourier.Command.Similar
import HttpCourier.Text.Quoted

/-!
# HttpCourier.Command.Grammar

**Options among the words of a command line.** A word that starts with a dash, and has more to
it, is an option; its long spelling can have a value behind a sign of equality, and the letters
behind a single dash are options of their own. The word `--` ends the options. Where options and
other words may not be mixed, the first other word ends them as well.

A word that is read as an option but is none is a fault, and so is an option without the value
that it needs, or with one that it cannot have.
-/

namespace HttpCourier.Command

/-- What is wrong with a command line. -/
inductive UsageFault where
  | unknownOption (name : Text) (similar : List Text)
  | needsValue (name : Text)
  | takesNoValue (name : Text)
  /-- The value of an option or an argument is no good, for a reason. -/
  | badValue (name reason : Text)
  | missingArgument (name : Text)
  | extraArguments (words : List Text)
  | missingCommand
  | unknownCommand (name : Text)
  deriving DecidableEq, Repr

namespace UsageFault

/-- What is said about the names that may have been meant. -/
def hint (similar : List Text) : Text :=
  match similar with
  | [] => []
  | [name] => " Did you mean " ++ name ++ "?"
  | names => " (Possible options: " ++ Text.join ", " (names.mergeSort Text.le) ++ ")"

/-- The wording of a fault. -/
def message : UsageFault → Text
  | unknownOption name similar => "No such option: " ++ name ++ hint similar
  | needsValue name => "Option " ++ Text.quoted name ++ " requires an argument."
  | takesNoValue name => "Option " ++ Text.quoted name ++ " does not take a value."
  | badValue name reason => "Invalid value for '" ++ name ++ "': " ++ reason
  | missingArgument name => "Missing argument '" ++ name ++ "'."
  | extraArguments [word] => "Got unexpected extra argument (" ++ word ++ ")"
  | extraArguments words => "Got unexpected extra arguments (" ++ Text.join " " words ++ ")"
  | missingCommand => "Missing command."
  | unknownCommand name => "No such command " ++ Text.quoted name ++ "."

end UsageFault

/-- An option: what it stands for, and how it is spelled. -/
structure Switch (κ : Type) where
  key : κ
  /-- Its letter behind a single dash. -/
  letter : Option Char
  /-- Its long spelling, dashes included. -/
  name : String
  takesValue : Bool

/-- The options of a command. -/
structure Grammar (κ : Type) where
  switches : List (Switch κ)
  /-- Whether options can stand behind other words. -/
  mixed : Bool

/-- An option that is given, with its value if it takes one. -/
abbrev Given (κ : Type) := κ × Option Text

/-- A command line, taken apart. -/
structure Reading (κ : Type) where
  /-- The options, in the order in which they are given. -/
  given : List (Given κ)
  /-- The other words. -/
  words : List Text

namespace Reading

/-- The reading with options in front of it. -/
def giving (given : List (Given κ)) (r : Reading κ) : Reading κ := ⟨given ++ r.given, r.words⟩

/-- The value of an option that is given last. -/
def value? [DecidableEq κ] (key : κ) (r : Reading κ) : Option Text :=
  (r.given.reverse.lookup key).join

end Reading

namespace Grammar

/-- The option of a long spelling. -/
def long? (g : Grammar κ) (name : Text) : Option (Switch κ) :=
  g.switches.find? fun s => Text.ofString s.name = name

/-- The option of a letter. -/
def letter? (g : Grammar κ) (c : CodePoint) : Option (Switch κ) :=
  g.switches.find? fun s => s.letter.map CodePoint.ofChar = some c

/-- Whether a word is read as an option. -/
def isOption (word : Text) : Bool :=
  word.head? = some (CodePoint.ofChar '-') && 1 < word.length

/-- The options that a word gives, and whether the next word is the value of the last one. -/
structure WordReading (κ : Type) where
  given : List (Given κ)
  usesNext : Bool

/-- The options behind a single dash. -/
def letters (g : Grammar κ) (next : Option Text) : Text → Except UsageFault (WordReading κ)
  | [] => .ok ⟨[], false⟩
  | c :: rest =>
    let name := [CodePoint.ofChar '-', c]
    match g.letter? c with
    | none => .error (.unknownOption name [])
    | some s =>
      if s.takesValue then
        match rest, next with
        | _ :: _, _ => .ok ⟨[(s.key, some rest)], false⟩
        | [], some value => .ok ⟨[(s.key, some value)], true⟩
        | [], none => .error (.needsValue name)
      else
        (g.letters next rest).map fun r => ⟨(s.key, none) :: r.given, r.usesNext⟩

/-- The options that a word gives, where another word may follow. -/
def word (g : Grammar κ) (w : Text) (next : Option Text) : Except UsageFault (WordReading κ) :=
  let (name, value) := match Text.splitFirst? '=' w with
    | some (name, value) => (name, some value)
    | none => (w, none)
  match g.long? name, value with
  | some s, some value =>
    if s.takesValue then .ok ⟨[(s.key, some value)], false⟩ else .error (.takesNoValue name)
  | some s, none =>
    if s.takesValue then
      match next with
      | some value => .ok ⟨[(s.key, some value)], true⟩
      | none => .error (.needsValue name)
    else .ok ⟨[(s.key, none)], false⟩
  | none, _ =>
    if Text.startsWith w "--" then
      .error (.unknownOption name
        (similarNames (g.switches.map fun s => Text.ofString s.name) name))
    else g.letters next (w.drop 1)

/-- Takes the words of a command line apart. -/
def read (g : Grammar κ) : List Text → Except UsageFault (Reading κ)
  | [] => .ok ⟨[], []⟩
  | [w] =>
    if w = "--" then .ok ⟨[], []⟩
    else if isOption w then (g.word w none).map fun r => ⟨r.given, []⟩
    else .ok ⟨[], [w]⟩
  | w :: next :: rest =>
    if w = "--" then .ok ⟨[], next :: rest⟩
    else if isOption w then
      match g.word w (some next) with
      | .error f => .error f
      | .ok r =>
        (if r.usesNext then g.read rest else g.read (next :: rest)).map (Reading.giving r.given)
    else if g.mixed then (g.read (next :: rest)).map fun r => { r with words := w :: r.words }
    else .ok ⟨[], w :: next :: rest⟩

end Grammar

end HttpCourier.Command
