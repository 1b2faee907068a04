import HttpCourier.Call.Session
import HttpCourier.Command.Page
import HttpCourier.Log.Line
import HttpCourier.Result.Summary
import HttpCourier.Settings.Sources
import HttpCourier.Text.Lines

/-!
# HttpCourier.Command.Program

**What the program does with a command line.** The words in front of the command are looked at
first, then the settings of the host, and then the words that belong to the command. A command
reads a configuration, from a file or from the standard input, and either checks it or carries it
out.

The program itself touches nothing: a `Host` is all that it finds where it runs, and a `Report` is
all that comes of it.

* The program ends with 0 if all is well, with 1 if a configuration is no good or a call fails,
  and with 2 if the command line cannot be understood.
* Some faults of a configuration, and those of the settings, end the program without a word on
  either output; the report has them as they are.
-/

namespace HttpCourier.Command

/-- What the program finds where it runs. -/
structure Host where
  environment : List (Text × Text)
  input : Text
  /-- The text of a file, or the reason why there is none. -/
  file : Text → Except Text Text
  /-- What the transport does with requests. -/
  script : Script
  clock : Clock

/-- A fault that ends the program. -/
inductive Escape where
  | settings (f : SettingsFault)
  | check (s : CheckStop)
  | call (f : Fault)

namespace Escape

/-- The wording of the complaints about a description. -/
def rejectionText (r : Schema.Rejection) : Text :=
  Text.ofString r.title ++ r.complaints.flatMap fun c =>
    (Text.join "." c.path).cons (CodePoint.ofChar '\n') ++ Text.ofString ": " ++ c.cause.message

/-- The wording of a fault that ends the program. -/
def message : Escape → Text
  | settings (.unreadable field source) => SettingsFault.unreadableMessage field source
  | settings .tooDeep => Json.Failure.tooDeep.message
  | settings (.rejected r) => rejectionText r
  | check (.url e) => e.message
  | check (.credential r) => rejectionText r
  | check (.overlongInteger digits) => (Json.Failure.overlongInteger digits).message
  | call f => Text.ofString f.kind ++ ": " ++ f.text

end Escape

/-- What comes of a run of the program. -/
structure Report where
  exitCode : Nat
  output : Text
  errors : Text
  escape : Option Escape
  /-- What the calls did. -/
  trace : Trace
  /-- The lines of the log. -/
  log : List Text

namespace Report

/-- A page on the standard output. -/
def page (t : Text) : Report := ⟨0, t, [], none, [], []⟩

/-- A fault that ends the program. -/
def escaping (e : Escape) (trace : Trace) : Report := ⟨1, [], [], some e, trace, []⟩

end Report

/-! ### Texts for a terminal -/

/-- How much of a text is a command to a terminal, behind an escape character. -/
def terminalCommandLength? (t : Text) : Option Nat :=
  match t with
  | open_ :: rest =>
    if open_ = CodePoint.ofChar '[' then
      let arguments := rest.takeWhile fun c =>
        c.isDigit || c = CodePoint.ofChar ';' || c = CodePoint.ofChar '?'
      if (rest.drop arguments.length).head?.any CodePoint.isLetter then some (arguments.length + 2)
      else none
    else none
  | [] => none

/-- A text without commands to a terminal; `skip` code points belong to one already. -/
def plainFrom (skip : Nat) : Text → Text
  | [] => []
  | c :: rest =>
    match skip with
    | skip + 1 => plainFrom skip rest
    | 0 =>
      match if c.val = 0x1B then terminalCommandLength? rest else none with
      | some length => plainFrom length rest
      | none => c :: plainFrom 0 rest

/-- A text as the standard error shows it: without commands to a terminal, and with an escape for
each code point that has no encoding. -/
def errorText (t : Text) : Text :=
  (plainFrom 0 t).flatMap fun c => if c.isSurrogate then c.numericEscape else [c]

/-! ### Words in front of the command -/

/-- Why the program stops before it does anything. -/
inductive Stop where
  | page (t : Text)
  | fault (level : Level) (f : UsageFault)

/-- The report of such a stop. -/
def Stop.report : Stop → Report
  | page t => .page t
  | fault level f => ⟨2, [], errorText (level.faultPage f), none, [], []⟩

/-- What the words in front of the command say. -/
structure Opening where
  verbose : Bool
  form : Log.Form
  words : List Text

/-- The page that the options ask for, whichever of them comes first. -/
def pageAsked? (given : List (Given ProgramKey)) : Option Text :=
  given.findSome? fun (key, _) => match key with
    | .version => some versionPage
    | .help => some Level.program.helpPage
    | _ => none

/-- The form of the log that the options ask for. -/
def formAsked (r : Reading ProgramKey) : Except UsageFault Log.Form :=
  match r.value? .logFormat with
  | none => .ok .console
  | some value =>
    match Log.Form.ofName? value with
    | some form => .ok form
    | none =>
      let names := Log.Form.all.map fun f => Text.quoted (Text.ofString f.name)
      .error (.badValue "--log-format"
        (Text.quoted value ++ " is not one of " ++ Text.join ", " names ++ "."))

/-- Looks at the words in front of the command. -/
def opening (words : List Text) : Except Stop Opening := do
  let r ← (programGrammar.read words).mapError (.fault .program)
  match pageAsked? r.given with
  | some page => throw (.page page)
  | none =>
    let form ← (formAsked r).mapError (.fault .program)
    return ⟨r.given.any (·.1 = .verbose), form, r.words⟩

/-- The command, and the words that belong to it. A name that looks like an option is looked at
once more, as if it stood in front of the command. -/
def verbOf (words : List Text) : Except Stop (Verb × List Text) :=
  match words with
  | [] => .error (.fault .program .missingCommand)
  | name :: rest =>
    match Verb.ofName? name with
    | some v => .ok (v, rest)
    | none => (opening words).bind fun _ => .error (.fault .program (.unknownCommand name))

/-! ### Words behind the command -/

/-- What a command is to do. -/
structure Order where
  /-- The text of the configuration. -/
  config : Text
  /-- When the call is cancelled. -/
  cancel : CancelSignal
  withBody : Bool

/-- The signal at the nanosecond nearest to a number of seconds: the first one for a number below
zero, and for one that is none. -/
def signalAfter : Binary64 → CancelSignal
  | .nan => .at 0
  | .infinite negative => if negative then .at 0 else .never
  | .finite negative m e =>
    let (num, den) := Binary64.magnitude m e
    if negative then .at 0 else .at (Binary64.roundDiv (num * 1000000000) den)

/-- When the options ask for the call to be cancelled. -/
def cancelAsked (r : Reading VerbKey) : Except UsageFault CancelSignal :=
  match r.value? .cancelAfter with
  | none => .ok .never
  | some value =>
    match Schema.numberOfText value with
    | .fits seconds => .ok (signalAfter seconds)
    | .rejects _ =>
      .error (.badValue "--cancel-after" (Text.quoted value ++ " is not a valid float."))

/-- Whether the options ask for the content of the response; the last one counts. -/
def bodyAsked (given : List (Given VerbKey)) : Bool :=
  ((given.reverse.findSome? fun (key, _) => match key with
    | .includeBody => some true
    | .omitBody => some false
    | _ => none).getD true)

/-- The text of a configuration: a dash stands for the standard input. -/
def configText (host : Host) (name : Text) : Except UsageFault Text :=
  if name = "-" then .ok (Text.unifyLines host.input)
  else match host.file name with
    | .ok t => .ok (Text.unifyLines t)
    | .error reason => .error (.badValue argumentName ("'" ++ name ++ "': " ++ reason))

/-- What the words behind a command ask for. -/
def orderOf (host : Host) (r : Reading VerbKey) : Except UsageFault Order := do
  let cancel ← cancelAsked r
  match r.words with
  | [] => throw (.missingArgument argumentName)
  | name :: others =>
    let config ← configText host name
    if others.isEmpty then return ⟨config, cancel, bodyAsked r.given⟩
    else throw (.extraArguments others)

/-- Looks at the words behind a command. -/
def order (host : Host) (v : Verb) (words : List Text) : Except Stop Order := do
  let r ← (v.grammar.read words).mapError (.fault (.verb v))
  if r.given.any (·.1 = .help) then throw (.page (Level.verb v).helpPage)
  else (orderOf host r).mapError (.fault (.verb v))

/-! ### Commands -/

/-- Reports on a configuration that has been checked. -/
def verdictReport (v : Verdict) : Report :=
  let line (kind : String) (message : Text) : Text :=
    errorText (Text.ofString kind ++ ": " ++ message) ++ [CodePoint.ofChar '\n']
  let errors := v.errors.flatMap (line "error") ++ v.warnings.flatMap (line "warning")
  if v.isValid then ⟨0, "valid\n", errors, none, [], []⟩ else ⟨1, [], errors, none, [], []⟩

/-- Checks a configuration. -/
def validate (o : Order) : Report :=
  match Verdict.ofText o.config with
  | .ok v => verdictReport v
  | .error s => .escaping (.check s) []

/-- Reports on a call. -/
def callReport (withBody : Bool) (r : CallRecord) : Report :=
  match r.outcome with
  | .returned result =>
    ⟨if result.isSuccess then 0 else 1,
      Json.Style.indented.text (result.summary withBody) ++ [CodePoint.ofChar '\n'], [], none,
      r.trace, []⟩
  | .escaped f => .escaping (.call f) r.trace

/-- Carries out a configuration. -/
def execute (host : Host) (settings : Settings) (o : Order) : Report :=
  callReport o.withBody
    ((Session.start settings host.script host.clock).record (.text o.config) ⟨o.cancel, none⟩)

/-- The settings of a host. -/
def Host.settings (host : Host) : Except SettingsFault Settings :=
  Settings.load [] host.environment (host.file ".env").toOption

/-- What writes the log of a run. -/
def logger (o : Opening) (settings : Settings) : Log.Logger :=
  ⟨if o.verbose then .debug else .warning, o.form, settings.sensitivePatterns, []⟩

/-- The events of a trace, each with its time in milliseconds. -/
def stampedEvents (t : Trace) : List (Text × Log.Event) :=
  t.filterMap fun m => match m.effect with
    | .logged e => some (Binary64.messageLayout.text (Nanos.toMillis m.time), e)
    | _ => none

/-- The report with the log of what the calls did. -/
def Report.logged (r : Report) (l : Log.Logger) : Report :=
  { r with log := l.lines (stampedEvents r.trace) }

/-- Runs a command. -/
def perform (host : Host) (settings : Settings) (v : Verb) (words : List Text) : Report :=
  match order host v words with
  | .error stop => stop.report
  | .ok o =>
    match v with
    | .validate => validate o
    | .run => execute host settings o

/-- Runs the program. -/
def run (host : Host) (words : List Text) : Report :=
  if words.isEmpty then ⟨2, [], Level.program.helpPage, none, [], []⟩
  else
    match (opening words).bind fun o => (verbOf o.words).map fun found => (o, found) with
    | .error stop => stop.report
    | .ok (o, v, rest) =>
      match host.settings with
      | .error f => .escaping (.settings f) []
      | .ok settings => (perform host settings v rest).logged (logger o settings)

end HttpCourier.Command
