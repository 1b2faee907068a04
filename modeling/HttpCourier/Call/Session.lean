import HttpCourier.Call.Attempts
import HttpCourier.Request.Check

/-!
# HttpCourier.Call.Session

**Calls one after the other**, under one host's settings. What a call leaves behind is the time,
the rest of the script, the cookies of the four clients, and the tally.

A call is asked for with a text, a decoded document or a finished request description. A text or
a document that describes no request ends the call at once, with a result that says so.
-/

namespace HttpCourier

open Json (Value Members)

/-- What a call is asked for with. -/
inductive Config where
  | text (t : Text)
  | document (members : Members)
  | spec (s : RequestSpec)
  /-- A value that describes nothing, of a kind that is named. -/
  | unsupported (kind : String)

/-- What a decoded value asks for: a string is the text of a document. -/
def Config.ofValue : Value → Config
  | .string t => .text t
  | .object members => .document members
  | v => .unsupported v.kindName

/-- A result that tells of a configuration, and what else there is to say about it. -/
structure ConfigFailure where
  message : Text
  field : Option Text
  deriving DecidableEq, Repr

/-- Why a configuration leads to no call. -/
inductive ConfigStop where
  | failure (f : ConfigFailure)
  /-- A fault that goes through to whoever waits for the call. -/
  | escape (f : Fault)

/-- The failure of a refused description. -/
def ConfigFailure.ofFault (f : ConfigFault) : ConfigFailure := ⟨f.message, f.key?⟩

/-- What follows on the fault of a configuration: only a refusal is told by a result. -/
def ConfigStop.ofFault : SpecFault → ConfigStop
  | .config f => .failure (.ofFault f)
  | .overlongInteger digits => .escape (Fault.overlongInteger digits)
  | .unwritable f => .escape (Fault.unwritable f)

/-- The defaults that a host's settings give to documents. -/
def Settings.defaults (s : Settings) : Document.Defaults := ⟨s.timeout.seconds, s.followRedirects⟩

/-- The request description that a configuration gives. -/
def Config.spec? (s : Settings) : Config → Except ConfigStop RequestSpec
  | .spec r => .ok r
  | .unsupported kind =>
    .error (.failure
      ⟨Text.ofString ("Unsupported request configuration type: " ++ kind), none⟩)
  | .document members => (RequestSpec.ofMembers members s.defaults).mapError .ofFault
  | .text t => (RequestSpec.ofText t s.defaults).mapError .ofFault

namespace ConfigFailure

/-- What a call that is not made writes to the log. -/
def events (f : ConfigFailure) : List Log.Event :=
  [⟨.error, "http_request_invalid",
      [("component", .string Log.component), ("error", .string f.message),
        ("field", match f.field with
          | some t => .string t
          | none => .null)]⟩,
    ⟨.error, "http_request_terminal_error",
      ("component", .string Log.component) ::
        Call.failureFields f.message .configuration 0⟩]

/-- The record of a call that is not made. -/
def record (f : ConfigFailure) (now : Nanos) : CallRecord :=
  let elapsed := Nanos.toMillis 0
  ⟨Trace.logging now f.events ++ Trace.measuring now [.failure .configuration, .call elapsed], now,
    .returned (Result.ofError f.message .configuration
      (some (Fault.ofKind "ConfigurationError" (some f.message))) elapsed 0),
    Progress.start⟩

end ConfigFailure

/-- What calls leave behind. -/
structure Session where
  settings : Settings
  clock : Clock
  now : Nanos
  script : Script
  jars : Variant → Cookie.Jar
  tally : Tally

namespace Session

/-- A session before its first call. -/
def start (settings : Settings) (script : Script) (clock : Clock) : Session :=
  ⟨settings, clock, 0, script, fun _ => [], Tally.empty⟩

/-- The record of a call, whose signals are given for a start at zero. -/
def record (s : Session) (config : Config) (signals : Signals) : CallRecord :=
  match config.spec? s.settings with
  | .error (.failure f) => f.record s.now
  | .error (.escape f) => ⟨[], s.now, .escaped f, Progress.start⟩
  | .ok spec =>
    let c : Call := ⟨s.settings, spec, signals.startingAt s.now, s.now, s.clock⟩
    c.run s.script (s.jars c.variant)

/-- The session after a call. -/
def after (s : Session) (r : CallRecord) : Session :=
  { s with
    now := r.time
    script := s.script.after r.trace.sent.length
    jars := fun v => r.trace.jarAfter v (s.jars v)
    tally := s.tally.addAll r.trace.measurements }

/-- A call, and the session after it. -/
def execute (s : Session) (config : Config) (signals : Signals) : CallRecord × Session :=
  let r := s.record config signals
  (r, s.after r)

end Session

/-! ### Calls at the same time -/

namespace Trace

/-- Several traces as one, in order of time. -/
def merged (traces : List Trace) : Trace :=
  traces.flatten.mergeSort fun a b => a.time ≤ b.time

end Trace

end HttpCourier
