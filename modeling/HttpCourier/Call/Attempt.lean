import HttpCourier.Call.Journal

/-!
# HttpCourier.Call.Attempt

**One attempt**: the request is built anew, goes out, and races against the attempt's timeout
and against whatever interrupts the call. Whichever comes first breaks off the others; what they
had done until then remains done.
-/

namespace HttpCourier

namespace Course

/-- A course under a deadline. What would end at the deadline comes too late. -/
def within (deadline : Nanos) (late : Fault) (c : Course AttemptEnd) : Stretch AttemptEnd :=
  match c.ending with
  | some (time, e) =>
    if time < deadline then ⟨c.trace, time, e⟩
    else ⟨c.trace.before deadline, deadline, .error late⟩
  | none => ⟨c.trace.before deadline, deadline, .error late⟩

/-- A course under a deadline that can be interrupted. An interruption that comes together with
the ending comes first. -/
def race (c : Course AttemptEnd) (now deadline : Nanos) (late : Fault) (s : Signals) :
    Stretch AttemptEnd :=
  let whole := c.within deadline late
  match s.interrupt? now whole.time with
  | some (time, i) => ⟨c.trace.upTo time, time, .error i.fault⟩
  | none => whole

end Course

/-- What of the world outside a call's attempts depend on. -/
structure Surroundings where
  now : Nanos
  script : Script
  jar : Cookie.Jar

/-- What is left after a trace that ends at a time: each request that went out has used up one
exchange. -/
def Surroundings.after (s : Surroundings) (v : Variant) (trace : Trace) (time : Nanos) :
    Surroundings :=
  ⟨time, s.script.after trace.sent.length, trace.jarAfter v s.jar⟩

namespace Call

/-- The client of an attempt that starts at a time. -/
def client (c : Call) (now : Nanos) : Client :=
  ⟨c.variant, c.settings.limit, now + Nanos.ofSeconds c.spec.timeout.seconds, c.clock⟩

/-- The fault of an attempt that takes too long. -/
def late (c : Call) : Fault := Fault.attemptTimeout (Text.ofNat c.spec.timeout.seconds)

/-- How a request goes out and is answered if nothing comes in between. -/
def sending (c : Call) (o : Wire.Outgoing) (s : Surroundings) : Course AttemptEnd :=
  match o.toMessage with
  | .error f => .done s.now (.error (Fault.ofMessage f))
  | .ok m => (c.client s.now).send s.script s.jar s.now m

/-- A request that was built goes out. -/
def transmit (c : Call) (o : Wire.Outgoing) (s : Surroundings) : Stretch AttemptEnd :=
  if c.signals.caller = .preset then ⟨[], s.now, .error Fault.cancelled⟩
  else (c.sending o s).race s.now (c.client s.now).deadline c.late c.signals

/-- One attempt. -/
def attempt (c : Call) (number : Nat) (s : Surroundings) : Stretch AttemptEnd :=
  match Wire.Outgoing.ofSpec c.spec with
  | .error f => ⟨[], s.now, .error (Fault.ofBuild f)⟩
  | .ok o =>
    match c.startEvent number o with
    | .error name => ⟨[], s.now, .error (Fault.lostField name)⟩
    | .ok e =>
      let sent := c.transmit o s
      { sent with trace := Trace.logging s.now [e] ++ sent.trace }

end Call

end HttpCourier
