import HttpCourier.Log.Event
import HttpCourier.Tally
import HttpCourier.Time
import HttpCourier.Transport.Cookie
import HttpCourier.Transport.Variant
import HttpCourier.Wire.Message

/-!
# HttpCourier.Effect

**What a call does that can be seen from outside, or that outlasts it**: requests go out, a
client's cookies change, things are counted, events are logged. The effects of a call are data:
a trace lists them with their times, in order.

A `Course` is a trace together with its ending, which may never come. To break something off at
a time is to keep the part of its trace up to that time.
-/

namespace HttpCourier

/-- Something that a call does. -/
inductive Effect where
  /-- A request goes out. -/
  | sent (m : Wire.Message)
  /-- A client's cookies change. -/
  | stored (v : Variant) (jar : Cookie.Jar)
  | measured (m : Measurement)
  | logged (e : Log.Event)

/-- An effect and its time. -/
structure Moment where
  time : Nanos
  effect : Effect

/-- Effects with their times, in order. -/
abbrev Trace := List Moment

namespace Trace

/-- The requests that go out. -/
def sent (t : Trace) : List (Nanos × Wire.Message) :=
  t.filterMap fun m => match m.effect with
    | .sent message => some (m.time, message)
    | _ => none

/-- The things to be counted. -/
def measurements (t : Trace) : List Measurement :=
  t.filterMap fun m => match m.effect with
    | .measured measurement => some measurement
    | _ => none

/-- The events. -/
def events (t : Trace) : List Log.Event :=
  t.filterMap fun m => match m.effect with
    | .logged event => some event
    | _ => none

/-- The cookies of a client after the trace, given those before it. -/
def jarAfter (v : Variant) (jar : Cookie.Jar) (t : Trace) : Cookie.Jar :=
  t.foldl (fun jar m => match m.effect with
    | .stored w changed => if w = v then changed else jar
    | _ => jar) jar

/-- The part of a trace up to a time. -/
def upTo (time : Nanos) (t : Trace) : Trace := t.filter fun m => m.time ≤ time

/-- The part of a trace before a time. -/
def before (time : Nanos) (t : Trace) : Trace := t.filter fun m => m.time < time

/-- Events at a time, in order. -/
def logging (time : Nanos) (events : List Log.Event) : Trace :=
  events.map fun e => ⟨time, .logged e⟩

/-- Measurements at a time, in order. -/
def measuring (time : Nanos) (measurements : List Measurement) : Trace :=
  measurements.map fun m => ⟨time, .measured m⟩

end Trace

/-- What happens, and when and how it ends, if it does. -/
structure Course (α : Type) where
  trace : Trace
  ending : Option (Nanos × α)

namespace Course

/-- A course that ends at once. -/
def done (time : Nanos) (a : α) : Course α := ⟨[], some (time, a)⟩

/-- A course with effects in front of it. -/
def after (trace : Trace) (c : Course α) : Course α := ⟨trace ++ c.trace, c.ending⟩

end Course

end HttpCourier
