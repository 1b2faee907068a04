import HttpCourier.Attempt.Fault
import HttpCourier.Time

/-!
# HttpCourier.Attempt.Signals

**What can interrupt a call from outside.** The caller can cancel it, before it starts or at
some time; and the task that executes it can be cancelled. The first of the two to come counts.

An interruption is observed wherever the call waits: while an attempt is under way, and between
two attempts. One that comes at the very end of a wait is still observed.

A wait that listens to the caller has to stop listening once its timer has fired. That takes no
time, but the task is suspended meanwhile, and whatever cancels what it is waiting for there is
taken for its own doing. So a cancellation of the task that comes just behind the timer of such a
wait is lost.
-/

namespace HttpCourier

/-- When a caller cancels. -/
inductive CancelSignal where
  /-- The caller cannot cancel, and nobody listens. -/
  | absent
  | never
  /-- The caller has cancelled before the call starts. -/
  | preset
  | at (time : Nanos)
  deriving DecidableEq, Repr

namespace CancelSignal

/-- The time from which on the signal can be observed. -/
def time? : CancelSignal → Option Nanos
  | absent => none
  | never => none
  | preset => some 0
  | .at time => some time

/-- The signal of a call that starts at a time, where it was given for a start at zero. -/
def startingAt (start : Nanos) : CancelSignal → CancelSignal
  | .at time => .at (start + time)
  | s => s

end CancelSignal

/-- Who interrupts a call. -/
inductive Interruption where
  | byCaller
  | byTask
  deriving DecidableEq, Repr

/-- The fault of an interruption. -/
def Interruption.fault : Interruption → Fault
  | byCaller => Fault.cancelled
  | byTask => Fault.ofKind "CancelledError" none

/-- When a task is cancelled. -/
inductive TaskSignal where
  /-- At a time, and before anything else that is due then. -/
  | at (time : Nanos)
  /-- As the wait behind an attempt is wound up, just behind its timer. -/
  | behindTimer (attempt : Nat)
  deriving DecidableEq, Repr

namespace TaskSignal

/-- The time from which on the signal can be observed, where it has one of its own. -/
def time? : TaskSignal → Option Nanos
  | .at time => some time
  | behindTimer _ => none

/-- The signal of a call that starts at a time, where it was given for a start at zero. -/
def startingAt (start : Nanos) : TaskSignal → TaskSignal
  | .at time => .at (start + time)
  | s => s

end TaskSignal

/-- What interrupts a call, and when. -/
structure Signals where
  caller : CancelSignal
  task : Option TaskSignal
  deriving DecidableEq, Repr

namespace Signals

/-- Nothing interrupts. -/
def none : Signals := ⟨.never, Option.none⟩

/-- The interruption that comes first. -/
def first? (s : Signals) : Option (Nanos × Interruption) :=
  match s.caller.time?, s.task.bind TaskSignal.time? with
  | some c, some t => if t ≤ c then some (t, .byTask) else some (c, .byCaller)
  | some c, Option.none => some (c, .byCaller)
  | Option.none, some t => some (t, .byTask)
  | Option.none, Option.none => Option.none

/-- The interruption of something that starts at `now` and would last until `ending`. -/
def interrupt? (s : Signals) (now ending : Nanos) : Option (Nanos × Interruption) :=
  match s.first? with
  | some (time, i) => if time ≤ ending then some (max now time, i) else Option.none
  | Option.none => Option.none

/-- Whether the cancellation of the task comes just behind the timer of the wait behind an attempt,
and is observed there, since the wait does not listen to anything else. -/
def haltsBehind (s : Signals) (attempt : Nat) : Bool :=
  s.task = some (.behindTimer attempt) && s.caller = .absent

/-- When the wait behind an attempt ends, which starts at `now`, and what interrupts it. -/
def wait (s : Signals) (attempt : Nat) (now delay : Nanos) : Nanos × Option Interruption :=
  match s.interrupt? now (now + delay) with
  | some (time, i) => (time, some i)
  | Option.none =>
    (now + delay, if s.haltsBehind attempt then some .byTask else Option.none)

/-- The signals of a call that starts at a time, where they were given for a start at zero. -/
def startingAt (start : Nanos) (s : Signals) : Signals :=
  ⟨s.caller.startingAt start, s.task.map (TaskSignal.startingAt start)⟩

end Signals

end HttpCourier
