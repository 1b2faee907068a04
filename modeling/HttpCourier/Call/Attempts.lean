import HttpCourier.Call.Attempt

/-!
# HttpCourier.Call.Attempts

**The attempts of a call**, one after the other, with waits in between. Each step goes through a
move of the call's state, and a move that is not allowed would end the call; the number of the
attempt is that of the state.

The recursion ends because the number of the attempt grows, and a policy allows only so many.
-/

namespace HttpCourier

theorem Progress.attempt_of_move_attempting {p q : Progress} (h : p.move .attempting = .ok q) :
    q.attempt = p.attempt + 1 := by
  unfold Progress.move at h
  split at h
  · cases h; rfl
  · cases h

theorem Progress.attempt_of_move_retrying {p q : Progress} (h : p.move .retrying = .ok q) :
    q.attempt = p.attempt := by
  unfold Progress.move at h
  split at h
  · cases h; rfl
  · cases h

theorem AttemptEnd.lt_of_retries {p : Policy} {e : AttemptEnd} {attempt : Nat}
    (h : e.retries p attempt = true) : attempt < p.maxAttempts := by
  unfold AttemptEnd.retries at h
  split at h
  · exact of_decide_eq_true (Bool.and_eq_true_iff.1 h).1
  · exact of_decide_eq_true (Bool.and_eq_true_iff.1 h).1

namespace Call

/-- The end of a call with a fault that goes through. -/
def escape (now : Nanos) (p : Progress) (f : Fault) : CallRecord := ⟨[], now, .escaped f, p⟩

/-- The end of a call with a fault that its result tells of. -/
def fail (c : Call) (now : Nanos) (p : Progress) (f : Fault) : CallRecord :=
  let message := f.callMessage c.spec.timeout.seconds
  let elapsed := c.elapsedMs now
  ⟨Trace.measuring now [.failure f.callClass, .call elapsed] ++
      Trace.logging now [c.failureEvent p.attempt f p.retries],
    now, .returned (Result.ofError message f.callClass (some f) elapsed p.retries), p⟩

/-- The end of a call after a move to its last state. -/
def failIn (c : Call) (now : Nanos) (p : Progress) (state : AttemptState) (f : Fault) :
    CallRecord :=
  match p.move state with
  | .error m => escape now p (Fault.ofMove m)
  | .ok q => c.fail now q f

/-- The end of a call with a response. A result that is not coherent is an error that nothing was
prepared for. -/
def finish (c : Call) (now : Nanos) (p : Progress) (r : Received) : CallRecord :=
  let elapsed := c.elapsedMs now
  let result := Result.ofReceived r elapsed p.retries
  .after (Trace.logging now (c.exhaustedEvents p.attempt r) ++ Trace.measuring now [.call elapsed])
    (if result.isCoherent then ⟨[], now, .returned result, p⟩
    else
      .after (Trace.logging now [c.unexpectedEvent p.attempt])
        (c.failIn now p .failed (Fault.ofKind "ValidationError" none)))

/-- The end of a call with the ending of its last attempt. -/
def conclude (c : Call) (now : Nanos) (p : Progress) (e : AttemptEnd) : CallRecord :=
  match e with
  | .error f => c.failIn now p (e.finalState c.policy) f
  | .ok received =>
    match p.move (e.finalState c.policy) with
    | .error m => escape now p (Fault.ofMove m)
    | .ok q => c.finish now q received

/-- The end of a call that is interrupted while it waits. -/
def interrupted (c : Call) (now : Nanos) (p : Progress) (i : Interruption) : CallRecord :=
  match i with
  | .byTask => escape now p i.fault
  | .byCaller => c.failIn now p .cancelled i.fault

/-- What a call does about an attempt that leads to another one. -/
def retryTrace (c : Call) (number : Nat) (a : Stretch AttemptEnd) : Trace :=
  Trace.logging a.time [c.retryEvent number a.value] ++ Trace.measuring a.time [.retry]

/-- The fault that goes through to whoever waits for the call, if an attempt ends with one. -/
def through? : AttemptEnd → Option Fault
  | .error f => if f.family = .taskCancelled then some f else none
  | .ok _ => none

/-- The attempts of a call that has come as far as `p`. -/
def attemptsFrom (c : Call) (p : Progress) (s : Surroundings) : CallRecord :=
  match _begun : p.move .attempting with
  | .error m => escape s.now p (Fault.ofMove m)
  | .ok q =>
    let a := c.attempt q.attempt s
    .after (a.trace ++ Trace.logging a.time (c.endEvents q.attempt a.time a.value)) <|
      match through? a.value with
      | some f => escape a.time q f
      | none =>
        if _more : AttemptEnd.retries c.policy a.value q.attempt = true then
          match _halted : q.move .retrying with
          | .error m => escape a.time q (Fault.ofMove m)
          | .ok r =>
            .after (c.retryTrace q.attempt a) <|
              match c.signals.wait q.attempt a.time (c.policy.delayAfter q.attempt) with
              | (time, some i) => c.interrupted time r i
              | (time, none) => attemptsFrom c r (s.after c.variant a.trace time)
        else c.conclude a.time q a.value
termination_by c.policy.maxAttempts - p.attempt
decreasing_by
  have h₁ := Progress.attempt_of_move_attempting _begun
  have h₂ := Progress.attempt_of_move_retrying _halted
  have h₃ := AttemptEnd.lt_of_retries _more
  omega

/-- The call, in a world with the given script and cookies. -/
def run (c : Call) (script : Script) (jar : Cookie.Jar) : CallRecord :=
  c.attemptsFrom Progress.start ⟨c.start, script, jar⟩

end Call

end HttpCourier
