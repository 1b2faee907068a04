import HttpCourier.Attempt.Policy
import HttpCourier.Attempt.Progress
import HttpCourier.Attempt.Signals
import HttpCourier.Request.Document
import HttpCourier.Result.Basic
import HttpCourier.Settings
import HttpCourier.Transport.Client

/-!
# HttpCourier.Call.Basic

**A call**: one request description, carried out under a host's settings, with whatever may
interrupt it. A call makes attempts; an attempt ends with a response or with a fault, and what
follows on it depends on that ending alone.

* A response whose status is one of the policy's, or a fault that may pass by itself, leads to
  another attempt, as long as there are attempts left.
* Any other ending is the end of the call.
-/

namespace HttpCourier

/-- What a call carries out, and under which conditions. -/
structure Call where
  settings : Settings
  spec : RequestSpec
  signals : Signals
  /-- The time at which it starts. -/
  start : Nanos
  clock : Clock

/-- How an attempt ends. -/
abbrev AttemptEnd := Except Fault Received

/-- What a part of a call does, when it ends, and with what. -/
structure Stretch (α : Type) where
  trace : Trace
  time : Nanos
  value : α

/-- How a call ends. -/
inductive Outcome where
  | returned (r : Result)
  /-- A fault goes through to whoever waits for the call. -/
  | escaped (f : Fault)

/-- All that is to be known of a call that has ended. -/
structure CallRecord where
  trace : Trace
  /-- The time at which it ended. -/
  time : Nanos
  outcome : Outcome
  progress : Progress

/-- The record with effects in front of it. -/
def CallRecord.after (trace : Trace) (r : CallRecord) : CallRecord :=
  { r with trace := trace ++ r.trace }

namespace AttemptEnd

/-- Whether the ending of an attempt leads to another one. -/
def retries (p : Policy) (e : AttemptEnd) (attempt : Nat) : Bool :=
  match e with
  | .ok received => p.retriesStatus received.reply.status attempt
  | .error f => p.retriesFault f attempt

/-- The state in which a call ends with an attempt. -/
def finalState (p : Policy) : AttemptEnd → AttemptState
  | .ok received => if p.isRetryable received.reply.status then .exhausted else .completed
  | .error f =>
    match f.family with
    | .callerCancelled => .cancelled
    | .other => .failed
    | _ => if f.isTransient then .exhausted else .failed

end AttemptEnd

namespace Fault

/-- What a caller is told who has cancelled. -/
def cancelledMessage : Text := "Request was cancelled"

/-- What a caller is told about a fault that ends a call. -/
def callMessage (f : Fault) (timeoutSeconds : Nat) : Text :=
  match f.family with
  | .callerCancelled => cancelledMessage
  | .transportTimeout | .attemptTimeout =>
    "Request timed out after " ++ Text.ofNat timeoutSeconds ++ " seconds"
  | .network | .remoteProtocol | .transport => f.friendlyMessage
  | .taskCancelled | .other => "Unexpected error: " ++ f.text

/-- How a fault that ends a call is classified. -/
def callClass (f : Fault) : FailureClass :=
  match f.family with
  | .callerCancelled => .cancelled
  | .transportTimeout | .attemptTimeout => .timeout
  | .network | .remoteProtocol | .transport => f.failureClass
  | .taskCancelled | .other => .unexpected

/-- The fault of a move between states that is not allowed. -/
def ofMove (m : IllegalMove) : Fault :=
  ofKind "AttemptStateError" (some (Text.ofString m.message))

/-- An integer literal has too many digits. -/
def overlongInteger (digits : Nat) : Fault :=
  ofKind "ValueError" (some (Json.Failure.overlongInteger digits).message)

/-- A header or query value cannot be written. -/
def unwritable (f : Json.WriteFault) : Fault :=
  ofKind (match f with
    | .overlongInteger => "ValueError"
    | .tooDeep => "RecursionError") (some f.message)

end Fault

namespace Result

/-- The header fields of a response that describe its content, and the others. -/
def splitFields (fields : List (Text × Text)) : List (Text × Text) × List (Text × Text) :=
  fields.partition fun f => Wire.isContentHeader f.1

/-- The result of a call that ended with a response. -/
def ofReceived (r : Received) (elapsedMs : Binary64) (retryAttempts : Nat) : Result :=
  let (described, others) := splitFields r.reply.textFields
  ⟨isSuccessStatus r.reply.status, r.reply.status, some r.reply.reasonPhrase, headerMap others,
    headerMap described, r.content, elapsedMs, retryAttempts, none, none, none⟩

end Result

namespace Call

/-- The policy by which the call is retried. -/
def policy (c : Call) : Policy := Policy.ofPlan? c.spec.retry c.settings.retryAttempts

/-- The client that sends the call's requests. -/
def variant (c : Call) : Variant := ⟨c.spec.ignoreCertificateErrors, c.spec.followRedirects⟩

/-- How many milliseconds the call has taken at a time. -/
def elapsedMs (c : Call) (now : Nanos) : Binary64 := Nanos.toMillis (now - c.start)

end Call

end HttpCourier
