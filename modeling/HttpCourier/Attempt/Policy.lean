import HttpCourier.Attempt.Fault
import HttpCourier.Request.Spec
import HttpCourier.Time

/-!
# HttpCourier.Attempt.Policy

**When a request is sent again, and after what wait.** A policy is made for a call from its
retry plan, or from the host's setting where the request has none. Attempts are numbered from
one; a decision is always about the attempt that has just ended.

The wait doubles from attempt to attempt where the plan says so, and is never longer than a
minute.
-/

namespace HttpCourier

/-- The rules by which a call is retried. -/
structure Policy where
  /-- How often the request may be sent. -/
  maxAttempts : Nat
  /-- The wait behind the first attempt, before it is capped. -/
  delayMs : Nat
  exponential : Bool
  /-- The status codes that lead to another attempt. -/
  statusCodes : List Int
  deriving DecidableEq, Repr

namespace Policy

/-- The policy of a retry plan. At least one attempt is made. -/
def ofPlan (p : RetryPlan) : Policy :=
  ⟨(max 1 p.maxAttempts).toNat, p.delayMs, p.exponential, p.effectiveStatusCodes⟩

/-- The retry plan of a request that has none, given the host's number of attempts. -/
def hostPlan (hostAttempts : Int) : RetryPlan :=
  ⟨hostAttempts, RetryPlan.usualDelayMs, true, none⟩

/-- The policy of a request. -/
def ofPlan? (p : Option RetryPlan) (hostAttempts : Int) : Policy :=
  ofPlan (p.getD (hostPlan hostAttempts))

/-- Whether a status is one of those that lead to another attempt. -/
def isRetryable (p : Policy) (status : Int) : Bool := p.statusCodes.contains status

/-- Whether a response with the status leads to another attempt. -/
def retriesStatus (p : Policy) (status : Int) (attempt : Nat) : Bool :=
  attempt < p.maxAttempts && p.isRetryable status

/-- Whether a fault leads to another attempt. -/
def retriesFault (p : Policy) (f : Fault) (attempt : Nat) : Bool :=
  attempt < p.maxAttempts && f.isTransient

/-- The greatest wait. -/
def maxDelayMs : Nat := 60000

/-- The wait behind an attempt, in milliseconds. -/
def delayMsAfter (p : Policy) (attempt : Nat) : Nat :=
  min (if p.exponential ∧ 1 < attempt then p.delayMs * Nat.pow 2 (attempt - 1) else p.delayMs)
    maxDelayMs

/-- The wait behind an attempt. -/
def delayAfter (p : Policy) (attempt : Nat) : Nanos := Nanos.ofMillis (p.delayMsAfter attempt)

end Policy

end HttpCourier
