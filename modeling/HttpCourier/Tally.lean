import HttpCourier.Attempt.Fault
import HttpCourier.Number.Binary64

/-!
# HttpCourier.Tally

**Counts of what was done**: responses by status, retries, failures by class, bytes of content,
and the number and total duration of calls. Statuses and classes are listed in the order in
which they first came up.

A `Measurement` is one thing to be counted; a tally is the fold of measurements.
-/

namespace HttpCourier

/-- One thing to be counted. -/
inductive Measurement where
  /-- A response was read: its status, and how many bytes of content were kept. -/
  | response (status : Int) (bytes : Int)
  | retry
  | failure (c : FailureClass)
  /-- A call has ended, after a number of milliseconds. -/
  | call (durationMs : Binary64)
  deriving DecidableEq, Repr

/-- Counts of what was done. -/
structure Tally where
  requests : List (Int × Nat)
  retries : Nat
  failures : List (FailureClass × Nat)
  bytes : Int
  durationMs : Binary64
  calls : Nat
  deriving DecidableEq, Repr

namespace Tally

/-- Nothing counted. -/
def empty : Tally := ⟨[], 0, [], 0, .zero false, 0⟩

/-- Counts with one more of a kind. -/
def bump [DecidableEq α] (a : α) : List (α × Nat) → List (α × Nat)
  | [] => [(a, 1)]
  | (b, n) :: rest => if b = a then (b, n + 1) :: rest else (b, n) :: bump a rest

/-- How many of a kind were counted. -/
def countOf [DecidableEq α] (counts : List (α × Nat)) (a : α) : Nat := (counts.lookup a).getD 0

/-- The tally with one thing more. -/
def add (t : Tally) : Measurement → Tally
  | .response status bytes =>
    { t with requests := bump status t.requests, bytes := t.bytes + bytes }
  | .retry => { t with retries := t.retries + 1 }
  | .failure c => { t with failures := bump c t.failures }
  | .call ms => { t with calls := t.calls + 1, durationMs := t.durationMs.add ms }

/-- The tally with more things, in order. -/
def addAll (t : Tally) (ms : List Measurement) : Tally := ms.foldl add t

/-- The average duration of a call, in milliseconds. -/
def averageMs (t : Tally) : Binary64 :=
  if t.calls = 0 then .zero false else t.durationMs.divNat t.calls

end Tally

end HttpCourier
