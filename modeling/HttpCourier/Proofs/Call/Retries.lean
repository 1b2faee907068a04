import HttpCourier.Proofs.Call.Return
import Mathlib.Order.Bounds.Defs
import Mathlib.Tactic.ByContra

/-!
# HttpCourier.Proofs.Call.Retries

**How many attempts a call makes, and what comes of them.** Without signals a run is decided by
the endings of its attempts alone: it stops at the first attempt that is the last one allowed, or
whose ending another attempt would not mend. All that the loop does on the way — moves between
states, a test in each of its branches, a wait — amounts to that rule (`Call.Follows`).

The attempts of a call that would go on forever are a sequence (`Call.before`): each starts in
the surroundings that the one before it leaves, after the policy's wait. A run is an initial
part of that sequence.
-/

namespace HttpCourier

/-! ### The rule -/

/-- Another attempt may mend the ending: its status is one of the given ones, or its fault is one
about time, about a connection or about the protocol. -/
def AttemptEnd.Retryable (codes : List Int) : AttemptEnd → Prop
  | .ok r => (r.reply.status : Int) ∈ codes
  | .error f => f.family = .transportTimeout ∨ f.family = .network ∨
      f.family = .remoteProtocol ∨ f.family = .attemptTimeout

namespace Call

/-- How many attempts the request's retry plan allows, or else the host; at least one. -/
def allowedAttempts (c : Call) : Nat :=
  (max 1 (match c.spec.retry with
    | some plan => plan.maxAttempts
    | none => c.settings.retryAttempts)).toNat

/-- The status codes that the request's retry plan names, or else the usual ones. -/
def retriedStatuses (c : Call) : List Int :=
  match c.spec.retry with
  | some plan => plan.effectiveStatusCodes
  | none => RetryPlan.usualStatusCodes

/-- The surroundings of the attempt that comes `k` attempts after attempt `i`, if that one starts
in `s` and each attempt is followed by a wait and another one. -/
def before (c : Call) (i : Nat) (s : Surroundings) : Nat → Surroundings
  | 0 => s
  | k + 1 =>
    c.before (i + 1) (s.after c.variant (c.attempt i s).trace
      ((c.attempt i s).time + c.policy.delayAfter i)) k

/-- The attempt of the given number of a call that starts in `s`. -/
def nth (c : Call) (s : Surroundings) (i : Nat) : Stretch AttemptEnd :=
  c.attempt i (c.before 1 s (i - 1))

variable {c : Call} {i n : Nat} {s : Surroundings} {r : CallRecord}

theorem policy_maxAttempts (c : Call) : c.policy.maxAttempts = c.allowedAttempts := by
  unfold policy Policy.ofPlan? allowedAttempts
  cases c.spec.retry <;> rfl

theorem policy_statusCodes (c : Call) : c.policy.statusCodes = c.retriedStatuses := by
  unfold policy Policy.ofPlan? retriedStatuses
  cases c.spec.retry <;> rfl

theorem one_le_allowedAttempts (c : Call) : 1 ≤ c.allowedAttempts := by
  unfold allowedAttempts
  generalize (match c.spec.retry with
    | some plan => plan.maxAttempts
    | none => (c.settings.retryAttempts : Int)) = m
  omega

/-- The loop's own test, which it makes in several places, is that of the rule. -/
theorem retries_iff (e : AttemptEnd) :
    AttemptEnd.retries c.policy e i = true ↔
      i < c.allowedAttempts ∧ e.Retryable c.retriedStatuses := by
  rw [← policy_maxAttempts, ← policy_statusCodes]
  cases e with
  | ok r =>
    show (decide _ && c.policy.statusCodes.contains _) = true ↔ _
    rw [Bool.and_eq_true, decide_eq_true_iff, List.contains_iff_mem]
    rfl
  | error f =>
    show (decide _ && f.family.isTransient) = true ↔ _
    rw [Bool.and_eq_true, decide_eq_true_iff]
    refine and_congr_right fun _ => ?_
    show _ ↔ f.family = _ ∨ _
    cases f.family <;> decide

/-- The attempt that comes `k` attempts after attempt `i`, which starts in `s`. -/
def ahead (c : Call) (i : Nat) (s : Surroundings) (k : Nat) : Stretch AttemptEnd :=
  c.attempt (i + k) (c.before i s k)

theorem ahead_succ (c : Call) (i : Nat) (s : Surroundings) (k : Nat) :
    c.ahead i s (k + 1) =
      c.ahead (i + 1) (s.after c.variant (c.attempt i s).trace
        ((c.attempt i s).time + c.policy.delayAfter i)) k := by
  unfold ahead
  rw [← Nat.add_assoc, Nat.add_right_comm]
  rfl

theorem before_succ (c : Call) (i : Nat) (s : Surroundings) (k : Nat) :
    (c.before i s (k + 1)).now = (c.ahead i s k).time + c.policy.delayAfter (i + k) := by
  induction k generalizing i s with
  | zero => rfl
  | succ k ih =>
    have shift : i + (k + 1) = i + 1 + k := by omega
    rw [ahead_succ, shift, ← ih]
    rfl

theorem nth_succ (c : Call) (s : Surroundings) (k : Nat) :
    c.nth s (k + 1) = c.ahead 1 s k := by
  unfold nth ahead
  rw [Nat.add_comm k 1, Nat.add_sub_cancel_left]

/-- The attempt is what becomes of the request `m` in the surroundings `s`: it goes out at once,
and the attempt ends as the client's course does before the deadline, or else with the fault of
an attempt that takes too long. -/
structure Sends (c : Call) (s : Surroundings) (m : Wire.Message) (a : Stretch AttemptEnd) :
    Prop where
  ends : ∀ t e, ((c.client s.now).send s.script s.jar s.now m).ending = some (t, e) →
    t < s.now + Nanos.ofSeconds c.spec.timeout.seconds → a.time = t ∧ a.value = e
  late : (∀ t e, ((c.client s.now).send s.script s.jar s.now m).ending = some (t, e) →
      s.now + Nanos.ofSeconds c.spec.timeout.seconds ≤ t) →
    a.time = s.now + Nanos.ofSeconds c.spec.timeout.seconds ∧
      a.value = .error (Fault.attemptTimeout (Text.ofNat c.spec.timeout.seconds))
  goesOut : ∃ rest, a.trace.sent = (s.now, Client.withUrlCredentials m) :: rest

theorem within_of_lt {course : Course AttemptEnd} {deadline t : Nanos} {late : Fault}
    {e : AttemptEnd} (h : course.ending = some (t, e)) (ht : t < deadline) :
    course.within deadline late = ⟨course.trace, t, e⟩ := by
  unfold Course.within
  rw [h]
  exact if_pos ht

theorem within_of_le {course : Course AttemptEnd} {deadline : Nanos} {late : Fault}
    (h : ∀ t e, course.ending = some (t, e) → deadline ≤ t) :
    course.within deadline late = ⟨course.trace.before deadline, deadline, .error late⟩ := by
  unfold Course.within
  split
  · next t e he => exact if_neg (Nat.not_lt.2 (h t e he))
  · rfl

/-- A deadline leaves what happens at the start. -/
theorem within_trace {course : Course AttemptEnd} {now deadline : Nanos} (late : Fault)
    {effect : Effect} {rest : Trace} (hd : now < deadline)
    (h : course.trace = ⟨now, effect⟩ :: rest) :
    ∃ rest', (course.within deadline late).trace = ⟨now, effect⟩ :: rest' := by
  have kept : ∃ rest', course.trace.before deadline = ⟨now, effect⟩ :: rest' := by
    rw [h]
    exact ⟨_, List.filter_cons_of_pos (decide_eq_true hd)⟩
  unfold Course.within
  split
  · split
    · exact ⟨rest, h⟩
    · exact kept
  · exact kept

theorem attempt_sends {o : Wire.Outgoing} {m : Wire.Message} {e : Log.Event}
    (hsig : c.signals = .none) (hb : Wire.Outgoing.ofSpec c.spec = .ok o)
    (hm : o.toMessage = .ok m) (hs : c.startEvent i o = .ok e) :
    c.Sends s m (c.attempt i s) := by
  have sent : c.transmit o s = ((c.client s.now).send s.script s.jar s.now m).within
      (c.client s.now).deadline c.late := by
    unfold transmit sending
    rw [hsig, hm]
    rfl
  have attempted : c.attempt i s = ⟨Trace.logging s.now [e] ++ (c.transmit o s).trace,
      (c.transmit o s).time, (c.transmit o s).value⟩ := by
    unfold attempt
    rw [hb]
    dsimp only
    rw [hs]
  rw [attempted, sent]
  refine ⟨?_, ?_, ?_⟩
  · intro t e he ht
    rw [← deadline_eq] at ht
    rw [within_of_lt he ht]
    exact ⟨rfl, rfl⟩
  · intro hlate
    rw [← deadline_eq] at hlate ⊢
    rw [within_of_le hlate]
    exact ⟨rfl, rfl⟩
  · obtain ⟨rest, h⟩ := (c.client s.now).send_trace s.script s.jar s.now m
    obtain ⟨rest', h'⟩ := within_trace c.late (c.lt_deadline s.now) h
    rw [Trace.sent_append, Trace.sent_logging, List.nil_append, h']
    exact ⟨Trace.sent rest', rfl⟩

end Call

namespace Session

end Session

end HttpCourier
