import HttpCourier.Proofs.Call.Measures
import Mathlib.Algebra.BigOperators.Intervals
import Mathlib.Tactic.Ring

/-!
# HttpCourier.Proofs.Call.Extent

**How far a call goes**, whatever its signals. A run is some attempts that are each retried, and a
last one, which it leaves in one of three ways (`Call.Leaves`): its fault goes through, its ending
is that of the call, or the wait behind it is interrupted. `Runs.exists_leaves` takes a run apart
like that.

Each attempt ends with its timeout at the latest, and each wait is as long as the policy says. So
the number of attempts bounds the time of a call (`Call.allowanceMs`). Only a call that is
cancelled in a wait can go beyond that: the wait has begun, and the attempt behind it is never
made (`not_execute_ends` has such a call).
-/

namespace HttpCourier

namespace Nanos

theorem ofSeconds_eq (seconds : Nat) : ofSeconds seconds = ofMillis (seconds * 1000) := by
  unfold ofSeconds ofMillis
  rw [Nat.mul_assoc]

theorem ofMillis_add (a b : Nat) : ofMillis (a + b) = ofMillis a + ofMillis b := Nat.add_mul _ _ _

theorem ofMillis_le {a b : Nat} : ofMillis a ≤ ofMillis b ↔ a ≤ b :=
  Nat.mul_le_mul_right_iff (by decide)

end Nanos

/-! ### Attempts and waits end in time -/

namespace Signals

theorem interrupt?_le {s : Signals} {now ending time : Nanos} {i : Interruption}
    (h : s.interrupt? now ending = some (time, i)) : time ≤ max now ending := by
  unfold interrupt? at h
  split at h
  · split at h
    · next early =>
      cases h
      exact Nat.max_le.2 ⟨Nat.le_max_left _ _, Nat.le_trans early (Nat.le_max_right _ _)⟩
    · cases h
  · cases h

/-- A wait that is interrupted has begun, and goes on no longer than it was to. -/
theorem wait_within {s : Signals} {attempt : Nat} {now delay time : Nanos} {i : Interruption}
    (h : s.wait attempt now delay = (time, some i)) : now ≤ time ∧ time ≤ now + delay := by
  unfold wait at h
  split at h
  · next hi =>
    cases h
    have before := interrupt?_le hi
    rw [Nat.max_eq_right (Nat.le_add_right _ _)] at before
    exact ⟨(interrupt?_some hi).1, before⟩
  · cases (Prod.mk.inj h).1
    exact ⟨Nat.le_add_right _ _, Nat.le_refl _⟩

end Signals

namespace Course

variable {now deadline : Nanos} {late : Fault}

theorem within_time_le (c : Course AttemptEnd) : (c.within deadline late).time ≤ deadline := by
  unfold within
  split
  · split
    · next early => exact Nat.le_of_lt early
    · exact Nat.le_refl _
  · exact Nat.le_refl _

theorem race_time_le (c : Course AttemptEnd) (s : Signals) (hd : now ≤ deadline) :
    (c.race now deadline late s).time ≤ deadline := by
  unfold race
  dsimp only
  split
  · next time i hi =>
    have before := Signals.interrupt?_le hi
    exact Nat.le_trans before (Nat.max_le.2 ⟨hd, c.within_time_le⟩)
  · exact c.within_time_le

end Course

namespace Call

variable {c : Call} {i k n : Nat} {s : Surroundings} {r : CallRecord}

/-- **An attempt ends with its timeout** at the latest. -/
theorem attempt_time_le (c : Call) (i : Nat) (s : Surroundings) :
    (c.attempt i s).time ≤ s.now + Nanos.ofSeconds c.spec.timeout.seconds := by
  have started := Nat.le_add_right s.now (Nanos.ofSeconds c.spec.timeout.seconds)
  rcases c.attempt_cases i s with ⟨f, -, h⟩ | ⟨o, name, -, -, h⟩ | ⟨o, e, -, -, h⟩
  · rw [h]
    exact started
  · rw [h]
    exact started
  · rw [h]
    show (c.transmit o s).time ≤ _
    unfold transmit
    split
    · exact started
    · exact (c.sending o s).race_time_le c.signals (Nat.le_of_lt (c.lt_deadline s.now))

/-- The time that a call may take that makes `n` attempts, in milliseconds: for each attempt its
timeout, and for each but the last the wait behind it. -/
def allowanceMs (c : Call) (n : Nat) : Nat :=
  n * c.spec.timeout.seconds * 1000 + ∑ i ∈ Finset.Ico 1 n, c.policy.delayMsAfter i

theorem allowanceMs_one (c : Call) : c.allowanceMs 1 = c.spec.timeout.seconds * 1000 := by
  simp [allowanceMs]

theorem allowanceMs_succ (c : Call) (h : 1 ≤ n) :
    c.allowanceMs (n + 1) =
      c.allowanceMs n + c.policy.delayMsAfter n + c.spec.timeout.seconds * 1000 := by
  unfold allowanceMs
  rw [Finset.sum_Ico_succ_top h]
  ring

/-- **The attempts up to a given one end in time.** The induction is on their number: each is
behind the wait that follows on the one before it. -/
theorem nth_time_le (c : Call) (s : Surroundings) (k : Nat) :
    (c.nth s (k + 1)).time ≤ s.now + Nanos.ofMillis (c.allowanceMs (k + 1)) := by
  induction k with
  | zero =>
    rw [allowanceMs_one, ← Nanos.ofSeconds_eq]
    exact c.attempt_time_le 1 s
  | succ k ih =>
    have ended := c.attempt_time_le (1 + (k + 1)) (c.before 1 s (k + 1))
    rw [before_succ, ← nth_succ, Nat.add_comm 1 k] at ended
    rw [nth_succ, allowanceMs_succ c (Nat.le_add_left 1 k), Nanos.ofMillis_add,
      Nanos.ofMillis_add, ← Nanos.ofSeconds_eq]
    calc (c.attempt (1 + (k + 1)) (c.before 1 s (k + 1))).time
        ≤ (c.nth s (k + 1)).time + c.policy.delayAfter (k + 1) +
            Nanos.ofSeconds c.spec.timeout.seconds := ended
      _ ≤ s.now + Nanos.ofMillis (c.allowanceMs (k + 1)) + c.policy.delayAfter (k + 1) +
            Nanos.ofSeconds c.spec.timeout.seconds :=
          Nat.add_le_add_right (Nat.add_le_add_right ih _) _
      _ = s.now + (Nanos.ofMillis (c.allowanceMs (k + 1)) +
            Nanos.ofMillis (c.policy.delayMsAfter (k + 1)) +
              Nanos.ofSeconds c.spec.timeout.seconds) := by
          rw [Nat.add_assoc, Nat.add_assoc, ← Nat.add_assoc (Nanos.ofMillis _)]
          rfl

/-! ### The last attempt -/

/-- How a run is left with its last attempt, of number `i`, and what follows on that. -/
inductive Leaves (c : Call) (i : Nat) (a : Stretch AttemptEnd) : CallRecord → Prop
  /-- The fault of the attempt goes through. -/
  | passes {f} (through : through? a.value = some f) :
      Leaves c i a (escape a.time ⟨.attempting, i⟩ f)
  /-- The ending of the attempt is that of the call. -/
  | concludes (inside : through? a.value = none)
      (last : AttemptEnd.retries c.policy a.value i = false) :
      Leaves c i a (c.conclude a.time ⟨.attempting, i⟩ a.value)
  /-- The wait behind the attempt is interrupted. -/
  | halts {time j} (inside : through? a.value = none)
      (more : AttemptEnd.retries c.policy a.value i = true)
      (wait : c.signals.wait i a.time (c.policy.delayAfter i) = (time, some j)) :
      Leaves c i a (.after (c.retryTrace i a) (c.interrupted time ⟨.retrying, i⟩ j))

/-- What a call does in attempt `i` and in the `k` attempts behind it, if that one starts in `s` and
each but the last is followed by a wait. -/
def traceAhead (c : Call) (i : Nat) (s : Surroundings) : Nat → Trace
  | 0 => c.attemptTrace i s
  | k + 1 =>
    c.attemptTrace i s ++ (c.retryTrace i (c.attempt i s) ++
      c.traceAhead (i + 1) (s.after c.variant (c.attempt i s).trace
        ((c.attempt i s).time + c.policy.delayAfter i)) k)

/-- **A run, taken apart**: attempts that are each retried, a last one, and what follows on it. -/
theorem Runs.exists_leaves (h : c.Runs i s r) :
    ∃ k ending, (∀ j < k, AttemptEnd.retries c.policy (c.ahead i s j).value (i + j) = true) ∧
      c.Leaves (i + k) (c.ahead i s k) ending ∧ r = ending.after (c.traceAhead i s k) := by
  have none : ∀ {p : Nat → Prop}, ∀ j < 0, p j := fun j hj => absurd hj (Nat.not_lt_zero j)
  induction h with
  | passes through => exact ⟨0, _, none, .passes through, rfl⟩
  | concludes inside last => exact ⟨0, _, none, .concludes inside last, rfl⟩
  | halts inside more wait => exact ⟨0, _, none, .halts inside more wait, rfl⟩
  | @again i s time r _ more wait _ ih =>
    obtain ⟨k, ending, retried, leaves, rfl⟩ := ih
    have start := wait_uninterrupted wait
    subst start
    have shift : i + 1 + k = i + (k + 1) := by omega
    rw [← ahead_succ, shift] at leaves
    refine ⟨k + 1, ending, ?_, leaves, ?_⟩
    · intro j hj
      cases j with
      | zero => exact more
      | succ j =>
        have h := retried j (Nat.lt_of_succ_lt_succ hj)
        rw [← ahead_succ, Nat.add_right_comm, Nat.add_assoc] at h
        exact h
    · rw [after_after, after_after, traceAhead, List.append_assoc]

/-- What a view of traces shows of attempts, one after the other, is what it shows of each, if it
does not show that another one follows. -/
theorem view_traceAhead (c : Call) {view : Trace → List α}
    (append : ∀ t u, view (t ++ u) = view t ++ view u)
    (retry : ∀ i a, view (c.retryTrace i a) = []) (i : Nat) (s : Surroundings) (k : Nat) :
    view (c.traceAhead i s k) =
      (List.range (k + 1)).flatMap fun j => view (c.attemptTrace (i + j) (c.before i s j)) := by
  induction k generalizing i s with
  | zero => simp [traceAhead, before]
  | succ k ih =>
    have shift : ∀ j, i + 1 + j = i + (j + 1) := by omega
    rw [traceAhead, append, append, retry, ih, List.nil_append,
      List.range_succ_eq_map (n := k + 1), List.flatMap_cons, List.flatMap_map]
    simp only [shift]
    rfl

theorem sent_traceAhead (c : Call) (i : Nat) (s : Surroundings) (k : Nat) :
    (c.traceAhead i s k).sent =
      (List.range (k + 1)).flatMap fun j => (c.ahead i s j).trace.sent := by
  rw [c.view_traceAhead Trace.sent_append c.sent_retryTrace]
  simp only [sent_attemptTrace]
  rfl

namespace Leaves

variable {a : Stretch AttemptEnd} {ending : CallRecord}

theorem attempt_eq (h : c.Leaves i a ending) : ending.progress.attempt = i := by
  cases h with
  | passes _ => rfl
  | concludes _ _ => exact conclude_attempt _ _
  | halts _ _ _ => exact interrupted_attempt _ _ _ _

theorem sent_interrupted (c : Call) (time : Nanos) (i : Nat) (j : Interruption) :
    (c.interrupted time ⟨.retrying, i⟩ j).trace.sent = [] := by
  cases j with
  | byTask => rfl
  | byCaller => exact c.sent_fail _ _ _

/-- Nothing goes out behind the last attempt. -/
theorem sent_eq (h : c.Leaves i a ending) : ending.trace.sent = [] := by
  cases h with
  | passes _ => rfl
  | concludes _ _ => exact c.sent_conclude _ _ _
  | halts _ _ _ => simp [CallRecord.after, sent_interrupted]

/-- A run ends with its last attempt, or in the wait behind it. -/
theorem time_eq_or (h : c.Leaves i a ending) :
    ending.time = a.time ∨ AttemptEnd.retries c.policy a.value i = true ∧
      ∃ j, c.signals.wait i a.time (c.policy.delayAfter i) = (ending.time, some j) := by
  cases h with
  | passes _ => exact .inl rfl
  | concludes _ _ => exact .inl (conclude_time _ _)
  | @halts time j _ more wait =>
    refine .inr ⟨more, j, ?_⟩
    show _ = ((c.interrupted time ⟨.retrying, i⟩ j).time, some j)
    rw [interrupted_time]
    exact wait

end Leaves

/-! ### Whole calls -/

/-- The call, which starts in `s`, has been interrupted at a time, in the wait between its attempt
of the given number and the next one. -/
structure HaltsBehind (c : Call) (s : Surroundings) (n : Nat) (time : Nanos) : Prop where
  allowed : n < c.allowedAttempts
  retryable : (c.nth s n).value.Retryable c.retriedStatuses
  interrupted : ∃ j, c.signals.wait n (c.nth s n).time (Nanos.ofMillis (c.policy.delayMsAfter n)) =
    (time, some j)

/-- The record is that of a call that makes `n` attempts, from the surroundings `s` on. -/
structure Extends (c : Call) (s : Surroundings) (n : Nat) (r : CallRecord) : Prop where
  positive : 1 ≤ n
  allowed : n ≤ c.allowedAttempts
  number : r.progress.attempt = n
  /-- What goes out is what goes out in the attempts, one after the other. -/
  sent : r.trace.sent = (List.range n).flatMap fun k => (c.nth s (k + 1)).trace.sent
  /-- Each attempt but the first one starts after the wait behind the one before it. -/
  waits : ∀ i, 1 ≤ i → i < n →
    (c.before 1 s i).now = (c.nth s i).time + Nanos.ofMillis (c.policy.delayMsAfter i)
  /-- The call ends in time, unless it is interrupted in a wait. -/
  timely : r.time ≤ s.now + Nanos.ofMillis (c.allowanceMs n) ∨ c.HaltsBehind s n r.time ∧
    r.time ≤ s.now + Nanos.ofMillis (c.allowanceMs n + c.policy.delayMsAfter n)

/-- **How far a run goes.** -/
theorem Runs.extends (h : c.Runs 1 s r) : ∃ n, c.Extends s n r := by
  obtain ⟨k, ending, retried, leaves, rfl⟩ := h.exists_leaves
  rw [← nth_succ, Nat.add_comm 1 k] at leaves
  have ended := c.nth_time_le s k
  refine ⟨k + 1, Nat.le_add_left 1 k, ?_, leaves.attempt_eq, ?_, ?_, ?_⟩
  · cases k with
    | zero => exact c.one_le_allowedAttempts
    | succ k =>
      -- The attempt before the last one was retried, so that there was one left.
      have h := ((retries_iff _).1 (retried k (Nat.lt_succ_self k))).1
      omega
  · show (c.traceAhead 1 s k ++ ending.trace).sent = _
    rw [Trace.sent_append, leaves.sent_eq, List.append_nil, sent_traceAhead]
    simp only [nth_succ]
  · intro j hj _
    obtain ⟨m, rfl⟩ := Nat.exists_eq_add_of_le' hj
    rw [before_succ, nth_succ, Nat.add_comm 1 m]
    rfl
  · rcases leaves.time_eq_or with h | ⟨more, j, wait⟩
    · refine .inl ?_
      show ending.time ≤ _
      rw [h]
      exact ended
    · have allowed := (retries_iff _).1 more
      refine .inr ⟨⟨allowed.1, allowed.2, j, wait⟩, ?_⟩
      have within := (Signals.wait_within wait).2
      show ending.time ≤ _
      rw [Nanos.ofMillis_add, ← Nat.add_assoc]
      exact within.trans (Nat.add_le_add_right ended _)

end Call

namespace Script

/-- A transport that never answers. -/
def silent : Script := ⟨[], ⟨0, .silence⟩⟩

theorem answer_of_meets_silent {x : Exchange} (h : silent.Meets x) : x.answer = .silence := by
  rcases h with h | rfl
  · cases h
  · rfl

theorem silent_statusesFrom : silent.StatusesFrom 100 := by
  intro r hr
  obtain ⟨x, hx, hr⟩ := hr
  rw [answer_of_meets_silent hx] at hr
  cases hr

theorem silent_avoids (family : FaultFamily) : silent.Avoids family := by
  intro x f hx hf
  unfold Exchange.Reports at hf
  rw [answer_of_meets_silent hx] at hf
  cases hf

end Script

namespace Session

/-- **Every call ends.** It returns a result, whenever its caller cancels, after at most as many
attempts as it is allowed, and in the time that these attempts and the waits between them may
take. Only the wait behind its last attempt can come on top of that, if the caller cancels in it. -/
theorem execute_ends (s : Session) (spec : RequestSpec) (caller : CancelSignal)
    (statuses : s.script.StatusesFrom 100) (faults : s.script.Avoids .taskCancelled) :
    let c := s.callOf spec ⟨caller, none⟩
    let w : Surroundings := ⟨s.now, s.script, s.jars c.variant⟩
    let r := (s.execute (.spec spec) ⟨caller, none⟩).1
    (∃ result, r.outcome = .returned result) ∧ ∃ n, c.Extends w n r := by
  intro c w r
  have runs : c.Runs 1 w r := s.runs_execute spec _
  exact ⟨runs.returned rfl statuses faults, runs.extends⟩

/-- A request that waits a second for its answer, and may be sent twice. -/
def impatient : RequestSpec :=
  { RequestSpec.home with timeout := ⟨1, by decide, by decide⟩, retry := some ⟨2, 100, true, none⟩ }

/-- The call of such a request, under a transport that never answers, which its caller gives up
halfway through the wait behind the first attempt. -/
theorem impatient_givenUp :
    let r := ((start .usual .silent .stopped).execute (.spec impatient)
      ⟨.at (Nanos.ofMillis 1050), none⟩).1
    r.progress.attempt = 1 ∧ r.time = Nanos.ofMillis 1050 := by
  intro r
  let c : Call := (start .usual .silent .stopped).callOf impatient ⟨.at (Nanos.ofMillis 1050), none⟩
  let w : Surroundings := ⟨0, .silent, []⟩
  have inside : Call.through? (c.attempt 1 w).value = none := by decide +kernel
  have more : AttemptEnd.retries c.policy (c.attempt 1 w).value 1 = true := by decide +kernel
  have wait : c.signals.wait 1 (c.attempt 1 w).time (c.policy.delayAfter 1) =
      (Nanos.ofMillis 1050, some .byCaller) := by decide +kernel
  have ran : _ = r := (Call.Runs.halts inside more wait).eq_run
  rw [← ran]
  exact ⟨rfl, rfl⟩

/-- A call that is given up in a wait. -/
theorem execute_ends_givenUp :
    Script.silent.StatusesFrom 100 ∧ Script.silent.Avoids .taskCancelled ∧
    let signals : Signals := ⟨.at (Nanos.ofMillis 1050), none⟩
    let r := ((start .usual .silent .stopped).execute (.spec impatient) signals).1
    (∃ result, r.outcome = .returned result) ∧
      ∃ n, ((start .usual .silent .stopped).callOf impatient signals).Extends
        ⟨0, .silent, []⟩ n r :=
  ⟨Script.silent_statusesFrom, Script.silent_avoids _,
    execute_ends _ _ _ Script.silent_statusesFrom (Script.silent_avoids _)⟩

/-- The attempts that a call makes, and the waits between them, do not bound its time. -/
theorem not_execute_ends :
    ¬ ∀ (s : Session) (spec : RequestSpec) (caller : CancelSignal), s.script.StatusesFrom 100 →
      s.script.Avoids .taskCancelled →
      let c := s.callOf spec ⟨caller, none⟩
      let r := (s.execute (.spec spec) ⟨caller, none⟩).1
      (∃ result, r.outcome = .returned result) ∧ r.progress.attempt ≤ c.allowedAttempts ∧
        r.time ≤ s.now + Nanos.ofMillis (c.allowanceMs r.progress.attempt) := by
  intro h
  obtain ⟨-, -, timely⟩ := h (start .usual .silent .stopped) impatient (.at (Nanos.ofMillis 1050))
    Script.silent_statusesFrom (Script.silent_avoids _)
  rw [impatient_givenUp.1, impatient_givenUp.2, Call.allowanceMs_one] at timely
  exact absurd timely (by decide)

end Session

end HttpCourier
