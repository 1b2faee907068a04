import HttpCourier.Proofs.Call.Extent
import HttpCourier.Proofs.Call.Interruption

/-!
# HttpCourier.Proofs.Call.TaskCancellation

**The cancellation of a task goes through.** A task that is cancelled while it waits for a call
sees the cancellation itself, at that very time, and never a result: no part of a call takes it
for a fault of the transport, for the end of an attempt or for a reason to try again. What the
call has counted by then, responses and retries, stays counted; the call itself is not counted
among those that ended, nor as a failure.

There is one exception. Where the caller can cancel, a cancellation that comes just behind the
timer of a wait is taken for that of the waiter who listens to the caller (`Signals.Misses`). It is
lost, and the call goes on as if nobody had cancelled the task (`not_execute_taskCancelled`).

The comparison is with the same call whose task is not cancelled, under whatever its caller does. A
cancellation at a time of its own is an interruption of that call (`Signals.precedes_task`). One
behind a timer is not: up to that timer the two calls do the same (`Runs.halted`).
-/

namespace HttpCourier

namespace Tally

/-- What a call counts on its way touches neither the calls nor the failures. -/
theorem addAll_interim {ms : List Measurement} (h : ∀ m ∈ ms, m.isInterim = true) (t : Tally) :
    (t.addAll ms).calls = t.calls ∧ (t.addAll ms).failures = t.failures := by
  induction ms generalizing t with
  | nil => exact ⟨rfl, rfl⟩
  | cons m ms ih =>
    have step : (t.add m).calls = t.calls ∧ (t.add m).failures = t.failures := by
      cases m with
      | response _ _ => exact ⟨rfl, rfl⟩
      | retry => exact ⟨rfl, rfl⟩
      | failure _ => cases h _ List.mem_cons_self
      | call _ => cases h _ List.mem_cons_self
    have rest := ih (fun m hm => h m (List.mem_cons_of_mem _ hm)) (t.add m)
    exact ⟨rest.1.trans step.1, rest.2.trans step.2⟩

end Tally

/-- The cancellation of the task comes first, if the caller cancels later or not at all. -/
theorem Signals.precedes_task {caller : CancelSignal} {time : Nanos}
    (h : ∀ t, caller.time? = some t → time < t) :
    Precedes ⟨caller, some (.at time)⟩ ⟨caller, Option.none⟩ time .byTask := by
  cases caller with
  | absent => exact ⟨rfl, CancelSignal.noConfusion, by rintro t i ⟨⟩, fun _ => rfl⟩
  | never => exact ⟨rfl, CancelSignal.noConfusion, by rintro t i ⟨⟩, fun _ => rfl⟩
  | preset => exact absurd (h 0 rfl) (Nat.not_lt_zero _)
  | «at» t =>
    have early := h t rfl
    refine ⟨if_pos (Nat.le_of_lt early), CancelSignal.noConfusion, ?_, fun _ => rfl⟩
    rintro t i ⟨⟩
    exact early

/-! ### Behind a timer -/

/-- The cancellation of the task comes just behind the timer of a wait that listens to the
caller. -/
def Signals.Misses (s : Signals) : Prop :=
  s.caller ≠ .absent ∧ ∃ attempt, s.task = some (.behindTimer attempt)

namespace Call

/-- The call, as its task is cancelled just behind the timer of the wait behind an attempt. -/
def behindTimer (c : Call) (n : Nat) : Call :=
  c.under ⟨c.signals.caller, some (.behindTimer n)⟩

variable {c : Call} {i n : Nat} {s : Surroundings} {r : CallRecord} {now delay time : Nanos}

/-- A wait that listens to the caller does not see the cancellation. -/
theorem wait_missed (alone : c.signals.task = none) (listens : c.signals.caller ≠ .absent) :
    (c.behindTimer n).signals.wait i now delay = c.signals.wait i now delay := by
  obtain ⟨settings, spec, ⟨caller, task⟩, start, clock⟩ := c
  obtain rfl : task = none := alone
  have heard : Signals.haltsBehind ⟨caller, some (.behindTimer n)⟩ i = false := by
    simp [Signals.haltsBehind, show caller ≠ .absent from listens]
  show Signals.wait ⟨caller, some (.behindTimer n)⟩ i now delay = _
  unfold Signals.wait
  rw [heard]
  rfl

/-- The wait in question is halted as its timer goes off, if it listens to nobody. -/
theorem wait_halted (silent : c.signals.caller = .absent) :
    (c.behindTimer n).signals.wait n now delay = (now + delay, some .byTask) := by
  have halts : Signals.haltsBehind ⟨.absent, some (.behindTimer n)⟩ n = true := by
    simp [Signals.haltsBehind]
  show Signals.wait ⟨c.signals.caller, _⟩ n now delay = _
  unfold Signals.wait
  rw [silent, halts]
  rfl

/-- Any other wait takes its time. -/
theorem wait_passed (silent : c.signals.caller = .absent) (other : i ≠ n) :
    (c.behindTimer n).signals.wait i now delay = (now + delay, none) := by
  show Signals.wait ⟨c.signals.caller, _⟩ i now delay = _
  rw [silent]
  exact Signals.wait_of_quiet delay rfl (by simp [Signals.haltsBehind, Ne.symm other])

/-- No attempt sees the cancellation. -/
theorem attempt_behindTimer (alone : c.signals.task = none) (n i : Nat) (s : Surroundings) :
    (c.behindTimer n).attempt i s = c.attempt i s := by
  obtain ⟨settings, spec, ⟨caller, task⟩, start, clock⟩ := c
  obtain rfl : task = none := alone
  rcases attempt_under ⟨settings, spec, ⟨caller, none⟩, start, clock⟩ i s with
    ⟨f, -, h⟩ | ⟨o, e, h⟩
  · exact (h _).trans (h ⟨caller, none⟩).symm
  · exact (h _).trans (h ⟨caller, none⟩).symm

theorem attemptTrace_behindTimer (alone : c.signals.task = none) (n i : Nat) (s : Surroundings) :
    (c.behindTimer n).attemptTrace i s = c.attemptTrace i s := by
  unfold attemptTrace
  rw [attempt_behindTimer alone]
  rfl

/-- **A run that misses a cancellation** is no other for it. -/
theorem Runs.missed (h : c.Runs i s r) (alone : c.signals.task = none)
    (listens : c.signals.caller ≠ .absent) (n : Nat) : (c.behindTimer n).Runs i s r := by
  have attempts := attempt_behindTimer alone n
  have traces := attemptTrace_behindTimer alone n
  induction h with
  | @passes i s f through =>
    rw [← attempts] at through ⊢
    rw [← traces]
    exact .passes through
  | @concludes i s inside last =>
    rw [← attempts] at inside last ⊢
    rw [← traces]
    exact .concludes inside last
  | @halts i s time j inside more wait =>
    rw [← attempts] at inside more wait ⊢
    rw [← traces]
    exact .halts inside more ((wait_missed alone listens).trans wait)
  | @again i s time r inside more wait _ ih =>
    rw [← attempts] at inside more wait ih ⊢
    rw [← traces]
    exact .again inside more ((wait_missed alone listens).trans wait) ih

/-- An attempt, and the start of the wait behind it, come ahead of the end of that wait, and of
anything later. -/
theorem ahead_wait (c : Call) (i : Nat) (s : Surroundings)
    (later : (c.attempt i s).time + c.policy.delayAfter i ≤ time) :
    (c.attemptTrace i s).Ahead time ∧ (c.retryTrace i (c.attempt i s)).Ahead time :=
  have early := (Nat.le_add_right (c.attempt i s).time (c.policy.delayAfter i)).trans later
  ⟨c.ahead_attemptTrace i s early, c.ahead_retryTrace i early⟩

/-- **A run whose task is cancelled just behind the timer of a wait** that listens to nobody ends
there. The induction is on the run that is not disturbed: up to that wait the two do the same. -/
theorem Runs.halted (h : c.Runs i s r) (alone : c.signals.task = none)
    (silent : c.signals.caller = .absent) (k : Nat) (number : n = i + k)
    (goesOn : n < r.progress.attempt) :
    s.now ≤ (c.before i s (k + 1)).now ∧ ∃ r', (c.behindTimer n).Runs i s r' ∧
      (c.behindTimer n).EndsWith (c.before i s (k + 1)).now .byTask r' := by
  have attempts := attempt_behindTimer alone n
  induction h generalizing k with
  | @passes i s f _ =>
    change n < i at goesOn
    omega
  | @concludes i s _ _ =>
    rw [CallRecord.after, conclude_attempt] at goesOn
    omega
  | @halts i s time j _ _ _ =>
    change n < (Call.interrupted _ time ⟨.retrying, i⟩ j).progress.attempt at goesOn
    rw [interrupted_attempt] at goesOn
    omega
  | @again i s time r inside more wait _ ih =>
    cases wait_uninterrupted wait
    have started := (c.attempt_keeps i s).started
    have waited := started.trans (Nat.le_add_right _ (c.policy.delayAfter i))
    rw [before]
    rw [← attempts] at inside more waited ih ⊢
    cases k with
    | zero =>
      -- This is the wait in question.
      obtain rfl : n = i := number
      obtain ⟨attempt, retry⟩ := (c.behindTimer n).ahead_wait n s (Nat.le_refl _)
      exact ⟨waited, _, .halts inside more (wait_halted silent),
        (EndsWith.inWait n retry).after attempt⟩
    | succ k =>
      have other : i ≠ n := by omega
      obtain ⟨later, r', runs, ends⟩ := ih k (by omega) goesOn
      obtain ⟨attempt, retry⟩ := (c.behindTimer n).ahead_wait i s later
      exact ⟨waited.trans later, _, .again inside more (wait_passed silent other) runs,
        (ends.after retry).after attempt⟩

/-! ### Cancelled runs -/

/-- The record ends at a time, as that of a call whose task is cancelled: the cancellation goes
through, nothing comes later, and nothing is counted that belongs to the end of a call. -/
structure CancelledAt (time : Nanos) (r : CallRecord) : Prop where
  time_eq : r.time = time
  outcome : r.outcome = .escaped Interruption.byTask.fault
  ahead : r.trace.Ahead time

theorem EndsWith.cancelledAt (h : c.EndsWith time .byTask r) : CancelledAt time r := by
  cases h with
  | inAttempt _ ahead => exact ⟨rfl, rfl, ahead.append Trace.ahead_nil⟩
  | inWait _ ahead => exact ⟨rfl, rfl, ahead.append Trace.ahead_nil⟩

/-- **A run whose task is cancelled on its way** ends there, whatever the caller does. -/
theorem Runs.taskCancelled {caller : CancelSignal}
    (h : (c.under ⟨caller, none⟩).Runs i s r) (hn : s.now ≤ time) (ht : time < r.time) :
    ∃ r', (c.under ⟨caller, some (.at time)⟩).Runs i s r' ∧ CancelledAt time r' := by
  have later : ∀ t, caller.time? = some t → time < t := by
    intro t hc
    have first : Signals.first? ⟨caller, none⟩ = some (t, .byCaller) := by
      unfold Signals.first?
      rw [hc]
      rfl
    -- A caller who cancels first would have ended the call by then.
    have ended := Nat.lt_of_lt_of_le ht (h.time_le_first? first)
    exact Nat.not_le.1 fun passed => absurd ended (Nat.not_lt.2 (Nat.max_le.2 ⟨hn, passed⟩))
  obtain ⟨r', runs, ends⟩ := h.interrupted (Signals.precedes_task later) hn ht
  exact ⟨r', runs, ends.cancelledAt⟩

end Call

namespace Session

variable {s : Session} {config : Config} {spec : RequestSpec} {caller : CancelSignal} {t : Nanos}

/-- When the wait behind an attempt of a call ends with its timer. -/
def waitEnd (s : Session) (spec : RequestSpec) (signals : Signals) (n : Nat) : Nanos :=
  let c := s.callOf spec signals
  (c.nth ⟨s.now, s.script, s.jars c.variant⟩ n).time + Nanos.ofMillis (c.policy.delayMsAfter n)

/-- When the cancellation of the task comes to a call, which would have taken its course without it:
at a time of its own; or as a wait ends with its timer, and another attempt is about to follow. -/
inductive Lands (s : Session) (config : Config) (caller : CancelSignal) : TaskSignal → Nanos → Prop
  | at (d : Nanos) : Lands s config caller (.at d) (s.now + d)
  | behindTimer {spec n} (described : config.spec? s.settings = .ok spec) (counted : 1 ≤ n)
      (goesOn : n < (s.execute config ⟨caller, none⟩).1.progress.attempt) :
      Lands s config caller (.behindTimer n) (s.waitEnd spec ⟨caller, none⟩ n)

/-- A cancellation at a time of its own. -/
theorem record_taskCancelled {d : Nanos}
    (early : s.now + d < (s.record config ⟨caller, none⟩).time) :
    Call.CancelledAt (s.now + d) (s.record config ⟨caller, some (.at d)⟩) := by
  cases hs : config.spec? s.settings with
  | error stop =>
    rw [record_time_of_error hs] at early
    exact absurd early (Nat.not_lt.2 (Nat.le_add_right _ _))
  | ok spec =>
    rw [record_eq_run hs] at early ⊢
    have undisturbed := Call.runs_run (s.callOf spec ⟨caller, none⟩) s.script
      (s.jars (s.callOf spec ⟨caller, none⟩).variant)
    obtain ⟨r, runs, cancelled⟩ := Call.Runs.taskCancelled (c := s.callOf spec ⟨caller, none⟩)
      undisturbed (Nat.le_add_right _ d) early
    have same : r = (s.callOf spec ⟨caller, some (.at d)⟩).run s.script
      (s.jars (s.callOf spec ⟨caller, some (.at d)⟩).variant) := runs.eq_run
    rw [← same]
    exact cancelled

/-- A cancellation behind the timer of a wait that listens to nobody. -/
theorem record_halted {n : Nat} (described : config.spec? s.settings = .ok spec) (counted : 1 ≤ n)
    (goesOn : n < (s.record config ⟨.absent, none⟩).progress.attempt) :
    Call.CancelledAt (s.waitEnd spec ⟨.absent, none⟩ n)
      (s.record config ⟨.absent, some (.behindTimer n)⟩) := by
  let c := s.callOf spec ⟨.absent, none⟩
  let w : Surroundings := ⟨s.now, s.script, s.jars c.variant⟩
  obtain ⟨k, rfl⟩ := Nat.exists_eq_add_of_le counted
  have undisturbed : c.Runs 1 w (s.record config ⟨.absent, none⟩) := s.runs_record described _
  obtain ⟨-, r, runs, ends⟩ := undisturbed.halted rfl rfl k rfl goesOn
  have same : r = s.record config ⟨.absent, some (.behindTimer (1 + k))⟩ := by
    rw [record_eq_run described]
    exact runs.eq_run
  have ended : s.waitEnd spec ⟨.absent, none⟩ (1 + k) = (c.before 1 w (k + 1)).now := by
    rw [Call.before_succ, ← Call.nth_succ, Nat.add_comm k 1]
    rfl
  rw [← same, ended]
  exact ends.cancelledAt

/-- A cancellation behind the timer of a wait that listens to the caller. -/
theorem record_missed (listens : caller ≠ .absent) (n : Nat) :
    s.record config ⟨caller, some (.behindTimer n)⟩ = s.record config ⟨caller, none⟩ := by
  cases hs : config.spec? s.settings with
  | error stop =>
    unfold record
    rw [hs]
    cases stop <;> rfl
  | ok spec =>
    rw [record_eq_run hs, record_eq_run hs]
    have undisturbed := Call.runs_run (s.callOf spec ⟨caller, none⟩) s.script
      (s.jars (s.callOf spec ⟨caller, none⟩).variant)
    have missed := undisturbed.missed rfl (mt CancelSignal.startingAt_eq_absent_iff.1 listens) n
    exact missed.eq_run.symm

/-- **The cancellation of a task goes through**, unless it comes just behind the timer of a wait
that also listens to the caller. If the task is cancelled before the call would have ended without
it, the cancellation goes through at that very time, whatever the caller does and wherever the call
has come. Nothing happens later, no request in particular, and the call is counted neither among
those that ended nor as a failure. But a cancellation behind such a timer makes no difference at
all. -/
theorem execute_taskCancelled (s : Session) (config : Config) (caller : CancelSignal)
    (task : TaskSignal) (t : Nanos) (lands : s.Lands config caller task t)
    (early : t < (s.execute config ⟨caller, none⟩).1.time) :
    let r := (s.execute config ⟨caller, some task⟩).1
    let after := (s.execute config ⟨caller, some task⟩).2
    (¬ Signals.Misses ⟨caller, some task⟩ →
      r.time = t ∧
      r.outcome = .escaped (Fault.ofKind "CancelledError" none) ∧
      (∀ m ∈ r.trace, m.time ≤ t) ∧ (∀ x ∈ r.trace.sent, x.1 ≤ t) ∧
      after.tally.calls = s.tally.calls ∧ after.tally.failures = s.tally.failures) ∧
    (Signals.Misses ⟨caller, some task⟩ →
      s.execute config ⟨caller, some task⟩ = s.execute config ⟨caller, none⟩) := by
  intro r after
  refine ⟨fun observed => ?_, ?_⟩
  · have cancelled : Call.CancelledAt t r := by
      cases lands with
      | «at» d => exact record_taskCancelled early
      | behindTimer described counted goesOn =>
        have silent : caller = .absent := by
          by_contra listens
          exact observed ⟨listens, _, rfl⟩
        subst silent
        exact record_halted described counted goesOn
    have counted := Tally.addAll_interim cancelled.ahead.interim s.tally
    refine ⟨cancelled.time_eq, cancelled.outcome, cancelled.ahead.timely, ?_, counted.1, counted.2⟩
    exact fun x hx => cancelled.ahead.timely _ (Trace.mem_of_mem_sent hx)
  · rintro ⟨listens, n, ⟨⟩⟩
    unfold execute
    rw [record_missed listens]

/-- A task that is cancelled while its call waits for a response that never comes, and before the
caller cancels. -/
theorem execute_taskCancelled_unanswered :
    0 + 5 < ((start .usual ⟨[], ⟨0, .silence⟩⟩ .stopped).execute
      (.spec (.bare ⟨"http://h/", by decide, by decide⟩)) ⟨.at 9, none⟩).1.time ∧
    ((start .usual ⟨[], ⟨0, .silence⟩⟩ .stopped).execute
      (.spec (.bare ⟨"http://h/", by decide, by decide⟩)) ⟨.at 9, some (.at 5)⟩).1.time =
        0 + 5 := by
  have early : 0 + 5 < ((start .usual ⟨[], ⟨0, .silence⟩⟩ .stopped).execute
      (.spec (.bare ⟨"http://h/", by decide, by decide⟩)) ⟨.at 9, none⟩).1.time := by
    rw [execute_record, record_eq_run rfl, Call.run, Call.attemptsFrom_eq Progress.ready_start]
    decide +kernel
  have observed : ¬ Signals.Misses ⟨.at 9, some (.at 5)⟩ := by
    rintro ⟨-, n, ⟨⟩⟩
  exact ⟨early, ((execute_taskCancelled _ _ _ _ _ (.at 5) early).1 observed).1⟩

/-- An impatient request under a transport that never answers, whose attempts both come to
nothing. -/
theorem impatient_unanswered :
    let r := ((start .usual .silent .stopped).execute (.spec impatient) .none).1
    r.progress.attempt = 2 ∧ r.time = Nanos.ofMillis 2100 := by
  intro r
  let c : Call := (start .usual .silent .stopped).callOf impatient .none
  let w : Surroundings := ⟨0, .silent, []⟩
  have inside : Call.through? (c.attempt 1 w).value = none := by decide +kernel
  have more : AttemptEnd.retries c.policy (c.attempt 1 w).value 1 = true := by decide +kernel
  have inside' : Call.through? (c.attempt 2 (c.before 1 w 1)).value = none := by decide +kernel
  have last : AttemptEnd.retries c.policy (c.attempt 2 (c.before 1 w 1)).value 2 = false := by
    decide +kernel
  have timed : (c.attempt 2 (c.before 1 w 1)).time = Nanos.ofMillis 2100 := by decide +kernel
  have ran : _ = r := (Call.Runs.again inside more rfl (.concludes inside' last)).eq_run
  rw [← ran]
  simp only [CallRecord.after, Call.conclude_attempt, Call.conclude_time]
  exact ⟨trivial, timed⟩

/-- A cancellation of the task is not always seen: behind the timer of a wait that listens to the
caller it is lost, and the call goes on. -/
theorem not_execute_taskCancelled :
    ¬ ∀ (s : Session) (config : Config) (caller : CancelSignal) (task : TaskSignal) (t : Nanos),
      s.Lands config caller task t → t < (s.execute config ⟨caller, none⟩).1.time →
      let r := (s.execute config ⟨caller, some task⟩).1
      let after := (s.execute config ⟨caller, some task⟩).2
      r.time = t ∧ r.outcome = .escaped (Fault.ofKind "CancelledError" none) ∧
      (∀ x ∈ r.trace.sent, x.1 ≤ t) ∧
      after.tally.calls = s.tally.calls ∧ after.tally.failures = s.tally.failures := by
  intro h
  obtain ⟨attempts, ended⟩ := impatient_unanswered
  -- The cancellation comes as the second attempt is about to start.
  let s : Session := start .usual .silent .stopped
  have described : (Config.spec impatient).spec? s.settings = .ok impatient := rfl
  have goesOn : 1 < (s.execute (.spec impatient) .none).1.progress.attempt := by
    rw [attempts]
    decide
  have lands : s.Lands (.spec impatient) .never (.behindTimer 1) (s.waitEnd impatient .none 1) :=
    .behindTimer described (Nat.le_refl 1) goesOn
  have timed : s.waitEnd impatient .none 1 = Nanos.ofMillis 1100 := by decide +kernel
  have early : s.waitEnd impatient .none 1 < (s.execute (.spec impatient) .none).1.time := by
    rw [timed, ended]
    decide
  obtain ⟨cancelled, -⟩ := h s (.spec impatient) .never (.behindTimer 1) _ lands early
  rw [execute_record, record_missed CancelSignal.noConfusion, ← execute_record] at cancelled
  exact absurd cancelled (Nat.ne_of_gt early)

end Session

end HttpCourier
