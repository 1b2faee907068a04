import HttpCourier.Proofs.Call.Measures

/-!
# HttpCourier.Proofs.Call.Interruption

**A call that is interrupted** ends at that very time, wherever it has come: before a request
goes out, while one is under way, while a body comes in, or between two attempts. The call is
compared with the same call under signals that interrupt it later, or not at all
(`Signals.Precedes`). As long as that other call is not past the time of the interruption the two
do the same; the attempt or the wait in which the interruption comes ends with it
(`Runs.interrupted`).

Who interrupts decides only how the call ends there (`Call.interrupted`): the caller is told by a
result, and the cancellation of the task goes through.
-/

namespace HttpCourier

/-- The measurement is one that a call makes on its way, and not one of its end. -/
def Measurement.isInterim : Measurement → Bool
  | .response _ _ | .retry => true
  | .failure _ | .call _ => false

/-- What comes ahead of an interruption: nothing in it is later, and nothing in it is counted that
belongs to the end of a call. -/
structure Trace.Ahead (time : Nanos) (t : Trace) : Prop where
  timely : ∀ m ∈ t, m.time ≤ time
  interim : ∀ m ∈ t.measurements, m.isInterim = true

namespace Trace

variable {t u : Trace} {time : Nanos}

theorem ahead_nil : Ahead time [] :=
  ⟨fun _ hm => absurd hm List.not_mem_nil, fun _ hm => absurd hm List.not_mem_nil⟩

theorem Ahead.append (ht : t.Ahead time) (hu : u.Ahead time) : (t ++ u).Ahead time := by
  refine ⟨fun m hm => ?_, fun m hm => ?_⟩
  · rcases List.mem_append.1 hm with hm | hm
    · exact ht.timely m hm
    · exact hu.timely m hm
  · rw [measurements_append] at hm
    rcases List.mem_append.1 hm with hm | hm
    · exact ht.interim m hm
    · exact hu.interim m hm

theorem time_eq_of_mem_measuring {ms : List Measurement} :
    ∀ m ∈ measuring time ms, m.time = time := by
  intro m hm
  obtain ⟨e, -, rfl⟩ := List.mem_map.1 hm
  rfl

theorem ahead_logging (events : List Log.Event) {now : Nanos} (hn : now ≤ time) :
    (logging now events).Ahead time := by
  refine ⟨fun m hm => ?_, fun m hm => ?_⟩
  · rw [time_eq_of_mem_logging m hm]
    exact hn
  · rw [measurements_logging] at hm
    cases hm

end Trace

/-! ### Signals, one ahead of the others -/

namespace Signals

/-- The signals interrupt at a time, and the others interrupt later or not at all. Neither caller
has cancelled beforehand, and the others do not interrupt behind a timer either. -/
structure Precedes (signals others : Signals) (time : Nanos) (j : Interruption) : Prop where
  first : signals.first? = some (time, j)
  notPreset : signals.caller ≠ .preset
  later : ∀ t i, others.first? = some (t, i) → time < t
  notBehind : ∀ attempt, others.haltsBehind attempt = false

variable {signals others : Signals} {time now ending : Nanos} {j : Interruption}

/-- What interrupts behind a timer has no time of its own, and is not joined by the caller. -/
theorem haltsBehind_of_first? (h : signals.first? = some (time, j)) (attempt : Nat) :
    signals.haltsBehind attempt = false := by
  cases halts : signals.haltsBehind attempt with
  | false => rfl
  | true =>
    obtain ⟨task, caller⟩ := Bool.and_eq_true_iff.1 halts
    unfold first? at h
    rw [of_decide_eq_true task, of_decide_eq_true caller] at h
    cases h

theorem wait_of_quiet {attempt : Nat} (delay : Nanos)
    (h : signals.interrupt? now (now + delay) = Option.none)
    (behind : signals.haltsBehind attempt = false) :
    signals.wait attempt now delay = (now + delay, Option.none) := by
  unfold wait
  rw [h, behind]
  rfl

theorem interrupt?_of_first? (h : signals.first? = some (time, j)) :
    signals.interrupt? now ending =
      if time ≤ ending then some (max now time, j) else Option.none := by
  unfold interrupt?
  rw [h]

theorem wait_of_first? (h : signals.first? = some (time, j)) (attempt : Nat) (delay : Nanos) :
    signals.wait attempt now delay =
      if time ≤ now + delay then (max now time, some j) else (now + delay, Option.none) := by
  have interrupt : signals.interrupt? now (now + delay) = _ := interrupt?_of_first? h
  by_cases ht : time ≤ now + delay
  · rw [if_pos ht] at interrupt ⊢
    unfold wait
    rw [interrupt]
  · rw [if_neg ht] at interrupt ⊢
    exact wait_of_quiet delay interrupt (haltsBehind_of_first? h attempt)

/-- A caller who has cancelled beforehand is ahead of everything. -/
theorem Precedes.othersNotPreset (h : signals.Precedes others time j) :
    others.caller ≠ .preset := by
  obtain ⟨caller, task⟩ := others
  rintro rfl
  rcases task with _ | t | n
  · exact Nat.not_lt_zero _ (h.later _ _ rfl)
  · refine Nat.not_lt_zero time ?_
    by_cases ht : t ≤ 0
    · have first : first? ⟨.preset, some (.at t)⟩ = some (t, .byTask) := if_pos ht
      exact Nat.lt_of_lt_of_le (h.later _ _ first) ht
    · have first : first? ⟨.preset, some (.at t)⟩ = some (0, .byCaller) := if_neg ht
      exact h.later _ _ first
  · exact Nat.not_lt_zero _ (h.later _ _ rfl)

theorem Precedes.interrupt?_others (h : signals.Precedes others time j) (he : ending ≤ time) :
    others.interrupt? now ending = Option.none := by
  unfold interrupt?
  cases hf : others.first? with
  | none => rfl
  | some first => exact if_neg (Nat.not_le.2 (Nat.lt_of_le_of_lt he (h.later _ _ hf)))

/-- A wait is over before the interruption comes, and nobody else comes in between; or it ends
with the interruption. -/
theorem Precedes.wait (h : signals.Precedes others time j) (hn : now ≤ time) (attempt : Nat)
    (delay : Nanos) :
    (now + delay < time ∧ signals.wait attempt now delay = (now + delay, Option.none) ∧
      others.wait attempt now delay = (now + delay, Option.none)) ∨
    signals.wait attempt now delay = (time, some j) := by
  rw [wait_of_first? h.first, Nat.max_eq_right hn]
  by_cases ht : time ≤ now + delay
  · rw [if_pos ht]
    exact .inr rfl
  · rw [if_neg ht]
    exact .inl ⟨Nat.not_le.1 ht, rfl,
      wait_of_quiet delay (h.interrupt?_others (Nat.le_of_not_le ht)) (h.notBehind attempt)⟩

end Signals

/-- A course is over before the interruption comes, and nobody else comes in between; or it ends
with the interruption. -/
theorem Course.race_precedes {signals others : Signals} {time now : Nanos} {j : Interruption}
    (course : Course AttemptEnd) (deadline : Nanos) (late : Fault)
    (h : signals.Precedes others time j) (hn : now ≤ time) :
    (course.race now deadline late signals = course.race now deadline late others ∧
      (course.race now deadline late others).time ≤ time) ∨
    course.race now deadline late signals =
      ⟨course.trace.upTo time, time, .error j.fault⟩ := by
  unfold race
  dsimp only
  rw [Signals.interrupt?_of_first? h.first, Nat.max_eq_right hn]
  by_cases ht : time ≤ (course.within deadline late).time
  · rw [if_pos ht]
    exact .inr rfl
  · have inTime := Nat.le_of_not_le ht
    rw [if_neg ht, h.interrupt?_others inTime]
    exact .inl ⟨rfl, inTime⟩

/-- No course goes on behind the first interruption. -/
theorem Course.race_time_le_first? {signals : Signals} {time now : Nanos} {j : Interruption}
    (course : Course AttemptEnd) (deadline : Nanos) (late : Fault)
    (h : signals.first? = some (time, j)) :
    (course.race now deadline late signals).time ≤ max now time := by
  unfold race
  dsimp only
  rw [Signals.interrupt?_of_first? h]
  by_cases ht : time ≤ (course.within deadline late).time
  · rw [if_pos ht]
  · rw [if_neg ht]
    exact Nat.le_trans (Nat.le_of_not_le ht) (Nat.le_max_right _ _)

namespace Call

/-- The call under other signals. -/
def under (c : Call) (signals : Signals) : Call := { c with signals := signals }

variable {c : Call} {i : Nat} {s : Surroundings} {r : CallRecord} {time : Nanos}
  {j : Interruption} {signals others : Signals}

/-! ### Attempts -/

/-- Signals matter to an attempt only once its request goes out. -/
theorem attempt_under (c : Call) (i : Nat) (s : Surroundings) :
    (∃ f : Fault, f.family = .other ∧
      ∀ signals, (c.under signals).attempt i s = ⟨[], s.now, .error f⟩) ∨
    ∃ o e, ∀ signals, (c.under signals).attempt i s =
      ⟨Trace.logging s.now [e] ++ ((c.under signals).transmit o s).trace,
        ((c.under signals).transmit o s).time, ((c.under signals).transmit o s).value⟩ := by
  rcases c.attempt_cases i s with ⟨f, hb, -⟩ | ⟨o, name, hb, hs, -⟩ | ⟨o, e, hb, hs, -⟩
  · refine .inl ⟨Fault.ofBuild f, by cases f <;> rfl, fun signals => ?_⟩
    unfold attempt
    rw [show Wire.Outgoing.ofSpec (c.under signals).spec = .error f from hb]
  · refine .inl ⟨Fault.lostField name, rfl, fun signals => ?_⟩
    unfold attempt
    rw [show Wire.Outgoing.ofSpec (c.under signals).spec = .ok o from hb]
    dsimp only
    rw [show (c.under signals).startEvent i o = .error name from hs]
  · refine .inr ⟨o, e, fun signals => ?_⟩
    unfold attempt
    rw [show Wire.Outgoing.ofSpec (c.under signals).spec = .ok o from hb]
    dsimp only
    rw [show (c.under signals).startEvent i o = .ok e from hs]

theorem transmit_precedes (c : Call) (o : Wire.Outgoing) (h : signals.Precedes others time j)
    (hn : s.now ≤ time) :
    ((c.under signals).transmit o s = (c.under others).transmit o s ∧
      ((c.under others).transmit o s).time ≤ time) ∨
    (c.under signals).transmit o s = ⟨(c.sending o s).trace.upTo time, time, .error j.fault⟩ := by
  unfold transmit
  -- A caller who has cancelled beforehand would keep the request from going out at all.
  rw [if_neg (show (c.under signals).signals.caller ≠ .preset from h.notPreset),
    if_neg (show (c.under others).signals.caller ≠ .preset from h.othersNotPreset)]
  exact (c.sending o s).race_precedes (c.client s.now).deadline c.late h hn

/-- An attempt that is over before the interruption comes, or that has nothing to send, is not
disturbed by it. Any other one ends with it. -/
theorem attempt_precedes (c : Call) (i : Nat) (h : signals.Precedes others time j)
    (hn : s.now ≤ time) :
    ((c.under signals).attempt i s = (c.under others).attempt i s ∧
      ((c.under others).attempt i s).time ≤ time) ∨
    ∃ trace, (c.under signals).attempt i s = ⟨trace, time, .error j.fault⟩ := by
  rcases c.attempt_under i s with ⟨f, -, ha⟩ | ⟨o, e, ha⟩
  · rw [ha, ha]
    exact .inl ⟨rfl, hn⟩
  · rw [ha, ha]
    rcases c.transmit_precedes o h hn with ⟨same, inTime⟩ | stopped
    · rw [same]
      exact .inl ⟨rfl, inTime⟩
    · rw [stopped]
      exact .inr ⟨_, rfl⟩

/-- An attempt counts at most its response. -/
theorem ahead_attemptTrace (c : Call) (i : Nat) (s : Surroundings)
    (ht : (c.attempt i s).time ≤ time) : (c.attemptTrace i s).Ahead time := by
  refine Trace.Ahead.append ⟨fun m hm => ?_, fun m hm => ?_⟩ (Trace.ahead_logging _ ht)
  · exact Nat.le_trans ((c.attempt_keeps i s).timely m hm) ht
  · rw [(c.attempted i s).measures] at hm
    obtain ⟨received, -, rfl⟩ := List.mem_map.1 hm
    rfl

theorem ahead_retryTrace (c : Call) (i : Nat) {a : Stretch AttemptEnd} (ht : a.time ≤ time) :
    (c.retryTrace i a).Ahead time := by
  refine (Trace.ahead_logging _ ht).append ⟨fun m hm => ?_, fun m hm => ?_⟩
  · rw [Trace.time_eq_of_mem_measuring m hm]
    exact ht
  · rw [Trace.measurements_measuring, List.mem_singleton] at hm
    rw [hm]
    rfl

/-- An attempt that ends with an interruption ends the call. -/
theorem runs_of_interrupted {trace : Trace}
    (h : c.attempt i s = ⟨trace, time, .error j.fault⟩) :
    c.Runs i s (.after (c.attemptTrace i s) (c.interrupted time ⟨.attempting, i⟩ j)) := by
  cases j with
  | byTask =>
    have through : through? (c.attempt i s).value = some Interruption.byTask.fault := by
      rw [h]
      rfl
    have run := Runs.passes through
    rw [h] at run
    exact run
  | byCaller =>
    have inside : through? (c.attempt i s).value = none := by
      rw [h]
      rfl
    have last : AttemptEnd.retries c.policy (c.attempt i s).value i = false := by
      rw [h]
      exact Bool.and_false _
    have run := Runs.concludes inside last
    rw [h, conclude_error] at run
    exact run

/-! ### Runs -/

/-- The record is that of a call which is interrupted in an attempt or in a wait. -/
inductive EndsWith (c : Call) (time : Nanos) (j : Interruption) : CallRecord → Prop
  | inAttempt {trace : Trace} (i : Nat) (ahead : trace.Ahead time) :
      EndsWith c time j (.after trace (c.interrupted time ⟨.attempting, i⟩ j))
  | inWait {trace : Trace} (i : Nat) (ahead : trace.Ahead time) :
      EndsWith c time j (.after trace (c.interrupted time ⟨.retrying, i⟩ j))

theorem EndsWith.after {trace : Trace} (h : c.EndsWith time j r) (ahead : trace.Ahead time) :
    c.EndsWith time j (r.after trace) := by
  cases h with
  | inAttempt i rest =>
    rw [after_after]
    exact .inAttempt i (ahead.append rest)
  | inWait i rest =>
    rw [after_after]
    exact .inWait i (ahead.append rest)

theorem exists_runs_endsWith {trace : Trace} (h : c.attempt i s = ⟨trace, time, .error j.fault⟩) :
    ∃ r, c.Runs i s r ∧ c.EndsWith time j r := by
  refine ⟨_, runs_of_interrupted h, .inAttempt i (c.ahead_attemptTrace i s ?_)⟩
  rw [h]

/-- **A call that is interrupted on its way** ends there. The induction is on the run that is
interrupted later: each of its attempts that is over in time is one of the interrupted run too. -/
theorem Runs.interrupted (h : (c.under others).Runs i s r) (hp : signals.Precedes others time j)
    (hn : s.now ≤ time) (ht : time < r.time) :
    ∃ r', (c.under signals).Runs i s r' ∧ (c.under signals).EndsWith time j r' := by
  induction h with
  | @passes i s f hf =>
    rcases c.attempt_precedes i hp hn with ⟨-, hle⟩ | ⟨trace, stopped⟩
    · exact absurd ht (Nat.not_lt.2 hle)
    · exact exists_runs_endsWith stopped
  | @concludes i s hf hm =>
    rcases c.attempt_precedes i hp hn with ⟨-, hle⟩ | ⟨trace, stopped⟩
    · -- The other call would be over before the interruption comes.
      rw [CallRecord.after, conclude_time] at ht
      exact absurd ht (Nat.not_lt.2 hle)
    · exact exists_runs_endsWith stopped
  | @halts i s time' j' hf hm hw =>
    rcases c.attempt_precedes i hp hn with ⟨same, hle⟩ | ⟨trace, stopped⟩
    · -- What interrupts this wait of the other call comes later.
      have ahead := (c.under signals).ahead_attemptTrace i s (same ▸ hle)
      rw [← same] at hf hm hw hle
      rcases hp.wait hle i (c.policy.delayAfter i) with ⟨-, -, free⟩ | halted
      · exact absurd (hw.symm.trans free) (by simp)
      · exact ⟨_, .halts hf hm halted,
          ((EndsWith.inWait i ((c.under signals).ahead_retryTrace i hle)).after ahead)⟩
    · exact exists_runs_endsWith stopped
  | @again i s later r hf hm hw _ ih =>
    rcases c.attempt_precedes i hp hn with ⟨same, hle⟩ | ⟨trace, stopped⟩
    · -- Both calls make this attempt; the interruption comes in the wait behind it, or later still.
      have ahead := (c.under signals).ahead_attemptTrace i s (same ▸ hle)
      rw [← same] at hf hm hw hle ih
      have quiet := (c.under signals).ahead_retryTrace i hle
      rcases hp.wait hle i (c.policy.delayAfter i) with ⟨early, through, free⟩ | halted
      · cases hw.symm.trans free
        obtain ⟨r', runs, ends⟩ := ih (Nat.le_of_lt early) ht
        exact ⟨_, .again hf hm through runs, (ends.after quiet).after ahead⟩
      · exact ⟨_, .halts hf hm halted, (EndsWith.inWait i quiet).after ahead⟩
    · exact exists_runs_endsWith stopped

/-! ### The first interruption ends a call -/

theorem attempt_time_le_first? (c : Call) (i : Nat) (s : Surroundings)
    (h : c.signals.first? = some (time, j)) : (c.attempt i s).time ≤ max s.now time := by
  have started := Nat.le_max_left s.now time
  rcases c.attempt_cases i s with ⟨f, -, ha⟩ | ⟨o, name, -, -, ha⟩ | ⟨o, e, -, -, ha⟩
  · rw [ha]
    exact started
  · rw [ha]
    exact started
  · rw [ha]
    show (c.transmit o s).time ≤ _
    unfold transmit
    split
    · exact started
    · exact (c.sending o s).race_time_le_first? _ _ h

theorem wait_le_first? {attempt : Nat} {now delay later : Nanos} {k : Option Interruption}
    (h : signals.first? = some (time, j)) (hw : signals.wait attempt now delay = (later, k)) :
    later ≤ max now time := by
  rw [Signals.wait_of_first? h] at hw
  split at hw
  · cases hw
    exact Nat.le_refl _
  · next inTime =>
    cases hw
    exact Nat.le_trans (Nat.le_of_not_le inTime) (Nat.le_max_right _ _)

/-- **No run goes on behind its first interruption.** -/
theorem Runs.time_le_first? (h : c.Runs i s r) (hf : c.signals.first? = some (time, j)) :
    r.time ≤ max s.now time := by
  induction h with
  | @passes i s f _ => exact c.attempt_time_le_first? i s hf
  | @concludes i s _ _ =>
    rw [CallRecord.after, conclude_time]
    exact c.attempt_time_le_first? i s hf
  | @halts i s later k _ _ hw =>
    show (c.interrupted later ⟨.retrying, i⟩ k).time ≤ _
    rw [interrupted_time]
    exact Nat.le_trans (wait_le_first? hf hw)
      (Nat.max_le.2 ⟨c.attempt_time_le_first? i s hf, Nat.le_max_right _ _⟩)
  | @again i s later r _ _ hw _ ih =>
    have waited : later ≤ max s.now time := Nat.le_trans (wait_le_first? hf hw)
      (Nat.max_le.2 ⟨c.attempt_time_le_first? i s hf, Nat.le_max_right _ _⟩)
    exact Nat.le_trans ih (Nat.max_le.2 ⟨waited, Nat.le_max_right _ _⟩)

end Call

end HttpCourier
