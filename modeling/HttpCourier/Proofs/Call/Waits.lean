import HttpCourier.Proofs.Call.Accounts

/-!
# HttpCourier.Proofs.Call.Waits

**Retries that are counted and never made.** A call counts a retry as it begins to wait for
another attempt, but its result counts the attempts that it has made. A caller who cancels in the
wait ends the call between the two. So the counted retries are those of the results, and one more
for each call that has ended in a wait (`Session.tally_retries`); the two agree just where no
call has (`not_tally_retries` has a history where one does).
-/

namespace HttpCourier

namespace Call

open Measurement (retries)

variable {c : Call} {i : Nat} {s : Surroundings} {r : CallRecord} {result : Result}

/-- How many retries are counted in a trace. -/
def retriesIn (t : Trace) : Nat := (t.measurements.map retries).sum

@[simp] theorem retriesIn_append (t u : Trace) :
    retriesIn (t ++ u) = retriesIn t + retriesIn u := by
  simp [retriesIn]

/-- No retry is counted in an attempt. -/
theorem retriesIn_attemptTrace (c : Call) (i : Nat) (s : Surroundings) :
    retriesIn (c.attemptTrace i s) = 0 := by
  have measured : (c.attemptTrace i s).measurements = (c.attempt i s).trace.measurements :=
    c.measurements_stretchTrace i (c.attempt i s)
  unfold retriesIn
  rw [measured, (c.attempted i s).measures]
  cases c.read? i s <;> rfl

@[simp] theorem retriesIn_retryTrace (c : Call) (i : Nat) (a : Stretch AttemptEnd) :
    retriesIn (c.retryTrace i a) = 1 := by
  simp [retriesIn, retries]

theorem retriesIn_fail (c : Call) (now : Nanos) (p : Progress) (f : Fault) :
    retriesIn (c.fail now p f).trace = 0 := by
  simp [retriesIn, retries]

/-- No retry is counted as an attempt ends a call. -/
theorem retriesIn_conclude {now : Nanos} {e : AttemptEnd}
    (hr : (c.conclude now ⟨.attempting, i⟩ e).outcome = .returned result) :
    retriesIn (c.conclude now ⟨.attempting, i⟩ e).trace = 0 := by
  cases e with
  | error f =>
    rw [conclude_error]
    exact c.retriesIn_fail _ _ _
  | ok x =>
    rw [conclude_ok] at hr ⊢
    unfold finish at hr ⊢
    dsimp only [CallRecord.after] at hr ⊢
    split at hr
    · next coherent =>
      rw [if_pos coherent]
      simp [retriesIn, retries]
    · -- A last state cannot be left, so that a result that is not coherent escapes.
      unfold failIn at hr
      rw [AttemptEnd.move_of_finalState] at hr
      cases hr

/-- **The retries of a run** are those that were made, and one more if the run ends in a wait. -/
theorem Runs.retries (h : c.Runs i s r) (hr : r.outcome = .returned result) :
    ∃ k, r.progress.attempt = i + k ∧ result.retryAttempts = i + k - 1 ∧
      retriesIn r.trace = k +
        if AttemptEnd.retries c.policy (c.ahead i s k).value (i + k) = true then 1 else 0 := by
  induction h with
  | passes _ => cases hr
  | @concludes i s _ last =>
    refine ⟨0, conclude_attempt _ _, ?_, ?_⟩
    · rw [conclude_returned hr]
      exact c.resultOf_retryAttempts _ _ _
    · have here : AttemptEnd.retries c.policy (c.ahead i s 0).value (i + 0) = false := last
      rw [here, CallRecord.after, retriesIn_append, retriesIn_attemptTrace, retriesIn_conclude hr]
      rfl
  | @halts i s time j _ more _ =>
    have here : AttemptEnd.retries c.policy (c.ahead i s 0).value (i + 0) = true := more
    refine ⟨0, interrupted_attempt _ _ _ _, ?_⟩
    rw [here, CallRecord.after, CallRecord.after, retriesIn_append, retriesIn_append,
      retriesIn_attemptTrace, retriesIn_retryTrace]
    cases j with
    | byTask => cases hr
    | byCaller =>
      rw [CallRecord.after, CallRecord.after, interrupted_byCaller] at hr
      cases hr
      rw [interrupted_byCaller, retriesIn_fail]
      exact ⟨rfl, rfl⟩
  | @again i s time r _ _ wait _ ih =>
    obtain ⟨k, number, attempts, counted⟩ := ih hr
    have start := wait_uninterrupted wait
    have shift : i + 1 + k = i + (k + 1) := by omega
    rw [shift] at number attempts counted
    rw [start, ← ahead_succ] at counted
    refine ⟨k + 1, number, attempts, ?_⟩
    rw [CallRecord.after, CallRecord.after, retriesIn_append, retriesIn_append,
      retriesIn_attemptTrace, retriesIn_retryTrace, counted]
    omega

end Call

namespace Session

namespace Turn

/-- The call has ended in the wait behind its last attempt: that attempt led to another one, which
was never made. -/
def endsWaiting (x : Turn) : Bool :=
  match x.config.spec? x.session.settings with
  | .error _ => false
  | .ok spec =>
    let c := x.session.callOf spec x.signals
    let n := x.record.progress.attempt
    AttemptEnd.retries c.policy
      (c.nth ⟨x.session.now, x.session.script, x.session.jars c.variant⟩ n).value n

/-- **The retries of a call** are those that its result tells of, and one more if it has ended in a
wait. -/
theorem retriesIn_record (x : Turn) {result : Result} (hr : x.record.outcome = .returned result) :
    Call.retriesIn x.record.trace =
      result.retryAttempts + if x.endsWaiting = true then 1 else 0 := by
  cases described : x.config.spec? x.session.settings with
  | error stop =>
    have refused : x.record = x.session.record x.config x.signals := rfl
    rw [refused] at hr ⊢
    cases stop with
    | failure f =>
      rw [record_failure described] at hr ⊢
      cases hr
      simp [endsWaiting, described, ConfigFailure.record, Call.retriesIn, Measurement.retries,
        Result.ofError]
    | escape f =>
      rw [record_escape described] at hr
      cases hr
  | ok spec =>
    have made : x.record = (x.session.callOf spec x.signals).run x.session.script
      (x.session.jars (x.session.callOf spec x.signals).variant) := record_eq_run described _
    rw [made] at hr
    obtain ⟨k, number, attempts, counted⟩ := (Call.runs_run _ _ _).retries hr
    rw [Nat.add_comm 1 k, Nat.add_sub_cancel] at attempts
    rw [Nat.add_comm 1 k] at number counted
    rw [← Call.nth_succ] at counted
    have waiting : x.endsWaiting = AttemptEnd.retries (x.session.callOf spec x.signals).policy
        ((x.session.callOf spec x.signals).nth ⟨x.session.now, x.session.script,
          x.session.jars (x.session.callOf spec x.signals).variant⟩ (k + 1)).value (k + 1) := by
      unfold endsWaiting
      rw [described, made, number]
    rw [made, counted, attempts, waiting]
    rfl

/-- The retries of several calls. -/
theorem retriesIn_records {turns : List Turn} {results : List Result}
    (returned : turns.map (fun x => x.record.outcome) = results.map .returned) :
    ((turns.flatMap fun x => x.record.trace.measurements).map Measurement.retries).sum =
      (results.map Result.retryAttempts).sum + turns.countP endsWaiting := by
  induction turns generalizing results with
  | nil =>
    rw [List.map_nil, eq_comm, List.map_eq_nil_iff] at returned
    subst returned
    rfl
  | cons x turns ih =>
    cases results with
    | nil => cases returned
    | cons result results =>
      obtain ⟨first, others⟩ := List.cons.inj returned
      have here : (x.record.trace.measurements.map Measurement.retries).sum = _ :=
        x.retriesIn_record first
      rw [List.flatMap_cons, List.map_append, List.sum_append, here, ih others, List.map_cons,
        List.sum_cons, List.countP_cons]
      omega

end Turn

variable {host : Settings} {script : Script} {clock : Clock} {calls : List (Config × Signals)}
  {results : List Result}

theorem tally_retries_eq
    (returned : ((start host script clock).turns calls).map (fun x => x.record.outcome) =
      results.map .returned) :
    ((start host script clock).afterAll calls).tally.retries =
      (results.map Result.retryAttempts).sum +
        ((start host script clock).turns calls).countP Turn.endsWaiting := by
  rw [tally_afterAll, Tally.retries_addAll, Turn.retriesIn_records returned]
  exact Nat.zero_add _

/-- **The counted retries** of calls one after the other are those that their results tell of, and
one more for each call that has ended in a wait; so the two agree just where no call has. -/
theorem tally_retries (host : Settings) (script : Script) (clock : Clock)
    (calls : List (Config × Signals)) (results : List Result)
    (returned : ((start host script clock).turns calls).map (fun x => x.record.outcome) =
      results.map .returned) :
    ((start host script clock).afterAll calls).tally.retries =
        (results.map Result.retryAttempts).sum +
          ((start host script clock).turns calls).countP Turn.endsWaiting ∧
      (((start host script clock).afterAll calls).tally.retries =
          (results.map Result.retryAttempts).sum ↔
        ∀ x ∈ (start host script clock).turns calls, x.endsWaiting = false) := by
  have counted := tally_retries_eq returned
  refine ⟨counted, ?_⟩
  rw [counted, Nat.add_eq_left, List.countP_eq_zero]
  simp only [Bool.not_eq_true]

/-- A transport that has nothing but a status of unavailability. -/
def unavailable : Script := ⟨[], ⟨0, .reply (.ofWhole 503 none .empty [])⟩⟩

/-- A request that may be sent three times, with a tenth of a second behind the first. -/
def persistent : RequestSpec :=
  { RequestSpec.home with retry := some ⟨3, 100, true, none⟩ }

/-- A call whose caller gives up halfway through the wait behind the first attempt. -/
def givenUp : List (Config × Signals) := [(.spec persistent, ⟨.at (Nanos.ofMillis 50), none⟩)]

/-- The call returns after its only attempt, and has ended in the wait behind it. -/
theorem givenUp_turns : ∃ x result, (start .usual unavailable .stopped).turns givenUp = [x] ∧
    ((start .usual unavailable .stopped).turns givenUp).map (fun x => x.record.outcome) =
      [result].map .returned ∧ result.retryAttempts = 0 ∧ x.endsWaiting = true := by
  let c : Call :=
    (start .usual unavailable .stopped).callOf persistent ⟨.at (Nanos.ofMillis 50), none⟩
  let w : Surroundings := ⟨0, unavailable, []⟩
  have inside : Call.through? (c.attempt 1 w).value = none := by decide +kernel
  have more : AttemptEnd.retries c.policy (c.attempt 1 w).value 1 = true := by decide +kernel
  have wait : c.signals.wait 1 (c.attempt 1 w).time (c.policy.delayAfter 1) =
      (Nanos.ofMillis 50, some .byCaller) := by decide +kernel
  have ran : _ = c.run unavailable [] := (Call.Runs.halts inside more wait).eq_run
  refine ⟨⟨start .usual unavailable .stopped, .spec persistent, ⟨.at (Nanos.ofMillis 50), none⟩⟩,
    c.resultOf 1 (Nanos.ofMillis 50) (.error Fault.cancelled), rfl, ?_, rfl, ?_⟩
  · show [(c.run unavailable []).outcome] = _
    rw [← ran]
    rfl
  · show AttemptEnd.retries c.policy (c.nth w (c.run unavailable []).progress.attempt).value
      (c.run unavailable []).progress.attempt = true
    rw [← ran]
    exact more

/-- The counted retries do not agree with the results of a call that was given up in a wait. -/
theorem not_tally_retries : ¬ ∀ (host : Settings) (script : Script) (clock : Clock)
    (calls : List (Config × Signals)) (results : List Result),
    ((start host script clock).turns calls).map (fun x => x.record.outcome) = results.map .returned →
    ((start host script clock).afterAll calls).tally.retries =
      (results.map Result.retryAttempts).sum := by
  intro h
  obtain ⟨x, result, turns_eq, returned, attempts, waiting⟩ := givenUp_turns
  have agree := h .usual unavailable .stopped givenUp [result] returned
  rw [tally_retries_eq returned, turns_eq, List.countP_singleton, waiting] at agree
  simp at agree

/-- A call that is given up in a wait, for which a retry more is counted than its result has. -/
theorem tally_retries_givenUp : ∃ result,
    ((start .usual unavailable .stopped).turns givenUp).map (fun x => x.record.outcome) =
      [result].map .returned ∧
    ((start .usual unavailable .stopped).afterAll givenUp).tally.retries = 1 ∧
      result.retryAttempts = 0 := by
  obtain ⟨x, result, turns_eq, returned, attempts, waiting⟩ := givenUp_turns
  have counted := (tally_retries .usual unavailable .stopped givenUp [result] returned).1
  rw [turns_eq, List.countP_singleton, waiting] at counted
  refine ⟨result, returned, ?_, attempts⟩
  rw [counted, List.map_singleton, attempts]
  rfl

end Session

end HttpCourier
