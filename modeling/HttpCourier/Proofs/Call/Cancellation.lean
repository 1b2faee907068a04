import HttpCourier.Proofs.Call.Interruption

/-!
# HttpCourier.Proofs.Call.Cancellation

**A call that its caller cancels** ends at that very time, wherever it has come, with a result
that says so. A caller who cancels on the way is an interruption of the undisturbed call
(`Runs.cancelled_at`). One who has cancelled beforehand is not: the signal is looked at before a
request goes out, so that none does (`Runs.cancelled_preset`).
-/

namespace HttpCourier

/-- The signal of a caller who cancels some time after the start of the call, and before it for
a time of zero. -/
def CancelSignal.firing (time : Nanos) : CancelSignal := if time = 0 then .preset else .at time

theorem Signals.precedes_none (time : Nanos) :
    Precedes ⟨.at time, Option.none⟩ none time .byCaller :=
  ⟨rfl, CancelSignal.noConfusion, by rintro t i ⟨⟩, fun _ => rfl⟩

namespace Call

/-- The record ends at a time, as that of a call whose caller has cancelled, and no request went
out later. -/
structure StoppedAt (time : Nanos) (r : CallRecord) : Prop where
  time_eq : r.time = time
  result : ∃ result, r.outcome = .returned result ∧ result.status = 0 ∧
    result.errorClass = some .cancelled ∧ result.errorMessage = some Fault.cancelledMessage
  sent : ∀ x ∈ r.trace.sent, x.1 ≤ time

variable {c : Call} {i : Nat} {s : Surroundings} {r : CallRecord} {time : Nanos}

theorem stoppedAt_fail (c : Call) (p : Progress) {trace : Trace} (ahead : trace.Ahead time) :
    StoppedAt time (.after trace (c.fail time p Fault.cancelled)) := by
  refine ⟨rfl, ⟨_, rfl, rfl, rfl, rfl⟩, ?_⟩
  intro x hx
  rw [CallRecord.after, Trace.sent_append, sent_fail, List.append_nil] at hx
  exact ahead.timely _ (Trace.mem_of_mem_sent hx)

theorem EndsWith.stoppedAt (h : c.EndsWith time .byCaller r) : StoppedAt time r := by
  cases h with
  | inAttempt i ahead => exact c.stoppedAt_fail ⟨.cancelled, i⟩ ahead
  | inWait i ahead => exact c.stoppedAt_fail ⟨.cancelled, i⟩ ahead

/-- **A call that is cancelled on its way** ends there. -/
theorem Runs.cancelled_at (h : (c.under .none).Runs i s r) (hn : s.now ≤ time)
    (ht : time < r.time) :
    ∃ r', (c.under ⟨.at time, none⟩).Runs i s r' ∧ StoppedAt time r' := by
  obtain ⟨r', runs, ends⟩ := h.interrupted (Signals.precedes_none time) hn ht
  exact ⟨r', runs, ends.stoppedAt⟩

/-- An attempt of a call that is cancelled beforehand ends at once and sends nothing, unless it
would have had nothing to send anyway. -/
theorem attempt_preset (c : Call) (i : Nat) (s : Surroundings) :
    (∃ f : Fault, f.family = .other ∧
      (c.under .none).attempt i s = ⟨[], s.now, .error f⟩) ∨
    ∃ e, (c.under ⟨.preset, none⟩).attempt i s =
      ⟨Trace.logging s.now [e], s.now, .error Fault.cancelled⟩ := by
  rcases c.attempt_under i s with ⟨f, hf, h⟩ | ⟨o, e, h⟩
  · exact .inl ⟨f, hf, h _⟩
  · rw [h ⟨.preset, none⟩]
    exact .inr ⟨e, rfl⟩

/-- A call that is cancelled beforehand ends where it starts, and nothing goes out. -/
theorem Runs.cancelled_preset (h : (c.under .none).Runs i s r) (ht : s.now < r.time) :
    ∃ r', (c.under ⟨.preset, none⟩).Runs i s r' ∧ StoppedAt s.now r' ∧ r'.trace.sent = [] := by
  rcases c.attempt_preset i s with ⟨f, hf, he⟩ | ⟨e, he⟩
  · -- A request that cannot be built ends the undisturbed call at once, too.
    refine absurd ht (Nat.not_lt.2 ?_)
    cases h with
    | passes _ =>
      show ((c.under .none).attempt i s).time ≤ s.now
      rw [he]
    | concludes _ _ => rw [CallRecord.after, conclude_time, he]
    | halts _ _ hw => cases hw
    | again _ hm _ _ =>
      rw [he] at hm
      have lasting : f.isTransient = false := by rw [Fault.isTransient, hf]; rfl
      change (_ && f.isTransient) = true at hm
      rw [lasting, Bool.and_false] at hm
      cases hm
  · have ended : ((c.under ⟨.preset, none⟩).attempt i s).time ≤ s.now := by rw [he]
    have ahead := (c.under ⟨.preset, none⟩).ahead_attemptTrace i s ended
    refine ⟨_, runs_of_interrupted (j := .byCaller) he, (EndsWith.inAttempt i ahead).stoppedAt, ?_⟩
    rw [CallRecord.after, Trace.sent_append, sent_attemptTrace, he, Trace.sent_logging]
    exact (c.under ⟨.preset, none⟩).sent_fail s.now ⟨.cancelled, i⟩ Fault.cancelled

end Call

namespace Session

/-- **A call that is cancelled returns at that time.** If the signal comes before the call would
have ended without it, the call ends at that very time with a result that says so; nothing goes
out later, and nothing at all if the caller has cancelled beforehand. -/
theorem execute_cancelled (s : Session) (config : Config) (d : Nanos)
    (early : s.now + d < (s.execute config .none).1.time) :
    let r := (s.execute config ⟨.firing d, none⟩).1
    r.time = s.now + d ∧
    (∃ result, r.outcome = .returned result ∧ result.status = 0 ∧
      result.errorClass = some .cancelled ∧
      result.errorMessage = some "Request was cancelled") ∧
    (∀ x ∈ r.trace.sent, x.1 ≤ s.now + d) ∧ (d = 0 → r.trace.sent = []) := by
  rw [execute_record] at early
  dsimp only
  rw [execute_record]
  cases hs : config.spec? s.settings with
  | error stop =>
    rw [record_time_of_error hs] at early
    exact absurd early (Nat.not_lt.2 (Nat.le_add_right _ _))
  | ok spec =>
    rw [record_eq_run hs] at early
    rw [record_eq_run hs]
    have free := Call.runs_run (s.callOf spec .none) s.script (s.jars (s.callOf spec .none).variant)
    by_cases hd : d = 0
    · subst hd
      obtain ⟨r, hr, hstop, hsent⟩ :=
        Call.Runs.cancelled_preset (c := s.callOf spec .none) free early
      have heq : r = (s.callOf spec ⟨.firing 0, none⟩).run s.script
        (s.jars (s.callOf spec ⟨.firing 0, none⟩).variant) := hr.eq_run
      rw [← heq]
      exact ⟨hstop.time_eq, hstop.result, hstop.sent, fun _ => hsent⟩
    · have fired : CancelSignal.firing d = .at d := if_neg hd
      obtain ⟨r, hr, hstop⟩ := Call.Runs.cancelled_at (c := s.callOf spec .none) free
        (Nat.le_add_right _ d) early
      have heq : r = (s.callOf spec ⟨.at d, none⟩).run s.script
        (s.jars (s.callOf spec ⟨.at d, none⟩).variant) := hr.eq_run
      rw [fired, ← heq]
      exact ⟨hstop.time_eq, hstop.result, hstop.sent, fun h => absurd h hd⟩

/-- A call that is cancelled while it waits for a response that never comes. -/
theorem execute_cancelled_unanswered :
    0 + 5 < ((start .usual ⟨[], ⟨0, .silence⟩⟩ .stopped).execute
      (.spec (.bare ⟨"http://h/", by decide, by decide⟩)) .none).1.time ∧
    ((start .usual ⟨[], ⟨0, .silence⟩⟩ .stopped).execute
      (.spec (.bare ⟨"http://h/", by decide, by decide⟩)) ⟨.firing 5, none⟩).1.time = 0 + 5 := by
  have early : 0 + 5 < ((start .usual ⟨[], ⟨0, .silence⟩⟩ .stopped).execute
      (.spec (.bare ⟨"http://h/", by decide, by decide⟩)) .none).1.time := by
    rw [execute_record, record_eq_run rfl, Call.run, Call.attemptsFrom_eq Progress.ready_start]
    decide +kernel
  exact ⟨early, (execute_cancelled _ _ 5 early).1⟩

end Session

end HttpCourier
