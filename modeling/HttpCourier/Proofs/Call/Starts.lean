import HttpCourier.Proofs.Call.Extent
import HttpCourier.Proofs.Computation

/-!
# HttpCourier.Proofs.Call.Starts

**The events of requests that are about to be sent.** A call logs one for each of its attempts, if
its request can be built and listed, and none in between (`Runs.starts_eq`). What such an event
says does not depend on the transport, on the signals or on the time: it is that of the request and
of the number of the attempt (`Call.starting?`).
-/

namespace HttpCourier

/-- The event tells of a request that is about to be sent. -/
def Log.Event.isStart (e : Log.Event) : Bool := e.name = "http_request_start"

namespace Trace

/-- The events of requests that are about to be sent. -/
def starts (t : Trace) : List Log.Event := t.events.filter Log.Event.isStart

@[simp] theorem starts_append (t u : Trace) : (t ++ u).starts = t.starts ++ u.starts := by
  unfold starts events
  rw [List.filterMap_append, List.filter_append]

@[simp] theorem starts_logging (time : Nanos) (events : List Log.Event) :
    (logging time events).starts = events.filter Log.Event.isStart := by
  unfold starts Trace.events logging
  rw [List.filterMap_map]
  exact congrArg _ List.filterMap_some

theorem starts_eq_nil {t : Trace}
    (h : ∀ m ∈ t, ∀ e, m.effect = .logged e → e.isStart = false) : t.starts = [] := by
  refine List.filter_eq_nil_iff.2 fun e he => ?_
  obtain ⟨⟨time, effect⟩, hm, hx⟩ := List.mem_filterMap.1 he
  cases effect with
  | logged e' =>
    cases hx
    rw [h _ hm e rfl]
    exact Bool.false_ne_true
  | _ => cases hx

@[simp] theorem starts_measuring (time : Nanos) (measurements : List Measurement) :
    (measuring time measurements).starts = [] := by
  refine starts_eq_nil fun m hm e he => ?_
  obtain ⟨_, -, rfl⟩ := List.mem_map.1 hm
  cases he

end Trace

/-! ### Between the starts -/

theorem Client.OfRequest.not_isStart {c : Client} {effect : Effect} {e : Log.Event}
    (h : c.OfRequest effect) (he : effect = .logged e) : e.isStart = false := by
  cases h with
  | exchange h => cases h <;> cases he
  | truncated r =>
    cases he
    rfl
  | measured m => cases he

namespace Call

variable {c : Call} {i : Nat} {s : Surroundings} {r : CallRecord}

/-- While a request is under way, no other one starts. -/
theorem transmit_starts (c : Call) (o : Wire.Outgoing) (s : Surroundings) :
    (c.transmit o s).trace.starts = [] := by
  unfold transmit
  split
  · rfl
  · obtain ⟨kept, trace_eq⟩ :=
      (c.sending o s).race_trace s.now (c.client s.now).deadline c.late c.signals
    rw [trace_eq]
    refine Trace.starts_eq_nil fun m hm e he => ?_
    have sent := (List.mem_filter.1 hm).1
    unfold sending at sent
    split at sent
    · cases sent
    · exact (Client.send_does _ _ _ _ _ m sent).not_isStart he

@[simp] theorem starts_endEvents (c : Call) (i : Nat) (now : Nanos) (e : AttemptEnd) :
    (c.endEvents i now e).filter Log.Event.isStart = [] := by
  unfold endEvents
  split
  · rfl
  · split <;> rfl

@[simp] theorem starts_retryTrace (c : Call) (i : Nat) (a : Stretch AttemptEnd) :
    (c.retryTrace i a).starts = [] := by
  unfold retryTrace
  rw [Trace.starts_append, Trace.starts_logging, Trace.starts_measuring]
  rfl

@[simp] theorem starts_fail (c : Call) (now : Nanos) (p : Progress) (f : Fault) :
    (c.fail now p f).trace.starts = [] := by
  have told : (c.failureEvent p.attempt f p.retries).isStart = false := by
    unfold failureEvent
    split <;> rfl
  simp [fail, told]

@[simp] theorem starts_failIn (c : Call) (now : Nanos) (p : Progress) (state : AttemptState)
    (f : Fault) : (c.failIn now p state f).trace.starts = [] := by
  unfold failIn
  split
  · rfl
  · exact c.starts_fail _ _ _

@[simp] theorem starts_exhaustedEvents (c : Call) (i : Nat) (r : Received) :
    (c.exhaustedEvents i r).filter Log.Event.isStart = [] := by
  unfold exhaustedEvents
  split <;> rfl

theorem starts_finish (c : Call) (now : Nanos) (p : Progress) (r : Received) :
    (c.finish now p r).trace.starts = [] := by
  have unexpected : [c.unexpectedEvent p.attempt].filter Log.Event.isStart = [] := rfl
  unfold finish
  dsimp only [CallRecord.after]
  split <;> simp [unexpected]

theorem starts_conclude (c : Call) (now : Nanos) (p : Progress) (e : AttemptEnd) :
    (c.conclude now p e).trace.starts = [] := by
  unfold conclude
  split
  · exact c.starts_failIn _ _ _ _
  · split
    · rfl
    · exact c.starts_finish _ _ _

theorem starts_interrupted (c : Call) (now : Nanos) (p : Progress) (j : Interruption) :
    (c.interrupted now p j).trace.starts = [] := by
  cases j with
  | byTask => rfl
  | byCaller => exact c.starts_failIn _ _ _ _

/-- No request starts behind the last attempt. -/
theorem Leaves.starts_eq {a : Stretch AttemptEnd} {ending : CallRecord} (h : c.Leaves i a ending) :
    ending.trace.starts = [] := by
  cases h with
  | passes _ => rfl
  | concludes _ _ => exact c.starts_conclude _ _ _
  | halts _ _ _ =>
    rw [CallRecord.after, Trace.starts_append, starts_retryTrace, starts_interrupted]
    rfl

/-! ### Runs -/

/-- What the call logs as it starts its attempt of the given number. -/
def starting? (c : Call) (i : Nat) : Option Log.Event :=
  (Wire.Outgoing.ofSpec c.spec).toOption.bind fun o => (c.startEvent i o).toOption

theorem startEvent_isStart {o : Wire.Outgoing} {e : Log.Event} (h : c.startEvent i o = .ok e) :
    e.isStart = true := by
  unfold startEvent at h
  split at h
  · obtain ⟨items, -, rfl⟩ := ok_of_map h
    rfl
  · cases h
    rfl

/-- **An attempt logs its own start**, and no other one. -/
theorem starts_attemptTrace (c : Call) (i : Nat) (s : Surroundings) :
    (c.attemptTrace i s).starts = (c.starting? i).toList := by
  unfold attemptTrace starting?
  rw [Trace.starts_append, Trace.starts_logging, starts_endEvents, List.append_nil]
  rcases c.attempt_cases i s with ⟨f, built, h⟩ | ⟨o, name, built, hs, h⟩ | ⟨o, e, built, hs, h⟩
  · rw [h, built]
    rfl
  · rw [h, built]
    show [] = (c.startEvent i o).toOption.toList
    rw [hs]
    rfl
  · rw [h, built, Trace.starts_append, Trace.starts_logging, transmit_starts, List.append_nil]
    show _ = (c.startEvent i o).toOption.toList
    rw [hs, List.filter_cons_of_pos (startEvent_isStart hs)]
    rfl

/-- **The starts of a run** are those of its attempts, one after the other. -/
theorem Runs.starts_eq (h : c.Runs 1 s r) :
    r.trace.starts = (List.range r.progress.attempt).filterMap fun k => c.starting? (k + 1) := by
  obtain ⟨k, ending, -, leaves, rfl⟩ := h.exists_leaves
  show (c.traceAhead 1 s k ++ ending.trace).starts =
    (List.range ending.progress.attempt).filterMap fun k => c.starting? (k + 1)
  rw [Trace.starts_append, leaves.starts_eq, List.append_nil, leaves.attempt_eq,
    c.view_traceAhead Trace.starts_append c.starts_retryTrace, Nat.add_comm 1 k,
    List.filterMap_eq_flatMap_toList]
  simp only [starts_attemptTrace, Nat.add_comm 1]

end Call

end HttpCourier
