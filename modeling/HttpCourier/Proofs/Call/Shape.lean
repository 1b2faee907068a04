import HttpCourier.Proofs.Call.Extent

/-!
# HttpCourier.Proofs.Call.Shape

**The two shapes of a result.** Calls end in several places, and each of them puts a result
together. What comes of that tells either of a response (`Result.TellsOf`) or of an error
(`Result.IsError`), and never of both. A result of the first kind is about the last attempt, and
the retries that it counts are those of the call.

An error has a message that is not empty, although it may come from a fault that has no text: then
it has the name of the fault's kind.
-/

namespace HttpCourier

/-! ### Messages -/

namespace Text

theorem ofString_ne_nil {s : String} (h : s ≠ "") : ofString s ≠ [] := by
  unfold ofString
  rw [ne_eq, List.map_eq_nil_iff, String.toList_eq_nil_iff]
  exact h

theorem ofString_append_ne_nil {s : String} (t : Text) (h : s ≠ "") : ofString s ++ t ≠ [] :=
  List.append_ne_nil_of_left_ne_nil (ofString_ne_nil h) t

end Text

namespace Fault

theorem friendlyMessage_ne_nil {f : Fault} (named : f.kind ≠ "") : f.friendlyMessage ≠ [] := by
  have worded : (if f.text = [] then Text.ofString f.kind else f.text) ≠ [] := by
    split
    · exact Text.ofString_ne_nil named
    · assumption
  unfold friendlyMessage
  dsimp only
  split
  · exact Text.ofString_append_ne_nil _ (by decide)
  · exact Text.ofString_ne_nil (by decide)
  · rw [List.append_assoc]
    exact Text.ofString_append_ne_nil _ (by decide)
  · exact worded

/-- **The message about a fault** says something. -/
theorem callMessage_ne_nil {f : Fault} (named : f.kind ≠ "") (timeoutSeconds : Nat) :
    f.callMessage timeoutSeconds ≠ [] := by
  unfold callMessage
  split
  · exact Text.ofString_ne_nil (by decide)
  · rw [List.append_assoc]
    exact Text.ofString_append_ne_nil _ (by decide)
  · rw [List.append_assoc]
    exact Text.ofString_append_ne_nil _ (by decide)
  · exact friendlyMessage_ne_nil named
  · exact friendlyMessage_ne_nil named
  · exact friendlyMessage_ne_nil named
  · exact Text.ofString_append_ne_nil _ (by decide)
  · exact Text.ofString_append_ne_nil _ (by decide)

end Fault

theorem ConfigFault.message_ne_nil (f : ConfigFault) : f.message ≠ [] := by
  cases f <;> simp only [message, List.append_assoc]
  case nestedTooDeep | notAnObject | noUrl => exact Text.ofString_ne_nil (by decide)
  all_goals exact Text.ofString_append_ne_nil _ (by decide)

/-- A configuration that describes no request is refused with a message. -/
theorem Config.failure_message_ne_nil {settings : Settings} {config : Config} {f : ConfigFailure}
    (h : config.spec? settings = .error (.failure f)) : f.message ≠ [] := by
  have told {outcome : Except SpecFault RequestSpec}
      (h : outcome.mapError ConfigStop.ofFault = .error (.failure f)) : f.message ≠ [] := by
    obtain ⟨fault, -, stop⟩ := error_of_mapError h
    cases fault with
    | config fault =>
      cases stop
      exact fault.message_ne_nil
    | overlongInteger digits => cases stop
    | unwritable fault => cases stop
  cases config with
  | spec r => cases h
  | unsupported kind =>
    cases h
    refine Text.ofString_ne_nil ?_
    simp
  | document members => exact told h
  | text t => exact told h

/-! ### Shapes -/

namespace Result

/-- The result is that of a call which ended with a response. -/
structure TellsOf (r : Result) (reply : Reply) : Prop where
  status : r.status = reply.status
  success : r.isSuccess = true ↔ 200 ≤ reply.status ∧ reply.status < 300
  message : r.errorMessage = none
  unclassified : r.errorClass = none
  fault : r.fault = none

/-- The result is that of a call which ended without a response. -/
structure IsError (r : Result) : Prop where
  status : r.status = 0
  success : r.isSuccess = false
  message : ∃ t, r.errorMessage = some t ∧ t ≠ []
  classified : ∃ k, r.errorClass = some k
  fault : ∃ f, r.fault = some f
  content : r.content = []
  headers : r.headers = []
  contentHeaders : r.contentHeaders = []

theorem TellsOf.not_isError {r : Result} {reply : Reply} (h : r.TellsOf reply) : ¬ r.IsError := by
  intro error
  obtain ⟨k, classified⟩ := error.classified
  rw [h.unclassified] at classified
  cases classified

theorem tellsOf_ofReceived (r : Received) (elapsed : Binary64) (retries : Nat) :
    (ofReceived r elapsed retries).TellsOf r.reply :=
  ⟨rfl, isSuccessStatus_iff, rfl, rfl, rfl⟩

theorem isError_ofError {message : Text} (h : message ≠ []) (failureClass : FailureClass)
    (fault : Fault) (elapsed : Binary64) (retries : Nat) :
    (ofError message failureClass (some fault) elapsed retries).IsError :=
  ⟨rfl, rfl, ⟨message, rfl, h⟩, ⟨_, rfl⟩, ⟨_, rfl⟩, rfl, rfl, rfl⟩

end Result

namespace Call

variable {c : Call} {i : Nat} {s : Surroundings} {r : CallRecord} {result : Result}

theorem CanFail.kind_ne {script : Script} {f : Fault} (h : c.CanFail script f)
    (named : script.Named) : f.kind ≠ "" := by
  rcases h with h | rfl | ⟨j, -, rfl⟩
  · exact h.kind_ne named
  · show "AttemptTimeoutError" ≠ ""
    decide
  · cases j <;> decide

theorem named_before (h : s.script.Named) (k : Nat) : (c.before i s k).script.Named := by
  induction k generalizing i s with
  | zero => exact h
  | succ k ih => exact ih (h.after _)

/-- The result of an ending has one of the two shapes. -/
theorem resultOf_shape (c : Call) (i : Nat) (now : Nanos) {e : AttemptEnd}
    (named : ∀ f, e = .error f → f.kind ≠ "") :
    (∃ received, e = .ok received ∧ (c.resultOf i now e).TellsOf received.reply) ∨
      (c.resultOf i now e).IsError := by
  cases e with
  | ok received => exact .inl ⟨received, rfl, Result.tellsOf_ofReceived _ _ _⟩
  | error f => exact .inr (Result.isError_ofError (Fault.callMessage_ne_nil (named f rfl) _) _ _ _ _)

/-- A run that returns has the result of its last attempt, or of a cancellation by the caller. -/
theorem Leaves.result_eq {a : Stretch AttemptEnd} {ending : CallRecord} (h : c.Leaves i a ending)
    (returned : ending.outcome = .returned result) :
    through? a.value = none ∧ ∃ now, result = c.resultOf i now a.value ∨
      c.signals.Hold .byCaller ∧ result = c.resultOf i now (.error Fault.cancelled) := by
  cases h with
  | passes _ => cases returned
  | concludes inside _ => exact ⟨inside, _, .inl (conclude_returned returned)⟩
  | @halts time j inside _ wait =>
    cases j with
    | byCaller =>
      rw [CallRecord.after, interrupted_byCaller, fail_outcome] at returned
      cases returned
      exact ⟨inside, _, .inr ⟨Signals.wait_interrupted wait, rfl⟩⟩
    | byTask => cases returned

/-- The result of a run is that of its last attempt, or of a cancellation by the caller. -/
theorem Runs.result_eq (h : c.Runs 1 s r) (returned : r.outcome = .returned result) :
    through? (c.nth s (result.retryAttempts + 1)).value = none ∧ ∃ now,
      result = c.resultOf (result.retryAttempts + 1) now
        (c.nth s (result.retryAttempts + 1)).value ∨
      c.signals.Hold .byCaller ∧
        result = c.resultOf (result.retryAttempts + 1) now (.error Fault.cancelled) := by
  obtain ⟨k, ending, -, leaves, rfl⟩ := h.exists_leaves
  obtain ⟨inside, now, told⟩ := leaves.result_eq returned
  have number : result.retryAttempts = k := by
    rcases told with rfl | ⟨-, rfl⟩ <;> rw [resultOf_retryAttempts, Nat.add_sub_cancel_left]
  rw [number, nth_succ, Nat.add_comm k 1]
  exact ⟨inside, now, told⟩

/-- **The result of a run.** -/
theorem Runs.shape (h : c.Runs 1 s r) (named : s.script.Named)
    (returned : r.outcome = .returned result) :
    ((∃ received, (c.nth s (result.retryAttempts + 1)).value = .ok received ∧
        result.TellsOf received.reply) ∨ result.IsError) ∧
      result.retryAttempts + 1 = r.progress.attempt := by
  obtain ⟨k, ending, -, leaves, rfl⟩ := h.exists_leaves
  have number : (CallRecord.after (c.traceAhead 1 s k) ending).progress.attempt = 1 + k :=
    leaves.attempt_eq
  have last : c.nth s (k + 1) = c.ahead 1 s k := nth_succ c s k
  obtain ⟨-, now, rfl | ⟨-, rfl⟩⟩ := leaves.result_eq returned
  · rw [number, resultOf_retryAttempts, Nat.add_sub_cancel_left, last]
    refine ⟨c.resultOf_shape _ _ ?_, Nat.add_comm _ _⟩
    intro f hf
    exact ((c.attempt_keeps _ _).fault f hf).kind_ne (named_before named k)
  · rw [number, resultOf_retryAttempts, Nat.add_sub_cancel_left]
    refine ⟨.inr (Result.isError_ofError ?_ _ _ _ _), Nat.add_comm _ _⟩
    exact Fault.callMessage_ne_nil (by decide) _

end Call

/-! ### Whole calls -/

theorem Script.refusingOnce_named : refusingOnce.Named := by
  intro x f hx hf
  rcases hx with hx | rfl
  · rw [List.mem_singleton.1 hx] at hf
    cases hf
    decide
  · exact absurd hf Exchange.not_reports_ofWhole

namespace Session

/-- **A result has one of two shapes**, however its call ends: it tells of the response to the last
attempt, or it is an error. It counts the retries of the call, and there are no more of them than
are allowed; a configuration that describes no request has none. -/
theorem execute_shape (s : Session) (config : Config) (signals : Signals)
    (named : s.script.Named) {result : Result}
    (returned : (s.execute config signals).1.outcome = .returned result) :
    Xor (∃ spec received, config.spec? s.settings = .ok spec ∧
        ((s.callOf spec signals).nth ⟨s.now, s.script, s.jars (s.callOf spec signals).variant⟩
          (result.retryAttempts + 1)).value = .ok received ∧
        result.TellsOf received.reply) result.IsError ∧
    (result.errorClass = some .configuration → result.retryAttempts = 0) ∧
    (result.errorClass ≠ some .configuration → ∃ spec, config.spec? s.settings = .ok spec ∧
      result.retryAttempts + 1 = (s.execute config signals).1.progress.attempt ∧
      result.retryAttempts ≤ (s.callOf spec signals).allowedAttempts - 1) := by
  rw [execute_record] at returned ⊢
  cases described : config.spec? s.settings with
  | ok spec =>
    have runs := s.runs_record described signals
    obtain ⟨shape, number⟩ := runs.shape named returned
    obtain ⟨n, goes⟩ := runs.extends
    have allowed := goes.allowed
    rw [← goes.number, ← number] at allowed
    refine ⟨?_, fun h => absurd h (runs.class_ne_configuration returned), fun _ =>
      ⟨spec, rfl, number, Nat.le_sub_of_add_le allowed⟩⟩
    rcases shape with ⟨received, last, tells⟩ | error
    · exact .inl ⟨⟨spec, received, rfl, last, tells⟩, tells.not_isError⟩
    · refine .inr ⟨error, ?_⟩
      rintro ⟨_, _, _, _, tells⟩
      exact tells.not_isError error
  | error stop =>
    cases stop with
    | failure f =>
      rw [record_failure described] at returned ⊢
      cases returned
      refine ⟨.inr ⟨Result.isError_ofError (Config.failure_message_ne_nil described) _ _ _ _, ?_⟩,
        fun _ => rfl, fun h => absurd rfl h⟩
      rintro ⟨_, _, h, -, -⟩
      cases h
    | escape f =>
      rw [record_escape described] at returned
      cases returned

/-- A call whose first connection fails. -/
theorem execute_shape_refusingOnce :
    ∃ result, Script.refusingOnce.Named ∧
      ((start .usual .refusingOnce .stopped).execute (.spec .home) .none).1.outcome =
        .returned result ∧
      result.retryAttempts ≤
        ((start .usual .refusingOnce .stopped).callOf .home .none).allowedAttempts - 1 := by
  have runs := (start .usual .refusingOnce .stopped).runs_execute .home .none
  obtain ⟨result, returned⟩ := runs.returned rfl
    Script.refusingOnce_statusesFrom Script.refusingOnce_avoids
  refine ⟨result, Script.refusingOnce_named, returned, ?_⟩
  obtain ⟨-, unmade, made⟩ := execute_shape _ _ _ Script.refusingOnce_named returned
  by_cases h : result.errorClass = some .configuration
  · rw [unmade h]
    exact Nat.zero_le _
  · obtain ⟨spec, hs, -, allowed⟩ := made h
    cases hs
    exact allowed

end Session

end HttpCourier
