import HttpCourier.Call.Session
import HttpCourier.Proofs.Call.Runs
import HttpCourier.Proofs.Json.Digits
import HttpCourier.Proofs.Request.Reading

/-!
# HttpCourier.Proofs.Call.Return

**A call returns.** As long as nobody cancels the task that executes it, no fault goes through
the attempts of a call, whatever the transport does and whenever the caller cancels: each way in
which a run can end makes a result (`Runs.returned`). The class of such a result is never that
of a configuration (`Runs.class_ne_configuration`).

What is left are configurations that describe no request. All but two kinds of them make a result
of that class: a text with an integer literal of too many digits lets a fault through, and so does a
header or query value that cannot be written.
-/

namespace HttpCourier

open Json (Value Members)

namespace Call

variable {c : Call} {i : Nat} {s : Surroundings} {r : CallRecord}

/-! ### No fault goes through -/

/-- A family that neither the script reports nor a client finds comes up in an attempt only by
the attempt's timeout or by an interruption. -/
theorem CanFail.family_ne {s : Script} {f : Fault} {family : FaultFamily} (h : c.CanFail s f)
    (ha : s.Avoids family) (hc : family.isOfClient = false) (hl : family ≠ .attemptTimeout)
    (hi : ∀ i, c.signals.Hold i → i.fault.family ≠ family) : f.family ≠ family := by
  rcases h with h | rfl | ⟨i, h, rfl⟩
  · exact h.family_ne ha hc
  · exact hl.symm
  · exact hi i h

/-- While the task is not cancelled, no attempt ends with a fault that goes through. -/
theorem through?_attempt (ht : c.signals.task = none) (hs : s.script.Avoids .taskCancelled) :
    through? (c.attempt i s).value = none := by
  have held : ∀ j, c.signals.Hold j → j.fault.family ≠ .taskCancelled := by
    intro j hj
    cases j with
    | byCaller => decide
    | byTask => exact absurd ht hj
  cases he : (c.attempt i s).value with
  | ok _ => rfl
  | error f =>
    have hf := ((c.attempt_keeps i s).fault f he).family_ne hs rfl (by decide) held
    exact if_neg hf

theorem status_attempt_ne_zero (hs : s.script.StatusesFrom 100) :
    ∀ r, (c.attempt i s).value = .ok r → r.reply.status ≠ 0 := by
  intro r hr
  have h := hs r.reply ((c.attempt_keeps i s).value r hr)
  omega

/-- **Every run makes a result**, if the task is not cancelled. -/
theorem Runs.returned (h : c.Runs i s r) (ht : c.signals.task = none)
    (statuses : s.script.StatusesFrom 100) (faults : s.script.Avoids .taskCancelled) :
    ∃ result, r.outcome = .returned result := by
  induction h with
  | passes hf =>
    rw [through?_attempt ht faults] at hf
    cases hf
  | concludes _ _ => exact ⟨_, conclude_outcome _ (status_attempt_ne_zero statuses)⟩
  | @halts _ _ _ j _ _ hw =>
    -- Only the task's cancellation goes through a wait, and the signals do not hold it.
    cases j with
    | byCaller => exact ⟨_, rfl⟩
    | byTask => exact absurd ht (Signals.wait_interrupted hw)
  | again _ _ _ _ ih => exact ih (statuses.after _) (faults.after _)

/-! ### The classes of failed calls -/

/-- The text of a transport error gives one of the classes that are for such errors. -/
theorem ofText_cases (t : Text) :
    FailureClass.ofText t = .hostNotFound ∨ FailureClass.ofText t = .connectionRefused ∨
      FailureClass.ofText t = .sslError ∨ FailureClass.ofText t = .connectionError := by
  unfold FailureClass.ofText
  dsimp only
  split
  · next m hm =>
    have hmem := List.mem_of_find?_eq_some hm
    simp only [FailureClass.markers, List.mem_cons, List.not_mem_nil, or_false] at hmem
    rcases hmem with rfl | rfl | rfl <;> decide
  · decide

theorem failureClass_ne_configuration (t : Text) : FailureClass.ofText t ≠ .configuration := by
  rcases ofText_cases t with h | h | h | h <;> rw [h] <;> decide

theorem callClass_ne_configuration (f : Fault) : f.callClass ≠ .configuration := by
  unfold Fault.callClass
  split
  · decide
  · decide
  · decide
  · exact failureClass_ne_configuration _
  · exact failureClass_ne_configuration _
  · exact failureClass_ne_configuration _
  · decide
  · decide

theorem resultOf_class_ne (c : Call) (i : Nat) (now : Nanos) (e : AttemptEnd) :
    (c.resultOf i now e).errorClass ≠ some .configuration := by
  cases e with
  | ok r => exact Option.some_ne_none _ ∘ Eq.symm
  | error f => exact fun h => callClass_ne_configuration f (Option.some.inj h)

/-- The ending of an attempt becomes the result, unless a fault escapes on the way. -/
theorem conclude_returned {now : Nanos} {e : AttemptEnd} {result : Result}
    (h : (c.conclude now ⟨.attempting, i⟩ e).outcome = .returned result) :
    result = c.resultOf i now e := by
  cases e with
  | error f =>
    rw [conclude_error] at h
    cases h
    rfl
  | ok r =>
    rw [conclude_ok] at h
    unfold finish at h
    dsimp only [CallRecord.after] at h
    split at h
    · cases h
      rfl
    · -- A last state cannot be left, so that a result that is not coherent escapes.
      unfold failIn at h
      rw [AttemptEnd.move_of_finalState] at h
      cases h

/-- **No run blames the configuration**, whatever the transport does. -/
theorem Runs.class_ne_configuration (h : c.Runs i s r) {result : Result}
    (hr : r.outcome = .returned result) : result.errorClass ≠ some .configuration := by
  induction h with
  | passes _ => cases hr
  | concludes _ _ =>
    rw [conclude_returned hr]
    exact c.resultOf_class_ne _ _ _
  | @halts _ _ _ j _ _ _ =>
    cases j with
    | byCaller =>
      rw [CallRecord.after, CallRecord.after, interrupted_byCaller, fail_outcome] at hr
      cases hr
      exact c.resultOf_class_ne _ _ _
    | byTask => cases hr
  | again _ _ _ _ ih => exact ih hr

end Call

/-! ### Calls -/

namespace Session

/-- The call of a request description, as a session makes it. -/
def callOf (s : Session) (spec : RequestSpec) (signals : Signals) : Call :=
  ⟨s.settings, spec, signals.startingAt s.now, s.now, s.clock⟩

theorem execute_record (s : Session) (config : Config) (signals : Signals) :
    (s.execute config signals).1 = s.record config signals := rfl

theorem record_eq_run {s : Session} {config : Config} {spec : RequestSpec}
    (h : config.spec? s.settings = .ok spec) (signals : Signals) :
    s.record config signals = (s.callOf spec signals).run s.script
      (s.jars (s.callOf spec signals).variant) := by
  unfold record
  rw [h]
  rfl

/-- **The record of a call** is a run of its attempts. -/
theorem runs_record (s : Session) {config : Config} {spec : RequestSpec}
    (h : config.spec? s.settings = .ok spec) (signals : Signals) :
    (s.callOf spec signals).Runs 1 ⟨s.now, s.script, s.jars (s.callOf spec signals).variant⟩
      (s.record config signals) := by
  rw [record_eq_run h]
  exact Call.runs_run _ _ _

theorem runs_execute (s : Session) (spec : RequestSpec) (signals : Signals) :
    (s.callOf spec signals).Runs 1 ⟨s.now, s.script, s.jars (s.callOf spec signals).variant⟩
      (s.execute (.spec spec) signals).1 := by
  have described : (Config.spec spec).spec? s.settings = .ok spec := rfl
  exact s.runs_record described signals

/-- A configuration that describes no request ends its call at the start. -/
theorem record_time_of_error {s : Session} {config : Config} {stop : ConfigStop}
    (h : config.spec? s.settings = .error stop) (signals : Signals) :
    (s.record config signals).time = s.now := by
  unfold record
  rw [h]
  cases stop <;> rfl

theorem record_failure {s : Session} {config : Config} {f : ConfigFailure}
    (h : config.spec? s.settings = .error (.failure f)) (signals : Signals) :
    s.record config signals = f.record s.now := by
  unfold record
  rw [h]

theorem record_escape {s : Session} {config : Config} {f : Fault}
    (h : config.spec? s.settings = .error (.escape f)) (signals : Signals) :
    (s.record config signals).outcome = .escaped f := by
  unfold record
  rw [h]

end Session

namespace RequestSpec

variable {t : Text} {digits : Nat} {defaults : Document.Defaults}

theorem ofText_of_read {d : Value} (h : Json.readLenient t = .ok d)
    (defaults : Document.Defaults) : ofText t defaults = ofDocument d defaults := by
  unfold ofText
  rw [h]

theorem ofText_overlong (defaults : Document.Defaults)
    (h : Json.readLenient t = .error (.overlongInteger digits)) :
    ofText t defaults = .error (.overlongInteger digits) := by
  unfold ofText
  rw [h]

theorem ofText_unreadable {failure : Json.Failure} (defaults : Document.Defaults)
    (h : Json.readLenient t = .error failure) (hd : ∀ digits, failure ≠ .overlongInteger digits) :
    ∃ f, ofText t defaults = .error (.config f) := by
  unfold ofText
  rw [h]
  cases failure with
  | malformed reason place => exact ⟨_, rfl⟩
  | tooDeep => exact ⟨_, rfl⟩
  | overlongInteger digits => exact absurd rfl (hd digits)

/-- A fault that is not the configuration's, in the text of a document. -/
theorem ofText_error_cases {fault : SpecFault} (h : ofText t defaults = .error fault) :
    (∃ f, fault = .config f) ∨
    (∃ digits, fault = .overlongInteger digits ∧
      Json.readLenient t = .error (.overlongInteger digits)) ∨
    ∃ f members, fault = .unwritable f ∧ Json.readLenient t = .ok (.object members) ∧
      ofMembers members defaults = .error (.unwritable f) := by
  cases read : Json.readLenient t with
  | error failure =>
    by_cases overlong : ∃ digits, failure = .overlongInteger digits
    · obtain ⟨digits, rfl⟩ := overlong
      rw [ofText_overlong defaults read] at h
      exact .inr (.inl ⟨digits, (Except.error.inj h).symm, rfl⟩)
    · obtain ⟨f, hf⟩ := ofText_unreadable defaults read fun digits he => overlong ⟨digits, he⟩
      rw [hf] at h
      exact .inl ⟨f, (Except.error.inj h).symm⟩
  | ok d =>
    rw [ofText_of_read read] at h
    cases d with
    | object members =>
      cases fault with
      | config f => exact .inl ⟨f, rfl⟩
      | overlongInteger digits => exact absurd h (ofMembers_ne_overlong digits)
      | unwritable f => exact .inr (.inr ⟨f, members, rfl, rfl, h⟩)
    | _ =>
      cases h
      exact .inl ⟨_, rfl⟩

end RequestSpec

namespace Config

variable {settings : Settings} {members : Members} {t : Text}

/-- The configuration is an object with these members, decoded or as a text. -/
inductive Has : Config → Members → Prop
  | document (members : Members) : Has (.document members) members
  | text {t : Text} {members : Members} (read : Json.readLenient t = .ok (.object members)) :
      Has (.text t) members

theorem spec?_document {outcome : Except SpecFault RequestSpec}
    (h : RequestSpec.ofMembers members settings.defaults = outcome) :
    (document members).spec? settings = outcome.mapError .ofFault := by
  rw [← h]
  rfl

theorem spec?_text {outcome : Except SpecFault RequestSpec}
    (h : RequestSpec.ofText t settings.defaults = outcome) :
    (text t).spec? settings = outcome.mapError .ofFault := by
  rw [← h]
  rfl

theorem spec?_overlong {digits : Nat} (h : Json.readLenient t = .error (.overlongInteger digits)) :
    (text t).spec? settings = .error (.escape (Fault.overlongInteger digits)) :=
  spec?_text (RequestSpec.ofText_overlong _ h)

theorem Has.spec?_unwritable {config : Config} (has : config.Has members) (settings : Settings)
    (unwritable : Document.Unwritable members) :
    ∃ f, config.spec? settings = .error (.escape (Fault.unwritable f)) := by
  have stops : ∃ f, RequestSpec.ofMembers members settings.defaults = .error (.unwritable f) :=
    RequestSpec.unwritable_iff.2 unwritable
  obtain ⟨f, hf⟩ := stops
  refine ⟨f, ?_⟩
  cases has with
  | document => exact spec?_document hf
  | text read => exact spec?_text ((RequestSpec.ofText_of_read read _).trans hf)

/-- A text that cannot be read for another reason describes no request. -/
theorem spec?_unreadable (settings : Settings) {failure : Json.Failure}
    (h : Json.readLenient t = .error failure) (hd : ∀ digits, failure ≠ .overlongInteger digits) :
    ∃ f, (text t).spec? settings = .error (.failure f) := by
  obtain ⟨f, hf⟩ := RequestSpec.ofText_unreadable settings.defaults h hd
  exact ⟨.ofFault f, spec?_text hf⟩

/-- A configuration lets a fault through only where its text has an overlong integer, or where a
header or query value cannot be written. -/
theorem cases_of_escape {config : Config} {f : Fault}
    (h : config.spec? settings = .error (.escape f)) :
    (∃ t digits, config = .text t ∧ Json.readLenient t = .error (.overlongInteger digits)) ∨
    ∃ members, config.Has members ∧ Document.Unwritable members := by
  cases config with
  | spec r => cases h
  | unsupported kind => cases h
  | document members =>
    obtain ⟨fault, refused, stop⟩ := error_of_mapError h
    cases fault with
    | config f => cases stop
    | overlongInteger digits => exact absurd refused (RequestSpec.ofMembers_ne_overlong digits)
    | unwritable f =>
      exact .inr ⟨members, .document members, RequestSpec.unwritable_iff.1 ⟨f, refused⟩⟩
  | text t =>
    obtain ⟨fault, refused, stop⟩ := error_of_mapError h
    rcases RequestSpec.ofText_error_cases refused with
      ⟨f, rfl⟩ | ⟨digits, -, overlong⟩ | ⟨f, members, -, read, unwritable⟩
    · cases stop
    · exact .inl ⟨t, digits, rfl, overlong⟩
    · exact .inr ⟨members, .text read, RequestSpec.unwritable_iff.1 ⟨f, unwritable⟩⟩

end Config

/-! ### Whole calls -/

/-- The description of a request that has nothing but a target. -/
def RequestSpec.bare (target : Target) : RequestSpec :=
  ⟨target, .usual, .empty, .empty, none, none, usualContentType, .usual, false, true, none, none⟩

/-- A request for the first page of a host. -/
def RequestSpec.home : RequestSpec := bare ⟨"https://h/", by decide, by decide⟩

namespace Script

/-- A transport that refuses the first connection, and has an empty response for any other. -/
def refusingOnce : Script :=
  ⟨[⟨0, .fault (Fault.ofKind "ConnectError" none)⟩], ⟨0, .reply (.ofWhole 200 none .empty [])⟩⟩

theorem refusingOnce_statusesFrom : refusingOnce.StatusesFrom 100 := by
  intro r hr
  obtain ⟨x, hx | rfl, hr⟩ := hr
  · rw [List.mem_singleton.1 hx] at hr
    cases hr
  · cases hr
    decide

theorem refusingOnce_avoids : refusingOnce.Avoids .taskCancelled := by
  intro x f hx hf
  rcases hx with hx | rfl
  · rw [List.mem_singleton.1 hx] at hf
    cases hf
    decide
  · exact absurd hf Exchange.not_reports_ofWhole

end Script

namespace Session

/-- **When a call returns.** The task is not cancelled, the transport answers with statuses of at
least 100, and it does not cancel the task either. Then a call returns a result, with two exceptions.
A text with an overlong integer lets the reader's own fault through, and a document with a header or
query value that cannot be written lets the printer's fault through, if nothing in front of it is
wrong. Every other text that cannot be read makes a result of the class of configurations. -/
theorem execute_returns_iff (s : Session) (config : Config) (caller : CancelSignal)
    (statuses : s.script.StatusesFrom 100) (faults : s.script.Avoids .taskCancelled) :
    ((∃ r, (s.execute config ⟨caller, none⟩).1.outcome = .returned r) ↔
      (¬ ∃ t digits, config = .text t ∧ Json.readLenient t = .error (.overlongInteger digits)) ∧
      ¬ ∃ members, config.Has members ∧ Document.Unwritable members) ∧
    (∀ t digits, config = .text t → Json.readLenient t = .error (.overlongInteger digits) →
      (s.execute config ⟨caller, none⟩).1.outcome = .escaped (Fault.overlongInteger digits)) ∧
    (∀ members, config.Has members → Document.Unwritable members →
      ∃ f, (s.execute config ⟨caller, none⟩).1.outcome = .escaped (Fault.unwritable f)) ∧
    ∀ t failure, config = .text t → Json.readLenient t = .error failure →
      (∀ digits, failure ≠ .overlongInteger digits) →
      ∃ r, (s.execute config ⟨caller, none⟩).1.outcome = .returned r ∧ r.status = 0 ∧
        r.errorClass = some .configuration := by
  rw [execute_record]
  have overlong : ∀ t digits, config = .text t →
      Json.readLenient t = .error (.overlongInteger digits) →
      (s.record config ⟨caller, none⟩).outcome = .escaped (Fault.overlongInteger digits) := by
    intro t digits hc ht
    rw [hc]
    exact record_escape (Config.spec?_overlong ht) _
  have unwritable : ∀ members, config.Has members → Document.Unwritable members →
      ∃ f, (s.record config ⟨caller, none⟩).outcome = .escaped (Fault.unwritable f) := by
    intro members has stops
    obtain ⟨f, hf⟩ := has.spec?_unwritable s.settings stops
    exact ⟨f, record_escape hf _⟩
  refine ⟨⟨?_, ?_⟩, overlong, unwritable, ?_⟩
  · rintro ⟨r, hr⟩
    constructor
    · rintro ⟨t, digits, hc, ht⟩
      rw [overlong t digits hc ht] at hr
      cases hr
    · rintro ⟨members, has, stops⟩
      obtain ⟨f, hf⟩ := unwritable members has stops
      rw [hf] at hr
      cases hr
  · rintro ⟨noOverlong, noUnwritable⟩
    cases hs : config.spec? s.settings with
    | ok spec =>
      rw [record_eq_run hs]
      exact (Call.runs_run _ _ _).returned rfl statuses faults
    | error stop =>
      cases stop with
      | failure f =>
        rw [record_failure hs]
        exact ⟨_, rfl⟩
      | escape f => exact ((Config.cases_of_escape hs).elim noOverlong noUnwritable).elim
  · intro t failure hc ht hd
    obtain ⟨f, hf⟩ := Config.spec?_unreadable s.settings ht hd
    rw [hc, record_failure hf]
    exact ⟨_, rfl, rfl, rfl⟩

/-- A call whose first connection fails, and which the caller cancels in the wait behind it. -/
theorem execute_returns_refusingOnce :
    Script.refusingOnce.StatusesFrom 100 ∧ Script.refusingOnce.Avoids .taskCancelled ∧
    ∃ r, ((start .usual .refusingOnce .stopped).execute
      (.spec (.bare ⟨"http://h/", by decide, by decide⟩)) ⟨.at 5, none⟩).1.outcome =
        .returned r := by
  refine ⟨Script.refusingOnce_statusesFrom, Script.refusingOnce_avoids,
    (execute_returns_iff _ _ _ Script.refusingOnce_statusesFrom
      Script.refusingOnce_avoids).1.2 ⟨?_, ?_⟩⟩
  · rintro ⟨t, digits, h, -⟩
    cases h
  · rintro ⟨members, has, -⟩
    cases has

/-- A text of too many ones, under a transport that never answers. -/
theorem not_execute_returns :
    ¬ ∀ (s : Session) (config : Config) (caller : CancelSignal), s.script.StatusesFrom 100 →
      s.script.Avoids .taskCancelled →
      ∃ r, (s.execute config ⟨caller, none⟩).1.outcome = .returned r := by
  intro h
  have silent : ∀ x, (Script.mk [] ⟨0, .silence⟩).Meets x → x.answer = .silence := by
    intro x hx
    rcases hx with hx | rfl
    · cases hx
    · rfl
  obtain ⟨r, hr⟩ := h (start .usual ⟨[], ⟨0, .silence⟩⟩ .stopped)
    (.text (List.replicate 4301 (CodePoint.ofChar '1'))) .never
    (by
      intro r hr
      obtain ⟨x, hx, hr⟩ := hr
      rw [silent x hx] at hr
      cases hr)
    (by
      intro x f hx hf
      unfold Exchange.Reports at hf
      rw [silent x hx] at hf
      cases hf)
  have long : Json.readLenient (List.replicate 4301 (CodePoint.ofChar '1')) =
      .error (.overlongInteger 4301) := by
    rw [Json.readLenient_of_digits]
    · rw [List.length_replicate]
    · intro c hc
      rw [List.eq_of_mem_replicate hc]
      decide
    · rw [List.head?_replicate]
      decide
    · rw [List.length_replicate]
      decide
  rw [execute_record, record_escape (Config.spec?_overlong long)] at hr
  cases hr

end Session

end HttpCourier
