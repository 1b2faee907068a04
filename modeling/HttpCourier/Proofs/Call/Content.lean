import HttpCourier.Proofs.Call.Shape
import HttpCourier.Proofs.Transport.Buffer
import HttpCourier.Proofs.Wire.Carried

/-!
# HttpCourier.Proofs.Call.Content

**The content of a result** is the body of the response that the last attempt has heard, up to the
limit of the settings. In what pieces the body comes does not matter, and neither do the bodies of
responses to earlier attempts: each attempt reads into a buffer of its own
(`Session.execute_content`).
-/

namespace HttpCourier

theorem exists_ok_of_isSome {x : Except ε α} (h : x.toOption.isSome = true) : ∃ a, x = .ok a := by
  cases x with
  | ok a => exact ⟨a, rfl⟩
  | error e => cases h

/-- A response that is no redirect is the end of a request. -/
theorem Client.ending_hops {c : Client} {left : Nat} {script : Script} {jar jar' : Cookie.Jar}
    {now delay : Nanos} {m : Wire.Message} {r : Reply} (next : script.next = ⟨delay, .reply r⟩)
    (whole : wholeFault? r = none)
    (received : Redirect.receive (c.clock (now + delay)) m r jar = .ok jar')
    (direct : Redirect.location? r = none) :
    (c.hops left script jar now m).ending = some (now + delay, .ok r) := by
  have arrived : (c.exchange script.next jar now m).ending =
      some (now + delay, .ok (r, jar')) := by
    unfold exchange
    rw [next]
    dsimp only
    rw [whole]
    dsimp only
    rw [received]
  rw [hops]
  refine Course.ending_andThen_iff.2 ⟨_, _, arrived, ?_⟩
  dsimp only
  rw [direct]
  rfl

namespace Call

variable {c : Call} {i : Nat} {s : Surroundings} {r : Reply} {b : Bytes}

/-- The attempt is answered with the response, behind any redirects that it follows, and the body
comes in, and its stream is closed, without a fault and within the attempt's timeout. -/
def Hears (c : Call) (i : Nat) (s : Surroundings) (r : Reply) (b : Bytes) : Prop :=
  ∃ o e m arrival, Wire.Outgoing.ofSpec c.spec = .ok o ∧ c.startEvent i o = .ok e ∧
    o.toMessage = .ok m ∧ (c.requestsIn s m).ending = some (arrival, .ok r) ∧
    r.Delivers b ((c.client s.now).deadline - arrival)

/-- **An attempt that hears a response** ends with it and with what is kept of its body, unless it
is interrupted. -/
theorem attempt_of_hears (heard : c.Hears i s r b) (plain : r.Plain) :
    (c.attempt i s).value = .ok ⟨r, b.take c.settings.limit⟩ ∨
      ∃ j, c.signals.Hold j ∧ (c.attempt i s).value = .error j.fault := by
  obtain ⟨o, e, m, arrival, built, logged, ready, answered, delivered⟩ := heard
  obtain ⟨t, early, received⟩ := (c.client s.now).receive_of_brings plain delivered
  have sending : (c.sending o s).ending = some (t, .ok ⟨r, b.take c.settings.limit⟩) := by
    unfold sending
    rw [ready]
    exact Course.ending_andThen_iff.2 ⟨arrival, r, answered, received⟩
  have attempted : (c.attempt i s).value = (c.transmit o s).value := by
    unfold attempt
    rw [built]
    dsimp only
    rw [logged]
  rw [attempted]
  unfold transmit
  split
  · next preset =>
    refine .inr ⟨.byCaller, ?_, rfl⟩
    show c.signals.caller.time? ≠ none
    rw [preset]
    exact Option.some_ne_none _
  · unfold Course.race
    dsimp only
    split
    · next interrupted => exact .inr ⟨_, (Signals.interrupt?_some interrupted).2, rfl⟩
    · rw [within_of_lt sending early]
      exact .inl rfl

/-- **The content of a run's result** is that of the response to its last attempt. -/
theorem Runs.content {record : CallRecord} {result : Result} (h : c.Runs 1 s record)
    (returned : record.outcome = .returned result)
    (uncancelled : c.signals.caller.time? = none ∨ result.errorClass ≠ some .cancelled)
    (heard : c.Hears (result.retryAttempts + 1) (c.before 1 s result.retryAttempts) r b)
    (plain : r.Plain) :
    result.TellsOf r ∧ result.content = b.take c.settings.limit := by
  obtain ⟨inside, now, told⟩ := h.result_eq returned
  have kept (held : c.signals.Hold .byCaller) : result ≠
      c.resultOf (result.retryAttempts + 1) now (.error Fault.cancelled) := by
    intro told
    refine uncancelled.elim held fun other => other ?_
    rw [told]
    rfl
  have attempted : (c.nth s (result.retryAttempts + 1)).value = .ok ⟨r, b.take c.settings.limit⟩ ∨
      ∃ j, c.signals.Hold j ∧ (c.nth s (result.retryAttempts + 1)).value = .error j.fault := by
    rw [Nat.add_comm] at heard
    rw [nth_succ]
    exact attempt_of_hears heard plain
  rcases told with told | ⟨held, told⟩
  · rcases attempted with value | ⟨j, held, value⟩
    · rw [value] at told
      rw [told]
      exact ⟨Result.tellsOf_ofReceived _ _ _, rfl⟩
    · rw [value] at told inside
      cases j with
      | byCaller => exact absurd told (kept held)
      | byTask => cases inside
  · exact absurd told (kept held)

end Call

namespace Session

/-- **The content of a result does not depend on how the body came in**, nor on responses to earlier
attempts. A call whose last attempt hears a response without a content coding, and whose caller does
not cancel it, has the first bytes of the body for its content, as many as the settings allow, in
whatever pieces and with whatever pauses they come. -/
theorem execute_content (s : Session) {config : Config} {spec : RequestSpec} (signals : Signals)
    (described : config.spec? s.settings = .ok spec) :
    let c := s.callOf spec signals
    let w : Surroundings := ⟨s.now, s.script, s.jars c.variant⟩
    let outcome := (s.execute config signals).1.outcome
    (signals.task = none → s.script.StatusesFrom 100 → s.script.Avoids .taskCancelled →
      ∃ result, outcome = .returned result) ∧
    ∀ result r b, outcome = .returned result →
      (signals.caller.time? = none ∨ result.errorClass ≠ some .cancelled) →
      c.Hears (result.retryAttempts + 1) (c.before 1 w result.retryAttempts) r b → r.Plain →
      result.TellsOf r ∧ result.content = b.take (min s.settings.limit b.length) := by
  intro c w outcome
  have runs : c.Runs 1 w (s.record config signals) := s.runs_record described signals
  refine ⟨fun quiet statuses faults => ?_, fun result r b returned uncancelled heard plain => ?_⟩
  · refine runs.returned ?_ statuses faults
    show Option.map _ signals.task = none
    rw [quiet]
    rfl
  · rw [← List.take_eq_take_min]
    exact runs.content returned
      (uncancelled.imp_left CancelSignal.time?_startingAt_eq_none_iff.2) heard plain

/-- A response whose body is in three pieces, one of them empty, with a pause in between, and whose
stream takes its time to be closed. -/
def inPieces : Reply :=
  .ofStream 200 none .empty (fun _ =>
    [.bytes (Wire.Fields.asciiName "a"), .bytes [], .pause 5, .bytes (Wire.Fields.asciiName "b")])
    (.ends 2 none)

/-- A transport that is not available at first, and says so in a body. -/
def unavailableOnce : Script :=
  ⟨[⟨0, .reply (.ofWhole 503 none .empty (Wire.Fields.asciiName "later"))⟩], ⟨0, .reply inPieces⟩⟩

theorem unavailableOnce_statusesFrom : unavailableOnce.StatusesFrom 100 := by
  rintro r ⟨x, hx | rfl, hr⟩
  · rw [List.mem_singleton.1 hx] at hr
    cases hr
    decide
  · cases hr
    decide

theorem unavailableOnce_avoids : unavailableOnce.Avoids .taskCancelled := by
  intro x f hx hf
  rcases hx with hx | rfl
  · rw [List.mem_singleton.1 hx] at hf
    exact absurd hf Exchange.not_reports_ofWhole
  · obtain ⟨span, hf⟩ | hf := hf
    · simp [inPieces, Reply.ofStream, Reply.pieces] at hf
    · cases hf

/-- The second attempt of a call hears the body in pieces. -/
theorem hears_unavailableOnce :
    let c := (start .usual unavailableOnce .stopped).callOf impatient .none
    c.Hears 2 (c.before 1 ⟨0, unavailableOnce, []⟩ 1) inPieces (Wire.Fields.asciiName "ab") := by
  intro c
  obtain ⟨o, m, built, ready, known⟩ := Wire.Outgoing.exists_message_of (r := impatient)
    (p := fun o m => (c.startEvent 2 o).toOption.isSome &&
      (Redirect.siteOf (Client.withUrlCredentials m)).toOption.isSome) (by decide +kernel)
  obtain ⟨logged, sited⟩ := Bool.and_eq_true_iff.1 known
  obtain ⟨e, logged⟩ := exists_ok_of_isSome logged
  obtain ⟨site, sited⟩ := exists_ok_of_isSome sited
  obtain ⟨jar, received⟩ : ∃ jar, Redirect.receive ⟨0, 1970⟩ (Client.withUrlCredentials m) inPieces
      (c.before 1 ⟨0, unavailableOnce, []⟩ 1).jar = .ok jar := by
    unfold Redirect.receive
    rw [sited]
    exact ⟨_, rfl⟩
  have used : (c.attempt 1 ⟨0, unavailableOnce, []⟩).trace.sent.length = 1 := by decide +kernel
  have next : (c.before 1 ⟨0, unavailableOnce, []⟩ 1).script.next = ⟨0, .reply inPieces⟩ := by
    show (unavailableOnce.after (c.attempt 1 _).trace.sent.length).next = _
    rw [used]
    rfl
  refine ⟨o, e, m, _, built, logged, ready,
    Client.ending_hops next rfl received (by decide +kernel), 5, 2, ?_, ?_, rfl⟩
  · show 7 < _ + Nanos.ofSeconds 1 - (_ + 0)
    rw [Nat.add_zero, Nat.add_sub_cancel_left]
    decide
  · exact .bytes (Wire.Fields.asciiName "a")
      (.bytes [] (.pause 5 (.bytes (Wire.Fields.asciiName "b") .nil)))

theorem execute_content_unavailableOnce :
    ∃ result, ((start .usual unavailableOnce .stopped).execute (.spec impatient) .none).1.outcome =
        .returned result ∧
      result.retryAttempts = 1 ∧ result.content = Wire.Fields.asciiName "ab" := by
  let c : Call := (start .usual unavailableOnce .stopped).callOf impatient .none
  let w : Surroundings := ⟨0, unavailableOnce, []⟩
  have described : (Config.spec impatient).spec? Settings.usual = .ok impatient := rfl
  obtain ⟨returns, content⟩ :=
    execute_content (start .usual unavailableOnce .stopped) .none described
  obtain ⟨result, returned⟩ := returns rfl unavailableOnce_statusesFrom unavailableOnce_avoids
  have inside : Call.through? (c.attempt 1 w).value = none := by decide +kernel
  have more : AttemptEnd.retries c.policy (c.attempt 1 w).value 1 = true := by decide +kernel
  have inside' : Call.through? (c.attempt 2 (c.before 1 w 1)).value = none := by decide +kernel
  have last : AttemptEnd.retries c.policy (c.attempt 2 (c.before 1 w 1)).value 2 = false := by
    decide +kernel
  have ran : _ = ((start .usual unavailableOnce .stopped).execute (.spec impatient) .none).1 :=
    (Call.Runs.again inside more rfl (.concludes inside' last)).eq_run
  have number : result.retryAttempts = 1 := by
    rw [← ran] at returned
    dsimp only [CallRecord.after] at returned
    rw [Call.conclude_returned returned]
    exact Call.resultOf_retryAttempts _ _ _ _
  have plain : ∀ f ∈ inPieces.textFields, f.1 ≠ Text.ofString "content-encoding" := by
    decide +kernel
  obtain ⟨-, same⟩ := content result inPieces (Wire.Fields.asciiName "ab") returned (.inl rfl)
    (by
      rw [number]
      exact hears_unavailableOnce)
    plain
  refine ⟨result, returned, number, same.trans ?_⟩
  rw [← List.take_eq_take_min]
  exact List.take_of_length_le (by decide +kernel)

end Session

end HttpCourier
