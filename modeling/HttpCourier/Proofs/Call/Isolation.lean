import HttpCourier.Proofs.Call.Accounts
import HttpCourier.Proofs.Transport.Alike

/-!
# HttpCourier.Proofs.Call.Isolation

**What a call has from the calls before it.** A session hands on the time, what the transport has
still to answer, and the cookies of the four clients. At another time a call does the same, only
later (`Call.later`): its deadlines and its signals move with it. So what is left are the cookies,
and these are seen only by a client that has some and meets a redirect
(`Session.execute_isolated`). Such a client does attach the cookies of earlier calls, though
(`Session.not_execute_isolated`).
-/

namespace HttpCourier

/-! ### Signals -/

theorem CancelSignal.startingAt_eq_preset_iff {s : CancelSignal} {d : Nanos} :
    s.startingAt d = preset ↔ s = preset := by
  cases s <;> simp [startingAt]

/-- A caller who has cancelled beforehand has done so at any time; any other signal moves. -/
theorem CancelSignal.time?_startingAt {s : CancelSignal} (h : s ≠ preset) (d : Nanos) :
    (s.startingAt d).time? = s.time?.map (d + ·) := by
  cases s with
  | preset => exact absurd rfl h
  | absent => rfl
  | never => rfl
  | «at» time => rfl

theorem TaskSignal.time?_startingAt (s : TaskSignal) (d : Nanos) :
    (s.startingAt d).time? = s.time?.map (d + ·) := by
  cases s <;> rfl

namespace Signals

variable {s : Signals}

theorem startingAt_add (s : Signals) (d start : Nanos) :
    s.startingAt (d + start) = (s.startingAt start).startingAt d := by
  have caller (c : CancelSignal) :
      c.startingAt (d + start) = (c.startingAt start).startingAt d := by
    cases c <;> simp [CancelSignal.startingAt, Nat.add_assoc]
  have task : TaskSignal.startingAt (d + start) =
      TaskSignal.startingAt d ∘ TaskSignal.startingAt start := by
    funext t
    cases t <;> simp [TaskSignal.startingAt, Nat.add_assoc]
  simp [startingAt, caller, task]

theorem first?_startingAt (h : s.caller ≠ .preset) (d : Nanos) :
    (s.startingAt d).first? = s.first?.map fun x => (d + x.1, x.2) := by
  have caller : (s.startingAt d).caller.time? = s.caller.time?.map (d + ·) :=
    CancelSignal.time?_startingAt h d
  have task : (s.startingAt d).task.bind TaskSignal.time? =
      (s.task.bind TaskSignal.time?).map (d + ·) := by
    cases ht : s.task <;> simp [startingAt, ht, TaskSignal.time?_startingAt]
  unfold first?
  rw [caller, task]
  cases s.caller.time? with
  | none => cases s.task.bind TaskSignal.time? <;> rfl
  | some c =>
    cases s.task.bind TaskSignal.time? with
    | none => rfl
    | some t => by_cases first : t ≤ c <;> simp [first]

theorem interrupt?_startingAt (h : s.caller ≠ .preset) (d now ending : Nanos) :
    (s.startingAt d).interrupt? (d + now) (d + ending) =
      (s.interrupt? now ending).map fun x => (d + x.1, x.2) := by
  unfold interrupt?
  rw [first?_startingAt h]
  cases s.first? with
  | none => rfl
  | some x =>
    by_cases early : x.1 ≤ ending <;> simp [early, Nat.add_max_add_left]

/-- What comes behind a timer comes behind it at any time. -/
theorem haltsBehind_startingAt (s : Signals) (d : Nanos) (attempt : Nat) :
    (s.startingAt d).haltsBehind attempt = s.haltsBehind attempt := by
  obtain ⟨caller, task⟩ := s
  have behind (t : TaskSignal) :
      t.startingAt d = .behindTimer attempt ↔ t = .behindTimer attempt := by
    cases t <;> simp [TaskSignal.startingAt]
  cases task <;> simp [haltsBehind, startingAt, CancelSignal.startingAt_eq_absent_iff, behind]

theorem wait_startingAt (h : s.caller ≠ .preset) (d : Nanos) (attempt : Nat) (now delay : Nanos) :
    (s.startingAt d).wait attempt (d + now) delay =
      (d + (s.wait attempt now delay).1, (s.wait attempt now delay).2) := by
  unfold wait
  rw [Nat.add_assoc, interrupt?_startingAt h, haltsBehind_startingAt]
  cases s.interrupt? now (now + delay) <;> rfl

end Signals

variable {d : Nanos} {jars : Cookie.Jar → Cookie.Jar → Prop}

/-! ### Deadlines and races -/

/-- The one stretch is the other, some time later. -/
structure Stretch.Alike (d : Nanos) (jars : Cookie.Jar → Cookie.Jar → Prop)
    (a a' : Stretch AttemptEnd) : Prop where
  trace : Trace.Alike d jars a.trace a'.trace
  time_eq : a.time = d + a'.time
  value_eq : a.value = a'.value

namespace Course

variable {c c' : Course AttemptEnd}

theorem Alike.within (h : c.Alike d jars Eq c') (deadline : Nanos) (late : Fault) :
    (c.within (d + deadline) late).Alike d jars (c'.within deadline late) := by
  have trace := h.trace
  have ending := h.ending.eq_map
  unfold Course.within
  cases he : c'.ending with
  | none =>
    rw [he] at ending
    rw [ending]
    exact ⟨trace.before deadline, rfl, rfl⟩
  | some x =>
    obtain ⟨time, e⟩ := x
    rw [he] at ending
    rw [ending]
    dsimp only [Option.map_some]
    by_cases early : time < deadline
    · rw [if_pos early, if_pos (Nat.add_lt_add_left early d)]
      exact ⟨trace, rfl, rfl⟩
    · rw [if_neg early, if_neg fun h => early (Nat.lt_of_add_lt_add_left h)]
      exact ⟨trace.before deadline, rfl, rfl⟩

theorem Alike.race (h : c.Alike d jars Eq c') (now deadline : Nanos) (late : Fault) {s : Signals}
    (hs : s.caller ≠ .preset) :
    (c.race (d + now) (d + deadline) late (s.startingAt d)).Alike d jars
      (c'.race now deadline late s) := by
  have whole := h.within deadline late
  unfold Course.race
  dsimp only
  rw [whole.time_eq, Signals.interrupt?_startingAt hs]
  cases s.interrupt? now (c'.within deadline late).time with
  | none => exact whole
  | some x => exact ⟨h.trace.upTo x.1, rfl, rfl⟩

end Course

/-- The same surroundings some time later, with related cookies. -/
structure Surroundings.Alike (d : Nanos) (jars : Cookie.Jar → Cookie.Jar → Prop)
    (s s' : Surroundings) : Prop where
  now_eq : s.now = d + s'.now
  script_eq : s.script = s'.script
  related : jars s.jar s'.jar

theorem Surroundings.Alike.after {s s' : Surroundings} (h : s.Alike d jars s') (v : Variant)
    {t t' : Trace} (ht : Trace.Alike d jars t t') (time : Nanos) :
    (s.after v t (d + time)).Alike d jars (s'.after v t' time) := by
  refine ⟨rfl, ?_, ht.jarAfter v h.related⟩
  show s.script.after t.sent.length = s'.script.after t'.sent.length
  rw [h.script_eq, ht.sent, List.length_map]

namespace Call

/-! ### Attempts -/

/-- The same call, some time later and under a clock of its own. -/
def later (d : Nanos) (clock : Clock) (c : Call) : Call :=
  { c with signals := c.signals.startingAt d, start := d + c.start, clock := clock }

variable {c : Call} {i : Nat} {s s' : Surroundings} {clock : Clock}

theorem client_later (c : Call) (clock : Clock) (d now : Nanos) :
    (c.later d clock).client (d + now) = (c.client now).later d clock := by
  unfold client Client.later
  rw [Nat.add_assoc]
  rfl

theorem elapsedMs_later (c : Call) (clock : Clock) (d now : Nanos) :
    (c.later d clock).elapsedMs (d + now) = c.elapsedMs now := by
  unfold elapsedMs later
  rw [Nat.add_sub_add_left]

theorem endEvents_later (c : Call) (clock : Clock) (d : Nanos) (i : Nat) (now : Nanos)
    (e : AttemptEnd) :
    (c.later d clock).endEvents i (d + now) e = c.endEvents i now e := by
  cases e with
  | error f => rfl
  | ok r =>
    show [responseEvent _ _ _ _] = [responseEvent _ _ _ _]
    unfold responseEvent
    rw [elapsedMs_later]
    rfl

theorem sending_alike (shown : clock.startingAt d = c.clock) (blind : s'.script.Blind jars)
    (h : s.Alike d jars s') (o : Wire.Outgoing) :
    ((c.later d clock).sending o s).Alike d jars Eq (c.sending o s') := by
  unfold sending
  rw [h.now_eq, h.script_eq, client_later]
  split
  · exact .failed s'.now _
  · exact Client.send_alike shown blind h.related s'.now _

theorem transmit_alike (shown : clock.startingAt d = c.clock) (blind : s'.script.Blind jars)
    (h : s.Alike d jars s') (o : Wire.Outgoing) :
    ((c.later d clock).transmit o s).Alike d jars (c.transmit o s') := by
  have preset_iff : (c.later d clock).signals.caller = .preset ↔ c.signals.caller = .preset :=
    CancelSignal.startingAt_eq_preset_iff
  unfold transmit
  by_cases preset : c.signals.caller = .preset
  · rw [if_pos preset, if_pos (preset_iff.2 preset)]
    exact ⟨.nil, h.now_eq, rfl⟩
  · rw [if_neg preset, if_neg (mt preset_iff.1 preset)]
    have raced := (sending_alike shown blind h o).race s'.now (c.client s'.now).deadline c.late
      preset
    have deadline : ((c.later d clock).client s.now).deadline = d + (c.client s'.now).deadline := by
      rw [h.now_eq, client_later]
      rfl
    rw [h.now_eq] at deadline ⊢
    rw [deadline]
    exact raced

/-- **An attempt**, at another time and with related cookies. -/
theorem attempt_alike (shown : clock.startingAt d = c.clock) (blind : s'.script.Blind jars)
    (h : s.Alike d jars s') (i : Nat) :
    ((c.later d clock).attempt i s).Alike d jars (c.attempt i s') := by
  have described : (c.later d clock).spec = c.spec := rfl
  have started (o : Wire.Outgoing) : (c.later d clock).startEvent i o = c.startEvent i o := rfl
  unfold attempt
  rw [described]
  cases Wire.Outgoing.ofSpec c.spec with
  | error f => exact ⟨.nil, h.now_eq, rfl⟩
  | ok o =>
    dsimp only
    rw [started]
    cases c.startEvent i o with
    | error name => exact ⟨.nil, h.now_eq, rfl⟩
    | ok e =>
      have sent := transmit_alike shown blind h o
      refine ⟨?_, sent.time_eq, sent.value_eq⟩
      rw [h.now_eq]
      exact (Trace.alike_logging s'.now [e]).append sent.trace

/-- A call that its caller has cancelled beforehand makes no second attempt. -/
theorem caller_ne_preset_of_retries
    (more : AttemptEnd.retries c.policy (c.attempt i s).value i = true) :
    c.signals.caller ≠ .preset := by
  intro preset
  have final (f : Fault) (h : f.isTransient = false) :
      AttemptEnd.retries c.policy (.error f) i = false := by
    show (_ && f.isTransient) = false
    rw [h, Bool.and_false]
  -- Neither a request that cannot be sent nor a cancellation passes by itself.
  have stopped : AttemptEnd.retries c.policy (c.attempt i s).value i = false := by
    rcases c.attempt_cases i s with ⟨f, -, h⟩ | ⟨o, name, -, -, h⟩ | ⟨o, e, -, -, h⟩
    · rw [h]
      exact final _ (by cases f <;> rfl)
    · rw [h]
      exact final _ rfl
    · rw [h]
      unfold transmit
      rw [if_pos preset]
      exact final _ rfl
  rw [stopped] at more
  cases more

end Call

/-! ### Runs -/

/-- The one record is the other, some time later. -/
structure CallRecord.Alike (d : Nanos) (jars : Cookie.Jar → Cookie.Jar → Prop)
    (r r' : CallRecord) : Prop where
  trace : Trace.Alike d jars r.trace r'.trace
  time_eq : r.time = d + r'.time
  outcome_eq : r.outcome = r'.outcome

theorem CallRecord.Alike.after {r r' : CallRecord} {t t' : Trace} (h : r.Alike d jars r')
    (ht : Trace.Alike d jars t t') : (r.after t).Alike d jars (r'.after t') :=
  ⟨ht.append h.trace, h.time_eq, h.outcome_eq⟩

namespace Call

variable {c : Call} {i : Nat} {s s' : Surroundings} {r' : CallRecord} {clock : Clock}

theorem escape_alike (now : Nanos) (p : Progress) (f : Fault) :
    (escape (d + now) p f).Alike d jars (escape now p f) :=
  ⟨.nil, rfl, rfl⟩

theorem fail_alike (c : Call) (now : Nanos) (p : Progress) (f : Fault) :
    ((c.later d clock).fail (d + now) p f).Alike d jars (c.fail now p f) := by
  unfold fail
  rw [elapsedMs_later]
  exact ⟨(Trace.alike_measuring now _).append (Trace.alike_logging now _), rfl, rfl⟩

theorem failIn_alike (c : Call) (now : Nanos) (p : Progress) (state : AttemptState) (f : Fault) :
    ((c.later d clock).failIn (d + now) p state f).Alike d jars (c.failIn now p state f) := by
  unfold failIn
  split
  · exact escape_alike now p _
  · exact c.fail_alike now _ f

theorem finish_alike (c : Call) (now : Nanos) (p : Progress) (r : Received) :
    ((c.later d clock).finish (d + now) p r).Alike d jars (c.finish now p r) := by
  unfold finish
  rw [elapsedMs_later]
  refine .after ?_ ((Trace.alike_logging now _).append (Trace.alike_measuring now _))
  split
  · exact ⟨.nil, rfl, rfl⟩
  · exact (c.failIn_alike now p _ _).after (Trace.alike_logging now _)

theorem conclude_alike (c : Call) (now : Nanos) (p : Progress) (e : AttemptEnd) :
    ((c.later d clock).conclude (d + now) p e).Alike d jars (c.conclude now p e) := by
  have policy : (c.later d clock).policy = c.policy := rfl
  unfold conclude
  rw [policy]
  cases e with
  | error f => exact c.failIn_alike now p _ f
  | ok received =>
    dsimp only
    split
    · exact escape_alike now p _
    · exact c.finish_alike now _ received

theorem interrupted_alike (c : Call) (now : Nanos) (p : Progress) (j : Interruption) :
    ((c.later d clock).interrupted (d + now) p j).Alike d jars (c.interrupted now p j) := by
  cases j with
  | byTask => exact escape_alike now p _
  | byCaller => exact c.failIn_alike now p _ _

theorem attemptTrace_alike (h : ((c.later d clock).attempt i s).Alike d jars (c.attempt i s')) :
    Trace.Alike d jars ((c.later d clock).attemptTrace i s) (c.attemptTrace i s') := by
  unfold attemptTrace
  rw [h.time_eq, h.value_eq, endEvents_later]
  exact h.trace.append (Trace.alike_logging _ _)

theorem retryTrace_alike (c : Call) {a a' : Stretch AttemptEnd} (h : a.Alike d jars a') (i : Nat) :
    Trace.Alike d jars ((c.later d clock).retryTrace i a) (c.retryTrace i a') := by
  unfold retryTrace
  rw [h.time_eq, h.value_eq]
  exact (Trace.alike_logging _ _).append (Trace.alike_measuring _ _)

/-- **A run at another time and with related cookies** does the same, step by step: each attempt
ends alike, so that the same becomes of it, and leaves surroundings that are alike. -/
theorem Runs.later (h : c.Runs i s' r') (shown : clock.startingAt d = c.clock)
    (blind : s'.script.Blind jars) (hs : s.Alike d jars s') :
    ∃ r, (c.later d clock).Runs i s r ∧ r.Alike d jars r' := by
  induction h generalizing s with
  | @passes i s' f through =>
    have attempt := attempt_alike shown blind hs i
    rw [← attempt.value_eq] at through
    refine ⟨_, .passes through, .after ?_ (attemptTrace_alike attempt)⟩
    rw [attempt.time_eq]
    exact escape_alike _ _ f
  | @concludes i s' inside last =>
    have attempt := attempt_alike shown blind hs i
    rw [← attempt.value_eq] at inside last
    refine ⟨_, .concludes inside last, .after ?_ (attemptTrace_alike attempt)⟩
    rw [attempt.time_eq, attempt.value_eq]
    exact c.conclude_alike _ _ _
  | @halts i s' time j inside more wait =>
    have attempt := attempt_alike shown blind hs i
    have shifted := Signals.wait_startingAt (caller_ne_preset_of_retries more) d i
      (c.attempt i s').time (c.policy.delayAfter i)
    rw [wait, ← attempt.time_eq] at shifted
    rw [← attempt.value_eq] at inside more
    refine ⟨_, .halts inside more shifted,
      .after (.after ?_ (c.retryTrace_alike attempt i)) (attemptTrace_alike attempt)⟩
    exact c.interrupted_alike time _ j
  | @again i s' time r' inside more wait _ ih =>
    have attempt := attempt_alike shown blind hs i
    have shifted := Signals.wait_startingAt (caller_ne_preset_of_retries more) d i
      (c.attempt i s').time (c.policy.delayAfter i)
    rw [wait, ← attempt.time_eq] at shifted
    rw [← attempt.value_eq] at inside more
    obtain ⟨r, runs, alike⟩ := ih (blind.after _) (hs.after c.variant attempt.trace time)
    exact ⟨_, .again inside more shifted runs,
      .after (.after alike (c.retryTrace_alike attempt i)) (attemptTrace_alike attempt)⟩

end Call

/-! ### Calls of a session -/

/-- A call did the same as another one, some time later: it came to the same outcome, sent the
same requests, logged the same events, and measured the same. -/
structure CallRecord.Repeats (d : Nanos) (r r' : CallRecord) : Prop where
  outcome : r.outcome = r'.outcome
  sent : r.trace.sent = r'.trace.sent.map fun x => (d + x.1, x.2)
  events : r.trace.events = r'.trace.events
  measurements : r.trace.measurements = r'.trace.measurements
  time : r.time = d + r'.time

theorem CallRecord.Alike.repeats {r r' : CallRecord} (h : r.Alike d jars r') : r.Repeats d r' :=
  ⟨h.outcome_eq, h.trace.sent, h.trace.events, h.trace.measurements, h.time_eq⟩

namespace Session

theorem callOf_later {s s' : Session} (settings : s.settings = s'.settings)
    (now : s.now = d + s'.now) (spec : RequestSpec) (signals : Signals) :
    s.callOf spec signals = (s'.callOf spec signals).later d s.clock := by
  unfold callOf Call.later
  rw [settings, now, Signals.startingAt_add]

/-- A call in two sessions that differ in time and in the cookies of its client, and whose clocks
show the same as the call goes on. -/
theorem record_alike (s s' : Session) {config : Config} (signals : Signals)
    (settings : s.settings = s'.settings) (script : s.script = s'.script)
    (now : s.now = d + s'.now) (shown : s.clock.startingAt d = s'.clock)
    (blind : s'.script.Blind jars)
    (related : ∀ spec, config.spec? s'.settings = .ok spec →
      jars (s.jars (s'.callOf spec signals).variant) (s'.jars (s'.callOf spec signals).variant)) :
    (s.record config signals).Alike d jars (s'.record config signals) := by
  cases described : config.spec? s'.settings with
  | error stop =>
    unfold record
    rw [settings, now, described]
    cases stop with
    | failure f =>
      exact ⟨(Trace.alike_logging s'.now _).append (Trace.alike_measuring s'.now _), rfl, rfl⟩
    | escape f => exact ⟨.nil, rfl, rfl⟩
  | ok spec =>
    have later := callOf_later settings now spec signals
    have variant : (s.callOf spec signals).variant = (s'.callOf spec signals).variant := rfl
    have around : Surroundings.Alike d jars ⟨d + s'.now, s'.script, s.jars _⟩
        ⟨s'.now, s'.script, s'.jars (s'.callOf spec signals).variant⟩ :=
      ⟨rfl, rfl, related spec described⟩
    obtain ⟨r, runs, alike⟩ := (Call.runs_run (s'.callOf spec signals) s'.script _).later shown
      blind around
    have ran : r = ((s'.callOf spec signals).later d s.clock).run s'.script _ := runs.eq_run
    rw [record_eq_run described, record_eq_run (settings ▸ described), variant, later, script,
      ← ran]
    exact alike

/-- **A call does the same after any other calls**, given the cookies that they have left to the
clients and a clock that shows the same as the call goes on, by which some of them may have run out.
It does the same as the first call of all, with no cookies at hand, if its client has none, or if
the transport answers with no redirect. -/
theorem execute_isolated (s : Session) (config : Config) (signals : Signals) :
    let fresh := start s.settings s.script (s.clock.startingAt s.now)
    let r := (s.execute config signals).1
    r.Repeats s.now ({ fresh with jars := s.jars }.execute config signals).1 ∧
    (((∀ spec, config.spec? s.settings = .ok spec → s.jars (s.callOf spec signals).variant = []) ∨
        ∀ reply, s.script.CanAnswer reply → Redirect.location? reply = none) →
      r.Repeats s.now (fresh.execute config signals).1) := by
  intro fresh r
  refine ⟨?_, ?_⟩
  · exact (s.record_alike { fresh with jars := s.jars } signals rfl rfl rfl rfl s.script.blind_eq
      fun _ _ => rfl).repeats
  · rintro (empty | direct)
    · exact (s.record_alike fresh signals rfl rfl rfl rfl s.script.blind_eq empty).repeats
    · exact (s.record_alike fresh signals rfl rfl rfl rfl (Script.blind_of_direct direct)
        fun _ _ => trivial).repeats

/-- A response without a body, and with one header field. -/
def fieldReply (status : Nat) (name value : String) : Reply :=
  .ofWhole status none ⟨[(Wire.Fields.asciiName name, Wire.Fields.asciiName value)], none⟩ []

/-- A transport that has a cookie with every response. -/
def generous : Script := ⟨[], ⟨0, .reply (fieldReply 200 "Set-Cookie" "a=1")⟩⟩

/-- A call behind one whose response has set a cookie, where the transport knows no redirects. -/
theorem execute_isolated_generous :
    let s := (start .usual generous .stopped).afterAll [(.spec .home, .none)]
    (∀ reply, s.script.CanAnswer reply → Redirect.location? reply = none) ∧
      (s.execute (.spec .home) .none).1.Repeats s.now
        ((start .usual s.script .stopped).execute (.spec .home) .none).1 := by
  intro s
  have direct : ∀ reply, s.script.CanAnswer reply → Redirect.location? reply = none := by
    rintro reply ⟨x, met, answer⟩
    rcases met.of_after with listed | rfl
    · cases listed
    · cases answer
      rfl
  exact ⟨direct, (execute_isolated s (.spec .home) .none).2 (.inr direct)⟩

/-- A transport that has a cookie with the first response, and a redirect with the second. -/
def leading : Script :=
  ⟨[⟨0, .reply (fieldReply 200 "Set-Cookie" "a=1")⟩, ⟨0, .reply (fieldReply 302 "Location" "/x")⟩],
    ⟨0, .reply (.ofWhole 200 none .empty [])⟩⟩

/-- A call for that page. -/
def visit : Call := (start .usual leading .stopped).callOf .home .none

/-- Whether one of the requests of a call has cookies. -/
def sendsCookies (r : CallRecord) : Bool :=
  r.trace.sent.any fun x => x.2.fields.hasName "cookie"

/-- The cookie of the first response. -/
def given : Cookie := ⟨"a", some "1", "h.local", "/", false, none, none⟩

/-- The first call leaves its client a cookie. -/
theorem visit_leading :
    (visit.run leading []).time = 0 ∧ (visit.run leading []).trace.sent.length = 1 ∧
      (visit.run leading []).trace.jarAfter visit.variant [] = [given] := by
  have inside : Call.through? (visit.attempt 1 ⟨0, leading, []⟩).value = none := by
    decide +kernel
  have last : AttemptEnd.retries visit.policy (visit.attempt 1 ⟨0, leading, []⟩).value 1 = false :=
    by decide +kernel
  have ran : _ = visit.run leading [] := (Call.Runs.concludes inside last).eq_run
  rw [← ran]
  decide +kernel

/-- The second call is led to another place, and has the cookie there if its client has it. -/
theorem sendsCookies_visit (jar : Cookie.Jar) (h : jar = [] ∨ jar = [given]) :
    sendsCookies (visit.run (leading.after 1) jar) = !jar.isEmpty := by
  have inside : Call.through? (visit.attempt 1 ⟨0, leading.after 1, jar⟩).value = none := by
    rcases h with rfl | rfl <;> decide +kernel
  have last : AttemptEnd.retries visit.policy
      (visit.attempt 1 ⟨0, leading.after 1, jar⟩).value 1 = false := by
    rcases h with rfl | rfl <;> decide +kernel
  have ran : _ = visit.run (leading.after 1) jar := (Call.Runs.concludes inside last).eq_run
  rw [← ran]
  rcases h with rfl | rfl <;> decide +kernel

/-- A cookie of an earlier call goes out with a later one. -/
theorem not_execute_isolated : ¬ ∀ (host : Settings) (script : Script) (clock : Clock)
    (history : List (Config × Signals)) (config : Config) (signals : Signals),
    let s := (start host script clock).afterAll history
    (s.execute config signals).1.Repeats s.now
      ((start host s.script (clock.startingAt s.now)).execute config signals).1 := by
  intro h
  let s := (start .usual leading .stopped).afterAll [(.spec .home, .none)]
  obtain ⟨time, count, jar⟩ := visit_leading
  have now : s.now = 0 := time
  have script : s.script = leading.after 1 := congrArg leading.after count
  have jars : s.jars visit.variant = [given] := jar
  have later : (s.execute (.spec .home) .none).1 = visit.run (leading.after 1) [given] := by
    have call : s.callOf .home .none = visit := by
      unfold callOf
      rw [now]
      rfl
    rw [execute_record, record_eq_run rfl, call, script, jars]
  have fresh : ((start .usual s.script .stopped).execute (.spec .home) .none).1 =
      visit.run (leading.after 1) [] := by
    rw [execute_record, record_eq_run rfl, script]
    rfl
  have carried := sendsCookies_visit [given] (.inr rfl)
  have plain := sendsCookies_visit [] (.inl rfl)
  have repeated := (h .usual leading .stopped [(.spec .home, .none)] (.spec .home) .none).sent
  change (s.execute (.spec .home) .none).1.trace.sent = _ at repeated
  rw [later] at repeated
  rw [← fresh] at plain
  unfold sendsCookies at carried plain
  rw [repeated, List.any_map] at carried
  exact Bool.noConfusion (carried.symm.trans plain)

end Session

end HttpCourier
