import HttpCourier.Proofs.Call.Retries
import HttpCourier.Proofs.Transport.Buffer

/-!
# HttpCourier.Proofs.Call.Measures

**What a call measures**: the responses that its attempts have received, a retry for each wait that
it begins, and at its end the call itself, behind its failure if it has failed.

A client is shared, so that other calls may come in between: they change its cookies and use up
what the transport has to answer. For what a call measures it does not matter what its requests
lead to, as long as somebody else's counting is not taken for its own. So attempts and runs are
stated for requests that may lead to anything that measures nothing (`Call.attemptAmid`,
`Call.RunsAmid`); an attempt that nobody comes in between of is the case of a client's own
redirects (`Call.attempt_eq_amid`).

Whether an attempt has received a response is said by the course of its request and by what breaks
it off (`Course.heard?`), and not by the measurement. It is to be read, and its stream is to be
closed without a fault, before the attempt is broken off (`Call.read?_eq_some_iff`).
-/

namespace HttpCourier

/-! ### Measurements of a trace -/

namespace Trace

@[simp] theorem measurements_append (t u : Trace) :
    (t ++ u).measurements = t.measurements ++ u.measurements := List.filterMap_append

@[simp] theorem measurements_logging (time : Nanos) (events : List Log.Event) :
    (logging time events).measurements = [] := by
  unfold measurements logging
  rw [List.filterMap_map]
  exact List.filterMap_eq_nil_iff.2 fun _ _ => rfl

@[simp] theorem measurements_measuring (time : Nanos) (ms : List Measurement) :
    (measuring time ms).measurements = ms := by
  unfold measurements measuring
  rw [List.filterMap_map]
  exact List.filterMap_some

theorem measurements_filter {t : Trace} (h : t.measurements = []) (p : Moment → Bool) :
    measurements (t.filter p) = [] := by
  have none := List.filterMap_eq_nil_iff.1 h
  exact List.filterMap_eq_nil_iff.2 fun m hm => none m (List.mem_filter.1 hm).1

end Trace

/-- The measurement of a response that was read. -/
def Received.measurement (r : Received) : Measurement :=
  .response r.reply.status r.content.length

/-- What starts at `now` and ends at `t` is not broken off before it ends, neither by the deadline
nor by an interruption. -/
def Signals.Spare (s : Signals) (now deadline t : Nanos) : Prop :=
  match s.interrupt? now (min t deadline) with
  | some (time, _) => t ≤ time
  | Option.none => t < deadline

namespace Course

/-! ### Courses that measure their response -/

/-- The course measures the response that it ends with, as it ends, and nothing else. -/
structure MeasuresEnding (c : Course AttemptEnd) : Prop where
  answered : ∀ t r, c.ending = some (t, .ok r) →
    ∃ front : Trace, c.trace = front ++ [⟨t, .measured r.measurement⟩] ∧ front.measurements = []
  unanswered : (∀ t r, c.ending ≠ some (t, .ok r)) → c.trace.measurements = []

/-- The response that is read, if a course is raced. The deadline breaks off what comes with it;
an interruption breaks off what comes after it. -/
def heard? (c : Course AttemptEnd) (now deadline : Nanos) (late : Fault) (s : Signals) :
    Option Received :=
  match c.ending with
  | some (t, .ok r) =>
    match s.interrupt? now (c.within deadline late).time with
    | some (time, _) => if t ≤ time then some r else none
    | none => if t < deadline then some r else none
  | _ => none

variable {c : Course AttemptEnd} {now deadline t : Nanos} {late : Fault} {r : Received}
  {e : AttemptEnd} {s : Signals}

theorem time_within (he : c.ending = some (t, e)) (deadline : Nanos) (late : Fault) :
    (c.within deadline late).time = min t deadline := by
  unfold within
  rw [he]
  dsimp only
  split
  · next early => exact (Nat.min_eq_left (Nat.le_of_lt early)).symm
  · next tardy => exact (Nat.min_eq_right (Nat.not_lt.1 tardy)).symm

theorem heard?_eq_some_iff : c.heard? now deadline late s = some r ↔
    ∃ t, c.ending = some (t, .ok r) ∧ s.Spare now deadline t := by
  unfold heard? Signals.Spare
  constructor
  · intro h
    split at h
    · next t x he =>
      rw [time_within he] at h
      refine ⟨t, ?_⟩
      split at h
      all_goals
        simp only [Option.ite_none_right_eq_some, Option.some.injEq] at h
        exact ⟨h.2 ▸ he, h.1⟩
    · cases h
  · rintro ⟨t, he, before⟩
    rw [he]
    dsimp only
    rw [time_within he]
    split
    all_goals
      next broken =>
        rw [broken] at before
        exact if_pos before

theorem MeasuresEnding.quiet (none : c.trace.measurements = [])
    (h : ∀ t r, c.ending ≠ some (t, .ok r)) : c.MeasuresEnding :=
  ⟨fun t r he => absurd he (h t r), fun _ => none⟩

/-- What follows on a course that measures nothing. -/
theorem MeasuresEnding.andThen {first : Course (Except Fault α)}
    {next : Nanos → α → Course AttemptEnd} (silent : first.trace.measurements = [])
    (h : ∀ time a, (next time a).MeasuresEnding) : (first.andThen next).MeasuresEnding := by
  unfold Course.andThen
  split
  · exact .quiet silent (by rintro t r ⟨⟩)
  · exact .quiet silent (by rintro t r ⟨⟩)
  · next time a _ =>
    refine ⟨fun t r he => ?_, fun other => ?_⟩
    · obtain ⟨front, trace_eq, none⟩ := (h time a).answered t r he
      refine ⟨first.trace ++ front, ?_, ?_⟩
      · rw [Course.after, trace_eq, List.append_assoc]
      · rw [Trace.measurements_append, silent, none]
        rfl
    · rw [Course.after, Trace.measurements_append, silent, (h time a).unanswered other]
      rfl

theorem MeasuresEnding.filter_answered (h : c.MeasuresEnding) (he : c.ending = some (t, .ok r))
    (p : Moment → Bool) :
    Trace.measurements (c.trace.filter p) =
      if p ⟨t, .measured r.measurement⟩ then [r.measurement] else [] := by
  obtain ⟨front, trace_eq, none⟩ := h.answered t r he
  rw [trace_eq, List.filter_append, Trace.measurements_append, Trace.measurements_filter none]
  by_cases hp : p ⟨t, .measured r.measurement⟩ = true
  · rw [List.filter_cons_of_pos hp, if_pos hp]
    rfl
  · rw [List.filter_cons_of_neg hp, if_neg hp]
    rfl

theorem within_trace_answered (he : c.ending = some (t, .ok r)) :
    (c.within deadline late).trace = c.trace.filter fun m => t < deadline ∨ m.time < deadline := by
  by_cases ht : t < deadline
  · rw [Call.within_of_lt he ht]
    exact (List.filter_eq_self.2 fun m _ => by simp [ht]).symm
  · have late_ : ∀ t' e, c.ending = some (t', e) → deadline ≤ t' := by
      intro t' e he'
      rw [he] at he'
      cases he'
      exact Nat.not_lt.1 ht
    rw [Call.within_of_le late_]
    simp [ht, Trace.before]

/-- What is broken off of a course is a part of its trace. -/
theorem race_trace (c : Course AttemptEnd) (now deadline : Nanos) (late : Fault) (s : Signals) :
    ∃ p, (c.race now deadline late s).trace = c.trace.filter p := by
  have all : c.trace = c.trace.filter fun _ => true := (List.filter_eq_self.2 fun _ _ => rfl).symm
  unfold Course.race
  dsimp only
  split
  · exact ⟨_, rfl⟩
  · unfold Course.within
    split
    · split
      · exact ⟨_, all⟩
      · exact ⟨_, rfl⟩
    · exact ⟨_, rfl⟩

/-- **A race measures the response that is read in it**, and nothing else. -/
theorem MeasuresEnding.race (h : c.MeasuresEnding) (s : Signals) :
    (c.race now deadline late s).trace.measurements =
      ((c.heard? now deadline late s).map Received.measurement).toList := by
  by_cases answered : ∃ t r, c.ending = some (t, .ok r)
  · obtain ⟨t, r, he⟩ := answered
    unfold Course.race heard?
    rw [he]
    dsimp only
    cases s.interrupt? now (c.within deadline late).time with
    | some i =>
      obtain ⟨time, i⟩ := i
      dsimp only [Trace.upTo]
      rw [h.filter_answered he]
      by_cases ht : t ≤ time <;> simp [ht]
    | none =>
      dsimp only
      rw [within_trace_answered he, h.filter_answered he]
      by_cases ht : t < deadline <;> simp [ht]
  · have other : ∀ t r, c.ending ≠ some (t, .ok r) := fun t r he => answered ⟨t, r, he⟩
    obtain ⟨p, trace_eq⟩ := c.race_trace now deadline late s
    have unheard : c.heard? now deadline late s = none := by
      unfold heard?
      split
      · next t r he => exact absurd he (other t r)
      · rfl
    rw [unheard, trace_eq, Trace.measurements_filter (h.unanswered other)]
    rfl

end Course

/-! ### Attempts -/

namespace Client

/-- While a body is taken in, and its stream is closed, nothing is measured. -/
theorem drain_unmeasured (c : Client) (r : Reply) (now : Nanos) :
    (c.drain r now).trace.measurements = [] := by
  show ((c.takeBody _ r now).andThen _).trace.measurements = []
  unfold takeBody Course.andThen
  dsimp only
  split
  · rfl
  · rfl
  · next time bytes _ =>
    show (Trace.logging time (c.overfilled r bytes) ++ []).measurements = []
    rw [List.append_nil, Trace.measurements_logging]

/-- A response is measured once it is taken in and its stream is closed. -/
theorem receive_measures (c : Client) (r : Reply) (now : Nanos) :
    (c.receive r now).MeasuresEnding := by
  refine .andThen (c.drain_unmeasured r now) fun time bytes => ?_
  refine ⟨?_, fun other => absurd rfl (other _ _)⟩
  rintro t x ⟨⟩
  exact ⟨_, List.append_nil _, Trace.measurements_logging time (c.overhanging r bytes)⟩

end Client

namespace Call

open Wire (Message)

/-- How a request goes out and is answered, where its requests lead to the given courses. -/
def sendingAmid (c : Call) (o : Wire.Outgoing) (now : Nanos)
    (requests : Message → Course (Except Fault Reply)) : Course AttemptEnd :=
  match o.toMessage with
  | .error f => .done now (.error (Fault.ofMessage f))
  | .ok m => (requests m).andThen fun arrival r => (c.client now).receive r arrival

/-- One attempt amid other calls, which decide with the transport what its requests lead to. -/
def attemptAmid (c : Call) (number : Nat) (now : Nanos)
    (requests : Message → Course (Except Fault Reply)) : Stretch AttemptEnd :=
  match Wire.Outgoing.ofSpec c.spec with
  | .error f => ⟨[], now, .error (Fault.ofBuild f)⟩
  | .ok o =>
    match c.startEvent number o with
    | .error name => ⟨[], now, .error (Fault.lostField name)⟩
    | .ok e =>
      let sent :=
        if c.signals.caller = .preset then ⟨[], now, .error Fault.cancelled⟩
        else (c.sendingAmid o now requests).race now (c.client now).deadline c.late c.signals
      { sent with trace := Trace.logging now [e] ++ sent.trace }

/-- The response that an attempt amid other calls has received. -/
def readAmid? (c : Call) (number : Nat) (now : Nanos)
    (requests : Message → Course (Except Fault Reply)) : Option Received :=
  match Wire.Outgoing.ofSpec c.spec with
  | .error _ => none
  | .ok o =>
    match c.startEvent number o with
    | .error _ => none
    | .ok _ =>
      if c.signals.caller = .preset then none
      else (c.sendingAmid o now requests).heard? now (c.client now).deadline c.late c.signals

/-- What the requests of an attempt lead to that nobody comes in between of. -/
def requestsIn (c : Call) (s : Surroundings) (m : Message) : Course (Except Fault Reply) :=
  (c.client s.now).hops Client.maxRedirects s.script s.jar s.now (Client.withUrlCredentials m)

theorem attempt_eq_amid (c : Call) (number : Nat) (s : Surroundings) :
    c.attempt number s = c.attemptAmid number s.now (c.requestsIn s) := rfl

/-- Nothing is measured while requests go out and redirects are followed. -/
def Unmeasured (requests : Message → Course (Except Fault Reply)) : Prop :=
  ∀ m, (requests m).trace.measurements = []

variable {c : Call} {i : Nat} {now : Nanos} {requests : Message → Course (Except Fault Reply)}

theorem sendingAmid_measures (h : Unmeasured requests) (o : Wire.Outgoing) :
    (c.sendingAmid o now requests).MeasuresEnding := by
  unfold sendingAmid
  split
  · exact .quiet rfl (by rintro t r ⟨⟩)
  · next m _ => exact .andThen (h m) fun arrival r => (c.client now).receive_measures r arrival

/-- **An attempt measures the response that it has read**, and nothing else. -/
theorem attemptAmid_measures (h : Unmeasured requests) :
    (c.attemptAmid i now requests).trace.measurements =
      ((c.readAmid? i now requests).map Received.measurement).toList := by
  unfold attemptAmid readAmid?
  cases Wire.Outgoing.ofSpec c.spec with
  | error f => rfl
  | ok o =>
    dsimp only
    cases c.startEvent i o with
    | error name => rfl
    | ok e =>
      dsimp only
      rw [Trace.measurements_append, Trace.measurements_logging, List.nil_append]
      by_cases preset : c.signals.caller = .preset
      · rw [if_pos preset, if_pos preset]
        rfl
      · rw [if_neg preset, if_neg preset]
        exact (sendingAmid_measures h o).race c.signals

end Call

/-! ### Requests measure nothing -/

theorem Client.hops_unmeasured (c : Client) (left : Nat) (s : Script) (jar : Cookie.Jar)
    (now : Nanos) (m : Wire.Message) : (c.hops left s jar now m).trace.measurements = [] := by
  refine List.filterMap_eq_nil_iff.2 fun ⟨time, effect⟩ hx => ?_
  cases c.hops_does left s jar now m _ hx with
  | sent _ => rfl
  | stored _ _ => rfl

/-! ### Runs -/

namespace Call

/-- An attempt amid other calls, and the response that it has read. -/
def Attempted (c : Call) (i : Nat) (now : Nanos) (a : Stretch AttemptEnd)
    (read : Option Received) : Prop :=
  ∃ requests, Unmeasured requests ∧ a = c.attemptAmid i now requests ∧
    read = c.readAmid? i now requests

/-- What an attempt does, together with the events of its ending. -/
def stretchTrace (c : Call) (i : Nat) (a : Stretch AttemptEnd) : Trace :=
  a.trace ++ Trace.logging a.time (c.endEvents i a.time a.value)

/-- The attempts from number `i` on, of a call that others may come in between of, read the given
responses and make up a record. -/
inductive RunsAmid (c : Call) : Nat → Nanos → List Received → CallRecord → Prop
  /-- The fault of the attempt goes through. -/
  | passes {i now a read f} (attempted : c.Attempted i now a read)
      (through : through? a.value = some f) :
      RunsAmid c i now read.toList (.after (c.stretchTrace i a) (escape a.time ⟨.attempting, i⟩ f))
  /-- The ending of the attempt is that of the call. -/
  | concludes {i now a read} (attempted : c.Attempted i now a read)
      (inside : through? a.value = none) (last : AttemptEnd.retries c.policy a.value i = false) :
      RunsAmid c i now read.toList
        (.after (c.stretchTrace i a) (c.conclude a.time ⟨.attempting, i⟩ a.value))
  /-- The wait behind the attempt is interrupted. -/
  | halts {i now a read time j} (attempted : c.Attempted i now a read)
      (inside : through? a.value = none) (more : AttemptEnd.retries c.policy a.value i = true)
      (wait : c.signals.wait i a.time (c.policy.delayAfter i) = (time, some j)) :
      RunsAmid c i now read.toList (.after (c.stretchTrace i a) (.after (c.retryTrace i a)
        (c.interrupted time ⟨.retrying, i⟩ j)))
  /-- The wait behind the attempt leads to the next one. -/
  | again {i now a read time reads r} (attempted : c.Attempted i now a read)
      (inside : through? a.value = none) (more : AttemptEnd.retries c.policy a.value i = true)
      (wait : c.signals.wait i a.time (c.policy.delayAfter i) = (time, none))
      (rest : RunsAmid c (i + 1) time reads r) :
      RunsAmid c i now (read.toList ++ reads)
        (.after (c.stretchTrace i a) (.after (c.retryTrace i a) r))

/-- The response that an attempt has received. -/
def read? (c : Call) (i : Nat) (s : Surroundings) : Option Received :=
  c.readAmid? i s.now (c.requestsIn s)

variable {c : Call} {i : Nat} {now : Nanos} {s : Surroundings} {r : CallRecord} {x : Received}

/-- An attempt receives a response. Its request is answered with it, behind any redirects that it
follows; the body is taken in to its end, or until its chunks go beyond the limit; the stream is
then closed without a fault; and all that before the attempt is broken off. As much of the body is
kept as the limit allows. -/
def Receives (c : Call) (i : Nat) (s : Surroundings) (x : Received) : Prop :=
  ∃ o e m arrival time bytes still, Wire.Outgoing.ofSpec c.spec = .ok o ∧
    c.startEvent i o = .ok e ∧ o.toMessage = .ok m ∧ c.signals.caller ≠ .preset ∧
    (c.requestsIn s m).ending = some (arrival, .ok x.reply) ∧
    ((c.client s.now).takeBody (Buffer.overfills c.settings.limit) x.reply arrival).ending =
      some (time, .ok bytes) ∧
    x.content = bytes.take c.settings.limit ∧ x.reply.closing = .ends still none ∧
    c.signals.Spare s.now (c.client s.now).deadline (time + still)

theorem read?_eq_some_iff : c.read? i s = some x ↔ c.Receives i s x := by
  unfold read? readAmid? sendingAmid
  constructor
  · intro h
    cases built : Wire.Outgoing.ofSpec c.spec with
    | error f => simp [built] at h
    | ok o =>
      cases logged : c.startEvent i o with
      | error f => simp [built, logged] at h
      | ok e =>
        cases ready : o.toMessage with
        | error f => simp [built, logged, ready, Course.heard?_eq_some_iff, Course.done] at h
        | ok m =>
          simp only [built, logged, ready, Option.ite_none_left_eq_some,
            Course.heard?_eq_some_iff, Course.ending_andThen_iff, Client.ending_receive_iff] at h
          obtain ⟨uncancelled, _, ⟨arrival, r, answered, time, bytes, still, taken, closed, rfl,
            rfl⟩, spared⟩ := h
          exact ⟨o, e, m, arrival, time, bytes, still, built, logged, ready, uncancelled, answered,
            taken, rfl, closed, spared⟩
  · rintro ⟨o, e, m, arrival, time, bytes, still, built, logged, ready, uncancelled, answered,
      taken, kept, closed, spared⟩
    have received :
        ((c.client s.now).receive x.reply arrival).ending = some (time + still, .ok x) :=
      Client.ending_receive_iff.2 ⟨time, bytes, still, taken, closed, rfl, by
        obtain ⟨reply, content⟩ := x
        exact congrArg _ kept⟩
    rw [built]
    dsimp only
    rw [logged]
    dsimp only
    rw [ready, if_neg uncancelled]
    exact Course.heard?_eq_some_iff.2 ⟨time + still,
      Course.ending_andThen_iff.2 ⟨arrival, x.reply, answered, received⟩, spared⟩

theorem attempted (c : Call) (i : Nat) (s : Surroundings) :
    c.Attempted i s.now (c.attempt i s) (c.read? i s) :=
  ⟨c.requestsIn s, fun _ => Client.hops_unmeasured _ _ _ _ _ _, c.attempt_eq_amid i s, rfl⟩

theorem Attempted.measures {a : Stretch AttemptEnd} {read : Option Received}
    (h : c.Attempted i now a read) :
    a.trace.measurements = read.toList.map Received.measurement := by
  obtain ⟨requests, silent, rfl, rfl⟩ := h
  rw [attemptAmid_measures silent]
  cases c.readAmid? i now requests <;> rfl

theorem wait_uninterrupted {signals : Signals} {attempt : Nat} {delay time : Nanos}
    (h : signals.wait attempt now delay = (time, none)) : time = now + delay := by
  unfold Signals.wait at h
  split at h
  · cases h
  · exact (congrArg Prod.fst h).symm

theorem interrupted_attempt (c : Call) (time : Nanos) (i : Nat) (j : Interruption) :
    (c.interrupted time ⟨.retrying, i⟩ j).progress.attempt = i := by
  cases j <;> rfl

/-- The responses that are read in the attempts from number `i` on, which starts in `s`. -/
def readsAhead (c : Call) (i : Nat) (s : Surroundings) (n : Nat) : List Received :=
  (List.range n).filterMap fun j => c.read? (i + j) (c.before i s j)

theorem readsAhead_succ (c : Call) (i : Nat) (s : Surroundings) (n : Nat) :
    c.readsAhead i s (n + 1) = (c.read? i s).toList ++
      c.readsAhead (i + 1) (s.after c.variant (c.attempt i s).trace
        ((c.attempt i s).time + c.policy.delayAfter i)) n := by
  have later : ((fun j => c.read? (i + j) (c.before i s j)) ∘ Nat.succ) =
      fun j => c.read? (i + 1 + j) (c.before (i + 1) (s.after c.variant (c.attempt i s).trace
        ((c.attempt i s).time + c.policy.delayAfter i)) j) := by
    funext j
    have shift : i + (j + 1) = i + 1 + j := by omega
    show c.read? (i + (j + 1)) _ = _
    rw [shift]
    rfl
  unfold readsAhead
  rw [List.range_succ_eq_map, List.filterMap_cons, List.filterMap_map, later, Nat.add_zero]
  have here : c.before i s 0 = s := rfl
  rw [here]
  cases c.read? i s <;> rfl

theorem readsAhead_one (c : Call) (i : Nat) (s : Surroundings) :
    c.readsAhead i s 1 = (c.read? i s).toList := by
  rw [readsAhead_succ]
  exact List.append_nil _

/-- **A run that nobody comes in between of** is a run amid other calls. -/
theorem Runs.amid (h : c.Runs i s r) :
    ∃ k, r.progress.attempt = i + k ∧ c.RunsAmid i s.now (c.readsAhead i s (k + 1)) r := by
  induction h with
  | @passes i s f through =>
    refine ⟨0, rfl, ?_⟩
    rw [readsAhead_one]
    exact .passes (c.attempted i s) through
  | @concludes i s inside last =>
    refine ⟨0, conclude_attempt _ _, ?_⟩
    rw [readsAhead_one]
    exact .concludes (c.attempted i s) inside last
  | @halts i s time j inside more wait =>
    refine ⟨0, interrupted_attempt _ _ _ _, ?_⟩
    rw [readsAhead_one]
    exact .halts (c.attempted i s) inside more wait
  | @again i s time r inside more wait _ ih =>
    obtain ⟨k, number, runs⟩ := ih
    have start := wait_uninterrupted wait
    refine ⟨k + 1, number.trans (by omega), ?_⟩
    rw [readsAhead_succ, ← start]
    exact .again (c.attempted i s) inside more wait runs

/-! ### What a run measures -/

/-- What a call has measured that has ended with a result, and has read the given responses: those
responses, some retries, and its end, behind its failure if it has failed. -/
def Accounts (result : Result) (reads : List Received) (ms : List Measurement) : Prop :=
  ∃ waits elapsed, ms.Perm (reads.map Received.measurement ++ (List.replicate waits .retry ++
    (result.errorClass.toList.map .failure ++ [.call elapsed])))

@[simp] theorem measurements_stretchTrace (c : Call) (i : Nat) (a : Stretch AttemptEnd) :
    (c.stretchTrace i a).measurements = a.trace.measurements := by
  simp [stretchTrace]

@[simp] theorem measurements_retryTrace (c : Call) (i : Nat) (a : Stretch AttemptEnd) :
    (c.retryTrace i a).measurements = [.retry] := by
  simp [retryTrace]

@[simp] theorem measurements_fail (c : Call) (now : Nanos) (p : Progress) (f : Fault) :
    (c.fail now p f).trace.measurements = [.failure f.callClass, .call (c.elapsedMs now)] := by
  simp [fail]

theorem fail_accounts (c : Call) (now : Nanos) (p : Progress) (f : Fault) {result : Result}
    (hr : (c.fail now p f).outcome = .returned result) :
    Accounts result [] (c.fail now p f).trace.measurements := by
  cases hr
  exact ⟨0, c.elapsedMs now, by rw [measurements_fail]; rfl⟩

theorem conclude_accounts {e : AttemptEnd} {result : Result}
    (hr : (c.conclude now ⟨.attempting, i⟩ e).outcome = .returned result) :
    Accounts result [] (c.conclude now ⟨.attempting, i⟩ e).trace.measurements := by
  cases e with
  | error f =>
    rw [conclude_error] at hr ⊢
    exact c.fail_accounts _ _ _ hr
  | ok x =>
    rw [conclude_ok] at hr ⊢
    unfold finish at hr ⊢
    dsimp only [CallRecord.after] at hr ⊢
    split at hr
    · next coherent =>
      cases hr
      rw [if_pos coherent]
      exact ⟨0, c.elapsedMs now, by simp [Result.ofReceived]⟩
    · -- A last state cannot be left, so that a result that is not coherent escapes.
      unfold failIn at hr
      rw [AttemptEnd.move_of_finalState] at hr
      cases hr

theorem interrupted_accounts {j : Interruption} {result : Result}
    (hr : (c.interrupted now ⟨.retrying, i⟩ j).outcome = .returned result) :
    Accounts result [] (c.interrupted now ⟨.retrying, i⟩ j).trace.measurements := by
  cases j with
  | byTask => cases hr
  | byCaller =>
    rw [interrupted_byCaller] at hr ⊢
    exact c.fail_accounts _ _ _ hr

/-- What is read comes in front. -/
theorem Accounts.read {result : Result} {reads : List Received} {ms : List Measurement}
    (h : Accounts result reads ms) (more : List Received) :
    Accounts result (more ++ reads) (more.map Received.measurement ++ ms) := by
  obtain ⟨waits, elapsed, perm⟩ := h
  refine ⟨waits, elapsed, ?_⟩
  rw [List.map_append, List.append_assoc]
  exact perm.append_left _

theorem Accounts.retry {result : Result} {reads : List Received} {ms : List Measurement}
    (h : Accounts result reads ms) : Accounts result reads (.retry :: ms) := by
  obtain ⟨waits, elapsed, perm⟩ := h
  exact ⟨waits + 1, elapsed, (perm.cons _).trans List.perm_middle.symm⟩

/-- **A run measures what it has read, its waits and its end.** -/
theorem RunsAmid.accounts {reads : List Received} (h : c.RunsAmid i now reads r) {result : Result}
    (hr : r.outcome = .returned result) : Accounts result reads r.trace.measurements := by
  induction h with
  | passes _ _ => cases hr
  | concludes attempted _ _ =>
    have ended := (conclude_accounts hr).read
    simp only [CallRecord.after, Trace.measurements_append, measurements_stretchTrace,
      attempted.measures]
    simpa using ended _
  | halts attempted _ _ _ =>
    have ended := (interrupted_accounts hr).retry.read
    simp only [CallRecord.after, Trace.measurements_append, measurements_stretchTrace,
      measurements_retryTrace, attempted.measures]
    simpa using ended _
  | again attempted _ _ _ _ ih =>
    have rest := (ih hr).retry.read
    simp only [CallRecord.after, Trace.measurements_append, measurements_stretchTrace,
      measurements_retryTrace, attempted.measures]
    exact rest _

end Call

end HttpCourier
