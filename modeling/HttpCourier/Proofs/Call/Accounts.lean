import HttpCourier.Proofs.Call.Measures
import Mathlib.Algebra.BigOperators.Group.List.Basic
import Mathlib.Algebra.Order.Ring.Int

/-!
# HttpCourier.Proofs.Call.Accounts

**The counts of a session agree with the results of its calls.** What is counted is a sum of
weights of measurements (`Tally.view_addAll`), so that the order in which measurements come does
not matter, and with it neither does whether calls overlap. What one call adds is known from its
result and from the responses that it has received (`Call.Accounts`).

A body that is read is not yet a response that is received: its stream has still to be closed, and
where that fails nothing is counted (`Session.not_tally_agrees`).

The retries are counted apart. A retry is counted when a wait for another attempt begins, and a
result counts the attempts that were made, so that a call that ends in such a wait is one ahead.
-/

namespace HttpCourier

/-! ### What measurements add -/

namespace Measurement

/-- How many calls a measurement adds. -/
def calls : Measurement → Nat
  | .call _ => 1
  | _ => 0

/-- How many retries a measurement adds. -/
def retries : Measurement → Nat
  | .retry => 1
  | _ => 0

/-- How many failures of a class a measurement adds. -/
def failures (e : FailureClass) : Measurement → Nat
  | .failure f => if f = e then 1 else 0
  | _ => 0

/-- How many responses of a status a measurement adds. -/
def responses (status : Int) : Measurement → Nat
  | .response s _ => if s = status then 1 else 0
  | _ => 0

/-- How many bytes of content a measurement adds. -/
def bytes : Measurement → Int
  | .response _ b => b
  | _ => 0

end Measurement

namespace Tally

theorem countOf_cons [DecidableEq α] (a b : α) (n : Nat) (counts : List (α × Nat)) :
    countOf ((a, n) :: counts) b = if b = a then n else countOf counts b := by
  unfold countOf
  rw [List.lookup_cons]
  by_cases h : b = a
  · simp [h]
  · simp [h, beq_false_of_ne h]

theorem countOf_bump [DecidableEq α] (a b : α) (counts : List (α × Nat)) :
    countOf (bump a counts) b = countOf counts b + if a = b then 1 else 0 := by
  induction counts with
  | nil =>
    have none : countOf ([] : List (α × Nat)) b = 0 := rfl
    rw [bump, countOf_cons, none]
    by_cases h : a = b
    · simp [h]
    · simp [h, Ne.symm h]
  | cons x rest ih =>
    obtain ⟨k, n⟩ := x
    unfold bump
    by_cases hk : k = a
    · rw [if_pos hk, countOf_cons, countOf_cons]
      by_cases hb : b = k
      · simp [hb, hk]
      · simp [hb, ← hk, Ne.symm hb]
    · rw [if_neg hk, countOf_cons, countOf_cons]
      by_cases hb : b = k
      · simp [hb, Ne.symm hk]
      · simp [hb, ih]

/-- What each measurement adds to is the sum of what they add. -/
theorem view_addAll {M : Type} [AddMonoid M] (view : Tally → M) {weight : Measurement → M}
    (step : ∀ t m, view (t.add m) = view t + weight m) (t : Tally) (ms : List Measurement) :
    view (t.addAll ms) = view t + (ms.map weight).sum := by
  induction ms generalizing t with
  | nil => simp [addAll]
  | cons m ms ih =>
    have rest := ih (t.add m)
    rw [step, add_assoc] at rest
    exact rest

theorem calls_addAll (t : Tally) (ms : List Measurement) :
    (t.addAll ms).calls = t.calls + (ms.map Measurement.calls).sum := by
  refine view_addAll Tally.calls (fun t m => ?_) t ms
  cases m <;> rfl

theorem retries_addAll (t : Tally) (ms : List Measurement) :
    (t.addAll ms).retries = t.retries + (ms.map Measurement.retries).sum := by
  refine view_addAll Tally.retries (fun t m => ?_) t ms
  cases m <;> rfl

theorem failures_addAll (t : Tally) (ms : List Measurement) (e : FailureClass) :
    countOf (t.addAll ms).failures e =
      countOf t.failures e + (ms.map (Measurement.failures e)).sum := by
  refine view_addAll (fun t => countOf t.failures e) (fun t m => ?_) t ms
  cases m with
  | failure c => exact countOf_bump c e t.failures
  | _ => rfl

theorem requests_addAll (t : Tally) (ms : List Measurement) (status : Int) :
    countOf (t.addAll ms).requests status =
      countOf t.requests status + (ms.map (Measurement.responses status)).sum := by
  refine view_addAll (fun t => countOf t.requests status) (fun t m => ?_) t ms
  cases m with
  | response s b => exact countOf_bump s status t.requests
  | _ => rfl

theorem bytes_addAll (t : Tally) (ms : List Measurement) :
    (t.addAll ms).bytes = t.bytes + (ms.map Measurement.bytes).sum := by
  refine view_addAll Tally.bytes (fun t m => ?_) t ms
  cases m with
  | response s b => rfl
  | _ => exact (add_zero t.bytes).symm

end Tally
/-! ### What one call adds -/

theorem sum_indicator (p : α → Bool) (l : List α) :
    (l.map fun a => if p a then 1 else 0).sum = l.countP p := by
  induction l with
  | nil => rfl
  | cons a l ih => rw [List.map_cons, List.sum_cons, ih, List.countP_cons, Nat.add_comm]

namespace Call.Accounts

open Measurement

variable {result : Result} {reads : List Received} {ms : List Measurement}

/-- The parts of what a call measures, in any order, add what each of them adds. -/
theorem sum_weight {M : Type} [AddCommMonoid M] (h : Accounts result reads ms)
    (weight : Measurement → M) : ∃ (waits : Nat) (elapsed : Binary64), (ms.map weight).sum =
      (reads.map fun r => weight r.measurement).sum + (waits • weight .retry +
        ((result.errorClass.toList.map fun e => weight (.failure e)).sum +
          weight (.call elapsed))) := by
  obtain ⟨waits, elapsed, perm⟩ := h
  refine ⟨waits, elapsed, ?_⟩
  rw [(perm.map weight).sum_eq]
  simp [Function.comp_def]

theorem sum_calls (h : Accounts result reads ms) : (ms.map calls).sum = 1 := by
  obtain ⟨waits, elapsed, sum⟩ := h.sum_weight calls
  rw [sum]
  simp [calls, Received.measurement]

theorem sum_failures (h : Accounts result reads ms) (e : FailureClass) :
    (ms.map (failures e)).sum = if result.errorClass = some e then 1 else 0 := by
  obtain ⟨waits, elapsed, sum⟩ := h.sum_weight (failures e)
  rw [sum]
  cases result.errorClass <;> simp [failures, Received.measurement]

theorem sum_responses (h : Accounts result reads ms) (status : Int) :
    (ms.map (responses status)).sum = reads.countP fun r => r.reply.status = status := by
  obtain ⟨waits, elapsed, sum⟩ := h.sum_weight (responses status)
  rw [sum, ← sum_indicator]
  simp [responses, Received.measurement]

theorem sum_bytes (h : Accounts result reads ms) :
    (ms.map bytes).sum = (reads.map fun r => (r.content.length : Int)).sum := by
  obtain ⟨waits, elapsed, sum⟩ := h.sum_weight bytes
  rw [sum]
  simp [bytes, Received.measurement]

end Call.Accounts

/-! ### Counts and results -/

/-- The counts are those of calls that have ended with the results, of which the attempts have
received the responses. -/
structure Tally.Agrees (t : Tally) (results : List Result) (reads : List Received) : Prop where
  calls : t.calls = results.length
  failures : ∀ e, countOf t.failures e = results.countP fun r => r.errorClass = some e
  requests : ∀ status : Int,
    countOf t.requests status = reads.countP fun r => r.reply.status = status
  bytes : t.bytes = (reads.map fun r => (r.content.length : Int)).sum

/-- A call under a host's settings and clock, with the responses that its attempts have received and
its record, where other calls may come in between. -/
inductive Performed (host : Settings) (clock : Clock) (config : Config) (signals : Signals) :
    List Received → CallRecord → Prop
  | refused {f now} (stop : config.spec? host = .error (.failure f)) :
      Performed host clock config signals [] (f.record now)
  | escaped {f now} (stop : config.spec? host = .error (.escape f)) :
      Performed host clock config signals [] ⟨[], now, .escaped f, Progress.start⟩
  | made {spec start reads r} (described : config.spec? host = .ok spec)
      (runs : Call.RunsAmid ⟨host, spec, signals.startingAt start, start, clock⟩ 1 start reads r) :
      Performed host clock config signals reads r

theorem Performed.accounts {host : Settings} {clock : Clock} {config : Config} {signals : Signals}
    {reads : List Received} {r : CallRecord} (h : Performed host clock config signals reads r)
    {result : Result} (hr : r.outcome = .returned result) :
    Call.Accounts result reads r.trace.measurements := by
  cases h with
  | refused _ =>
    cases hr
    exact ⟨0, Nanos.toMillis 0, by simp [ConfigFailure.record, Result.ofError]⟩
  | escaped _ => cases hr
  | made _ runs => exact runs.accounts hr

namespace Tally

variable {results : List Result} {reads : List Received} {ms : List Measurement}

theorem agrees_addAll_iff : (empty.addAll ms).Agrees results reads ↔
    (ms.map Measurement.calls).sum = results.length ∧
    (∀ e, (ms.map (Measurement.failures e)).sum =
      results.countP fun r => r.errorClass = some e) ∧
    (∀ status, (ms.map (Measurement.responses status)).sum =
      reads.countP fun r => r.reply.status = status) ∧
    (ms.map Measurement.bytes).sum = (reads.map fun r => (r.content.length : Int)).sum := by
  have calls := calls_addAll empty ms
  have failures := failures_addAll empty ms
  have requests := requests_addAll empty ms
  have bytes := bytes_addAll empty ms
  -- Nothing has been counted before.
  simp only [empty, countOf, List.lookup_nil, Option.getD_none, zero_add] at *
  constructor
  · intro h
    refine ⟨calls.symm.trans h.calls, fun e => (failures e).symm.trans (h.failures e),
      fun s => (requests s).symm.trans (h.requests s), bytes.symm.trans h.bytes⟩
  · rintro ⟨h₁, h₂, h₃, h₄⟩
    exact ⟨calls.trans h₁, fun e => (failures e).trans (h₂ e),
      fun s => (requests s).trans (h₃ s), bytes.trans h₄⟩

/-- The order of measurements does not matter. -/
theorem agrees_of_perm {ms' : List Measurement} (perm : ms.Perm ms')
    (h : (empty.addAll ms').Agrees results reads) : (empty.addAll ms).Agrees results reads := by
  rw [agrees_addAll_iff] at h ⊢
  simpa only [(perm.map _).sum_eq] using h

/-- One call more. -/
theorem agrees_append {result : Result} {read : List Received} {more : List Measurement}
    (account : Call.Accounts result read more) (h : (empty.addAll ms).Agrees results reads) :
    (empty.addAll (more ++ ms)).Agrees (result :: results) (read ++ reads) := by
  rw [agrees_addAll_iff] at h ⊢
  obtain ⟨calls, failures, responses, bytes⟩ := h
  refine ⟨?_, fun e => ?_, fun s => ?_, ?_⟩
  · rw [List.map_append, List.sum_append, account.sum_calls, calls, List.length_cons,
      Nat.add_comm]
  · rw [List.map_append, List.sum_append, account.sum_failures, failures, List.countP_cons,
      Nat.add_comm]
    simp only [decide_eq_true_eq]
  · rw [List.map_append, List.sum_append, account.sum_responses, responses, List.countP_append]
  · rw [List.map_append, List.sum_append, account.sum_bytes, bytes, List.map_append,
      List.sum_append]

/-- Calls that each account for themselves make counts that agree, in whatever order they are
counted. -/
theorem agrees_of_accounts {calls : List (List Received × CallRecord)}
    (accounts : ∀ x ∈ calls, ∀ result, x.2.outcome = .returned result →
      Call.Accounts result x.1 x.2.trace.measurements)
    (returned : calls.map (fun x => x.2.outcome) = results.map .returned)
    (perm : ms.Perm (calls.flatMap fun x => x.2.trace.measurements)) :
    (empty.addAll ms).Agrees results (calls.flatMap Prod.fst) := by
  refine agrees_of_perm perm ?_
  induction calls generalizing results ms with
  | nil =>
    rw [List.map_nil, eq_comm, List.map_eq_nil_iff] at returned
    subst returned
    exact ⟨rfl, fun _ => rfl, fun _ => rfl, rfl⟩
  | cons x calls ih =>
    cases results with
    | nil => cases returned
    | cons result results =>
      obtain ⟨first, others⟩ := List.cons.inj returned
      rw [List.flatMap_cons, List.flatMap_cons]
      exact agrees_append (accounts x List.mem_cons_self result first)
        (ih (fun y hy => accounts y (List.mem_cons_of_mem _ hy)) others (.refl _))

end Tally

/-! ### Calls one after the other -/

namespace Session

/-- A call, with the session that it finds. -/
structure Turn where
  session : Session
  config : Config
  signals : Signals

/-- Calls one after the other. -/
def turns (s : Session) : List (Config × Signals) → List Turn
  | [] => []
  | (config, signals) :: rest => ⟨s, config, signals⟩ :: (s.execute config signals).2.turns rest

/-- The session after calls one after the other. -/
def afterAll (s : Session) : List (Config × Signals) → Session
  | [] => s
  | (config, signals) :: rest => (s.execute config signals).2.afterAll rest

namespace Turn

/-- The record of the call. -/
def record (x : Turn) : CallRecord := (x.session.execute x.config x.signals).1

/-- The responses that the attempts of the call have received. -/
def reads (x : Turn) : List Received :=
  match x.config.spec? x.session.settings with
  | .error _ => []
  | .ok spec =>
    let c := x.session.callOf spec x.signals
    c.readsAhead 1 ⟨x.session.now, x.session.script, x.session.jars c.variant⟩
      x.record.progress.attempt

/-- A call that no other comes in between of. -/
theorem performed (x : Turn) :
    Performed x.session.settings x.session.clock x.config x.signals x.reads x.record := by
  unfold reads record
  rw [execute_record]
  cases described : x.config.spec? x.session.settings with
  | error stop =>
    cases stop with
    | failure f =>
      rw [record_failure described]
      exact .refused described
    | escape f =>
      unfold Session.record
      rw [described]
      exact .escaped described
  | ok spec =>
    dsimp only
    rw [record_eq_run described]
    obtain ⟨k, number, runs⟩ := (Call.runs_run (x.session.callOf spec x.signals) x.session.script
      (x.session.jars (x.session.callOf spec x.signals).variant)).amid
    rw [number, Nat.add_comm]
    exact .made described runs

end Turn

theorem settings_execute (s : Session) (config : Config) (signals : Signals) :
    (s.execute config signals).2.settings = s.settings := rfl

theorem clock_execute (s : Session) (config : Config) (signals : Signals) :
    (s.execute config signals).2.clock = s.clock := rfl

/-- Neither the settings nor the clock of a host change with calls. -/
theorem host_turn {s : Session} {calls : List (Config × Signals)} : ∀ x ∈ s.turns calls,
    x.session.settings = s.settings ∧ x.session.clock = s.clock := by
  induction calls generalizing s with
  | nil =>
    intro x hx
    cases hx
  | cons call rest ih =>
    intro x hx
    rcases List.mem_cons.1 hx with rfl | hx
    · exact ⟨rfl, rfl⟩
    · obtain ⟨settings, clock⟩ := ih x hx
      exact ⟨settings.trans (s.settings_execute call.1 call.2),
        clock.trans (s.clock_execute call.1 call.2)⟩

theorem performed_turns {s : Session} {calls : List (Config × Signals)} :
    ∀ y ∈ (s.turns calls).map fun x => (x.reads, x.record),
      ∃ config signals, Performed s.settings s.clock config signals y.1 y.2 := by
  intro y hy
  obtain ⟨x, hx, rfl⟩ := List.mem_map.1 hy
  have performed := x.performed
  rw [(host_turn x hx).1, (host_turn x hx).2] at performed
  exact ⟨x.config, x.signals, performed⟩

theorem tally_afterAll (s : Session) (calls : List (Config × Signals)) :
    (s.afterAll calls).tally =
      s.tally.addAll ((s.turns calls).flatMap fun x => x.record.trace.measurements) := by
  induction calls generalizing s with
  | nil => rfl
  | cons call rest ih =>
    show ((s.execute call.1 call.2).2.afterAll rest).tally = _
    rw [ih]
    show ((s.tally.addAll _).addAll _) = _
    unfold Tally.addAll
    rw [← List.foldl_append]
    rfl

/-- **The counts agree with the results**, from nothing counted on. That holds of calls one after
the other, and of calls that overlap, whatever the order in which their measurements come: as
many calls are counted as have returned, for each class as many failures as results have it, for
each status as many responses as attempts have received with it, and the bytes that were kept of
those. A response is received where its body is read and its stream is then closed. -/
theorem tally_agrees (host : Settings) (clock : Clock) :
    (∀ (c : Call) i s x, c.read? i s = some x ↔ c.Receives i s x) ∧
    (∀ script calls results,
      ((start host script clock).turns calls).map (fun x => x.record.outcome) =
        results.map .returned →
      ((start host script clock).afterAll calls).tally.Agrees results
        (((start host script clock).turns calls).flatMap Turn.reads)) ∧
    ∀ (calls : List (List Received × CallRecord)) results ms,
      (∀ x ∈ calls, ∃ config signals, Performed host clock config signals x.1 x.2) →
      calls.map (fun x => x.2.outcome) = results.map .returned →
      ms.Perm (calls.flatMap fun x => x.2.trace.measurements) →
      (Tally.empty.addAll ms).Agrees results (calls.flatMap Prod.fst) := by
  have overlapping : ∀ (calls : List (List Received × CallRecord)) results ms,
      (∀ x ∈ calls, ∃ config signals, Performed host clock config signals x.1 x.2) →
      calls.map (fun x => x.2.outcome) = results.map .returned →
      ms.Perm (calls.flatMap fun x => x.2.trace.measurements) →
      (Tally.empty.addAll ms).Agrees results (calls.flatMap Prod.fst) := by
    intro calls results ms performed returned perm
    refine Tally.agrees_of_accounts (fun x hx result hr => ?_) returned perm
    obtain ⟨config, signals, h⟩ := performed x hx
    exact h.accounts hr
  refine ⟨fun _ _ _ _ => Call.read?_eq_some_iff, fun script calls results returned => ?_,
    overlapping⟩
  -- Calls one after the other are calls that do not overlap.
  have h := overlapping (((start host script clock).turns calls).map fun x => (x.reads, x.record))
    results (((start host script clock).turns calls).flatMap fun x => x.record.trace.measurements)
    performed_turns (by rw [List.map_map]; exact returned) (by rw [List.flatMap_map])
  rw [List.flatMap_map] at h
  rw [tally_afterAll]
  exact h

/-- A configuration that is refused, and behind it a call of which one attempt is refused; once in
turn, and once with their measurements the other way round. -/
theorem tally_agrees_refusingOnce :
    let calls := [(Config.unsupported "int", Signals.none),
      (.spec (.bare ⟨"http://h/", by decide, by decide⟩), .none)]
    let turns := (start .usual .refusingOnce .stopped).turns calls
    ∃ results, turns.map (fun x => x.record.outcome) = results.map .returned ∧
      ((start .usual .refusingOnce .stopped).afterAll calls).tally.Agrees results
        (turns.flatMap Turn.reads) ∧
      (Tally.empty.addAll (turns.flatMap fun x => x.record.trace.measurements).reverse).Agrees
        results (turns.flatMap Turn.reads) := by
  intro calls turns
  have second : ∃ result,
      (((start .usual .refusingOnce .stopped).execute (.unsupported "int") .none).2.record
        (.spec (.bare ⟨"http://h/", by decide, by decide⟩)) .none).outcome = .returned result :=
    (Call.runs_run _ _ _).returned rfl Script.refusingOnce_statusesFrom Script.refusingOnce_avoids
  obtain ⟨result, hr⟩ := second
  have returned : turns.map (fun x => x.record.outcome) =
      [Result.ofError "Unsupported request configuration type: int" .configuration
        (some (Fault.ofKind "ConfigurationError"
          (some "Unsupported request configuration type: int"))) (Nanos.toMillis 0) 0,
        result].map .returned := by
    show [_, _] = [_, _]
    rw [← hr]
    rfl
  have overlapping := (tally_agrees .usual .stopped).2.2 (turns.map fun x => (x.reads, x.record)) _
    (turns.flatMap fun x => x.record.trace.measurements).reverse
    performed_turns (by rw [List.map_map]; exact returned)
    (by rw [List.flatMap_map]; exact List.reverse_perm _)
  rw [List.flatMap_map] at overlapping
  exact ⟨_, returned, (tally_agrees .usual .stopped).2.1 .refusingOnce calls _ returned,
    overlapping⟩

end Session

/-! ### Bodies that are read, but not received -/

/-- A body, read to its end or until as many bytes have come in as are kept at most, whatever
becomes of its stream. -/
def Client.readOut (c : Client) (r : Reply) (now : Nanos) : Course AttemptEnd :=
  (c.takeBody (c.limit ≤ ·) r now).andThen fun now bytes => .done now (.ok ⟨r, bytes.take c.limit⟩)

/-- The response whose body an attempt has read, to its end or to the limit, before the attempt is
broken off. -/
def Call.readOut? (c : Call) (i : Nat) (s : Surroundings) : Option Received :=
  match Wire.Outgoing.ofSpec c.spec with
  | .error _ => none
  | .ok o =>
    match c.startEvent i o, o.toMessage with
    | .ok _, .ok m =>
      if c.signals.caller = .preset then none
      else ((c.requestsIn s m).andThen fun arrival r => (c.client s.now).readOut r arrival).heard?
        s.now (c.client s.now).deadline c.late c.signals
    | _, _ => none

namespace Session

/-- The responses whose bodies the attempts of the call have read, to their ends or to the limit. -/
def Turn.readsOut (x : Turn) : List Received :=
  match x.config.spec? x.session.settings with
  | .error _ => []
  | .ok spec =>
    let c := x.session.callOf spec x.signals
    (List.range x.record.progress.attempt).filterMap fun j =>
      c.readOut? (1 + j)
        (c.before 1 ⟨x.session.now, x.session.script, x.session.jars c.variant⟩ j)

/-- A host that keeps as little of a body as a host can. -/
def sparing : Settings := { Settings.usual with bufferLimit := ⟨1024, by decide⟩ }

/-- A transport that gives each body in one piece, and goes wrong where its stream is closed. -/
def unclosed : Script :=
  ⟨[], ⟨0, .reply (.ofStream 200 none .empty (fun _ => [.bytes (Wire.Fields.asciiName "a")])
    (.ends 0 (some (Fault.ofKind "CloseError" none))))⟩⟩

/-- A transport that goes wrong behind more bytes of a body than are kept, and before a chunk of
it is full. -/
def overlong : Script :=
  ⟨[], ⟨0, .reply (.ofStream 200 none .empty
    (fun _ => [.bytes (List.replicate 1025 0x61), .fault (Fault.ofKind "CloseError" none)])
    .atOnce)⟩⟩

/-- A call for a page. -/
def glance : List (Config × Signals) := [(.spec .home, .none)]

/-- The call returns after its only attempt, which has read a body and has received nothing. -/
theorem glance_turns {script : Script} (h : script = unclosed ∨ script = overlong) :
    ∃ x result, (start sparing script .stopped).turns glance = [x] ∧
      x.record.outcome = .returned result ∧ x.reads = [] ∧ x.readsOut.map (fun r => r.reply.status) = [200] := by
  let c : Call := (start sparing script .stopped).callOf .home .none
  let w : Surroundings := ⟨0, script, []⟩
  let x : Turn := ⟨start sparing script .stopped, .spec .home, .none⟩
  have inside : Call.through? (c.attempt 1 w).value = none := by
    rcases h with rfl | rfl <;> decide +kernel
  have last : AttemptEnd.retries c.policy (c.attempt 1 w).value 1 = false := by
    rcases h with rfl | rfl <;> decide +kernel
  have failed : (c.attempt 1 w).value.toOption.isNone = true := by
    rcases h with rfl | rfl <;> decide +kernel
  have unheard : (c.read? 1 w).isNone = true := by
    rcases h with rfl | rfl <;> decide +kernel
  have read : (c.readOut? 1 w).map (fun r => r.reply.status) = some 200 := by
    rcases h with rfl | rfl <;> decide +kernel
  obtain ⟨f, failed⟩ : ∃ f, (c.attempt 1 w).value = .error f := by
    cases ending : (c.attempt 1 w).value with
    | error f => exact ⟨f, rfl⟩
    | ok r =>
      rw [ending] at failed
      cases failed
  have ran : x.record = _ := (Call.Runs.concludes inside last).eq_run.symm
  rw [failed, Call.conclude_error] at ran
  have number : x.record.progress.attempt = 1 := by
    rw [ran]
    rfl
  refine ⟨x, _, rfl, by rw [ran]; rfl, ?_, ?_⟩
  · show c.readsAhead 1 w x.record.progress.attempt = []
    rw [number, Call.readsAhead_succ, Option.isNone_iff_eq_none.1 unheard]
    rfl
  · obtain ⟨r, read, status⟩ := Option.map_eq_some_iff.1 read
    have one : ([0].filterMap fun j => c.readOut? (1 + j) (c.before 1 w j)) = [r] :=
      List.filterMap_cons_some read
    show ((List.range x.record.progress.attempt).filterMap fun j =>
      c.readOut? (1 + j) (c.before 1 w j)).map _ = [200]
    rw [number]
    show (([0].filterMap fun j => c.readOut? (1 + j) (c.before 1 w j)).map _) = [200]
    rw [one, List.map_singleton, status]

/-- The counts of calls for that page do not agree with the bodies that they have read. -/
def Miscounts (script : Script) : Prop :=
  ∃ results,
    ((start sparing script .stopped).turns glance).map (fun x => x.record.outcome) =
      results.map .returned ∧
    ¬((start sparing script .stopped).afterAll glance).tally.Agrees results
      (((start sparing script .stopped).turns glance).flatMap Turn.readsOut)

theorem miscounts_of_failing {script : Script} (h : script = unclosed ∨ script = overlong) :
    Miscounts script := by
  obtain ⟨x, result, turns_eq, returned, unread, out⟩ := glance_turns h
  refine ⟨[result], by rw [turns_eq, List.map_singleton, returned]; rfl, fun agrees => ?_⟩
  have counted :
      Tally.countOf ((start sparing script .stopped).afterAll glance).tally.requests 200 = 0 := by
    rw [tally_afterAll, turns_eq, List.flatMap_singleton, Tally.requests_addAll,
      (x.performed.accounts returned).sum_responses, unread]
    rfl
  have listed : (x.readsOut.countP fun r => (r.reply.status : Int) = 200) = 1 := by
    have same : (fun r : Received => decide ((r.reply.status : Int) = 200)) =
        (fun n : Nat => decide ((n : Int) = 200)) ∘ fun r => r.reply.status := rfl
    rw [same, ← List.countP_map, out]
    rfl
  have claimed := agrees.requests 200
  rw [turns_eq, List.flatMap_singleton, counted, listed] at claimed
  cases claimed

/-- A body that is read, to its end or beyond the limit, is not counted where its stream is not
closed without a fault, nor where a fault comes before a chunk of it is full. -/
theorem not_tally_agrees : Miscounts unclosed ∧ Miscounts overlong :=
  ⟨miscounts_of_failing (.inl rfl), miscounts_of_failing (.inr rfl)⟩

end Session

end HttpCourier
