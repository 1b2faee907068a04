import HttpCourier.Call.Attempt
import HttpCourier.Proofs.Transport.Course

/-!
# HttpCourier.Proofs.Call.Attempt

**What one attempt keeps to.** An attempt is a client's course under a deadline, raced against
the signals of the call. `Stretch.Keeps` is for stretches what `Course.Keeps` is for courses;
deadline and race preserve it, and add to the faults the one of a late ending and those of the
interruptions that the signals hold.

`Call.attempt_cases` says once what an attempt is: a request that cannot be built, a request
that cannot be logged, or a request that goes out.
-/

namespace HttpCourier

/-! ### Interruptions -/

/-- A caller who never cancels does not do so at any other time. -/
theorem CancelSignal.time?_startingAt_eq_none_iff {s : CancelSignal} {start : Nanos} :
    (s.startingAt start).time? = none ↔ s.time? = none := by
  cases s <;> simp [startingAt, time?]

theorem CancelSignal.startingAt_eq_absent_iff {s : CancelSignal} {start : Nanos} :
    s.startingAt start = absent ↔ s = absent := by
  cases s <;> simp [startingAt]

namespace Signals

/-- The signals hold an interruption of the kind. -/
def Hold (s : Signals) : Interruption → Prop
  | .byCaller => s.caller.time? ≠ Option.none
  | .byTask => s.task ≠ Option.none

theorem hold_of_first? {s : Signals} {time : Nanos} {i : Interruption}
    (h : s.first? = some (time, i)) : s.Hold i := by
  have task {t : Nanos} (h : s.task.bind TaskSignal.time? = some t) : s.Hold .byTask := by
    rintro none
    rw [none] at h
    cases h
  have caller {t : Nanos} (h : s.caller.time? = some t) : s.Hold .byCaller := by
    rintro none
    rw [none] at h
    cases h
  unfold first? at h
  split at h
  · next hc ht =>
    -- Both signals come at some time, and the earlier one is taken.
    split at h
    · cases h
      exact task ht
    · cases h
      exact caller hc
  · next hc _ =>
    cases h
    exact caller hc
  · next ht =>
    cases h
    exact task ht
  · cases h

theorem interrupt?_some {s : Signals} {now ending time : Nanos} {i : Interruption}
    (h : s.interrupt? now ending = some (time, i)) : now ≤ time ∧ s.Hold i := by
  unfold interrupt? at h
  split at h
  · next hf =>
    split at h
    · cases h
      exact ⟨Nat.le_max_left _ _, hold_of_first? hf⟩
    · cases h
  · cases h

theorem hold_of_haltsBehind {s : Signals} {attempt : Nat} (h : s.haltsBehind attempt = true) :
    s.Hold .byTask := by
  rintro none
  simp [haltsBehind, none] at h

theorem wait_interrupted {s : Signals} {attempt : Nat} {now delay time : Nanos} {i : Interruption}
    (h : s.wait attempt now delay = (time, some i)) : s.Hold i := by
  unfold wait at h
  split at h
  · next hi =>
    cases h
    exact (interrupt?_some hi).2
  · split at h
    · next halts =>
      cases h
      exact hold_of_haltsBehind halts
    · cases h

end Signals

/-! ### Deadlines and races -/

/-- A stretch from `now` on does nothing after its ending, and ends with a fault that satisfies
`faults` or with a value that satisfies `values`. -/
structure Stretch.Keeps (now : Nanos) (faults : Fault → Prop) (values : α → Prop)
    (a : Stretch (Except Fault α)) : Prop where
  started : now ≤ a.time
  timely : ∀ m ∈ a.trace, m.time ≤ a.time
  fault : ∀ f, a.value = .error f → faults f
  value : ∀ x, a.value = .ok x → values x

namespace Stretch

variable {now : Nanos} {faults : Fault → Prop} {values : α → Prop}

theorem Keeps.failed {trace : Trace} {t : Nanos} {f : Fault} (hn : now ≤ t)
    (ht : ∀ m ∈ trace, m.time ≤ t) (hf : faults f) :
    (⟨trace, t, .error f⟩ : Stretch (Except Fault α)).Keeps now faults values := by
  refine ⟨hn, ht, ?_, ?_⟩
  · intro f h
    cases h
    exact hf
  · intro x h
    cases h

end Stretch

namespace Trace

theorem time_le_of_mem_before {t : Trace} {time : Nanos} :
    ∀ m ∈ t.before time, m.time ≤ time := by
  intro m hm
  exact Nat.le_of_lt (of_decide_eq_true (List.mem_filter.1 hm).2)

theorem time_le_of_mem_upTo {t : Trace} {time : Nanos} : ∀ m ∈ t.upTo time, m.time ≤ time := by
  intro m hm
  exact of_decide_eq_true (List.mem_filter.1 hm).2

theorem time_eq_of_mem_logging {time : Nanos} {events : List Log.Event} :
    ∀ m ∈ logging time events, m.time = time := by
  intro m hm
  obtain ⟨e, -, rfl⟩ := List.mem_map.1 hm
  rfl

end Trace

namespace Course

variable {now deadline : Nanos} {late : Fault} {faults : Fault → Prop} {c : Course AttemptEnd}
  {values : Received → Prop}

theorem Keeps.within (hc : c.Keeps now faults values) (hd : now ≤ deadline) (hl : faults late) :
    (c.within deadline late).Keeps now faults values := by
  unfold Course.within
  split
  · next time e he =>
    split
    · obtain ⟨h₁, h₂⟩ := hc.timely time e he
      refine ⟨h₁, h₂, ?_, ?_⟩
      · intro f hf
        change e = .error f at hf
        rw [hf] at he
        exact hc.fault time f he
      · intro x hx
        change e = .ok x at hx
        rw [hx] at he
        exact hc.value time x he
    · exact .failed hd Trace.time_le_of_mem_before hl
  · exact .failed hd Trace.time_le_of_mem_before hl

theorem Keeps.race {s : Signals} (hc : c.Keeps now faults values) (hd : now ≤ deadline)
    (hl : faults late) (hi : ∀ i, s.Hold i → faults i.fault) :
    (c.race now deadline late s).Keeps now faults values := by
  unfold Course.race
  dsimp only
  split
  · next time i h =>
    obtain ⟨h₁, h₂⟩ := Signals.interrupt?_some h
    exact .failed h₁ Trace.time_le_of_mem_upTo (hi i h₂)
  · exact hc.within hd hl

end Course

/-! ### Attempts -/

namespace Call

variable (c : Call)

/-- With what faults an attempt can end that meets a script: with those of the script and of the
client, with that of its own timeout, and with those of the interruptions that the call's signals
hold. -/
def CanFail (s : Script) (f : Fault) : Prop :=
  s.CanFail f ∨ f = c.late ∨ ∃ i, c.signals.Hold i ∧ f = i.fault

theorem CanFail.of_after {c : Call} {s : Script} {n : Nat} {f : Fault}
    (h : c.CanFail (s.after n) f) : c.CanFail s f := by
  rcases h with h | h
  · exact .inl h.of_after
  · exact .inr h

theorem deadline_eq (now : Nanos) :
    (c.client now).deadline = now + Nanos.ofSeconds c.spec.timeout.seconds := rfl

/-- There is time for every attempt. -/
theorem lt_deadline (now : Nanos) : now < (c.client now).deadline :=
  Nat.lt_add_of_pos_right (Nat.mul_pos c.spec.timeout.atLeast (by decide))

/-- **What an attempt is.** -/
theorem attempt_cases (number : Nat) (s : Surroundings) :
    (∃ f, Wire.Outgoing.ofSpec c.spec = .error f ∧
      c.attempt number s = ⟨[], s.now, .error (Fault.ofBuild f)⟩) ∨
    (∃ o name, Wire.Outgoing.ofSpec c.spec = .ok o ∧ c.startEvent number o = .error name ∧
      c.attempt number s = ⟨[], s.now, .error (Fault.lostField name)⟩) ∨
    ∃ o e, Wire.Outgoing.ofSpec c.spec = .ok o ∧ c.startEvent number o = .ok e ∧
      c.attempt number s =
        ⟨Trace.logging s.now [e] ++ (c.transmit o s).trace, (c.transmit o s).time,
          (c.transmit o s).value⟩ := by
  unfold attempt
  cases Wire.Outgoing.ofSpec c.spec with
  | error f => exact .inl ⟨f, rfl, rfl⟩
  | ok o =>
    dsimp only
    cases hs : c.startEvent number o with
    | error name => exact .inr (.inl ⟨o, name, rfl, hs, rfl⟩)
    | ok e => exact .inr (.inr ⟨o, e, rfl, hs, rfl⟩)

theorem sending_keeps (o : Wire.Outgoing) (s : Surroundings) :
    (c.sending o s).Keeps s.now (c.CanFail s.script) fun r => s.script.CanAnswer r.reply := by
  unfold sending
  split
  · next f _ =>
    exact .failed (Nat.le_refl _) Trace.time_le_of_mem_nil
      (.inl (.inl (Fault.isOfClient_ofMessage f)))
  · exact (Client.send_keeps _ _ _ _ _).mono (fun _ => .inl) fun _ => id

theorem transmit_keeps (o : Wire.Outgoing) (s : Surroundings) :
    (c.transmit o s).Keeps s.now (c.CanFail s.script) fun r => s.script.CanAnswer r.reply := by
  unfold transmit
  split
  · next h =>
    refine .failed (Nat.le_refl _) Trace.time_le_of_mem_nil (.inr (.inr ⟨.byCaller, ?_, rfl⟩))
    show c.signals.caller.time? ≠ none
    rw [h]
    exact Option.some_ne_none _
  · exact (c.sending_keeps o s).race (Nat.le_of_lt (c.lt_deadline s.now)) (.inr (.inl rfl))
      fun i hi => .inr (.inr ⟨i, hi, rfl⟩)

/-- **What an attempt keeps to.** -/
theorem attempt_keeps (number : Nat) (s : Surroundings) :
    (c.attempt number s).Keeps s.now (c.CanFail s.script) fun r => s.script.CanAnswer r.reply := by
  rcases c.attempt_cases number s with ⟨f, -, h⟩ | ⟨o, name, -, -, h⟩ | ⟨o, e, -, -, h⟩
  · rw [h]
    exact .failed (Nat.le_refl _) Trace.time_le_of_mem_nil
      (.inl (.inl (Fault.isOfClient_ofBuild f)))
  · rw [h]
    exact .failed (Nat.le_refl _) Trace.time_le_of_mem_nil
      (.inl (.inl (Fault.isOfClient_lostField name)))
  · have hk := c.transmit_keeps o s
    rw [h]
    refine ⟨hk.started, ?_, hk.fault, hk.value⟩
    intro m hm
    rcases List.mem_append.1 hm with hm | hm
    · rw [Trace.time_eq_of_mem_logging m hm]
      exact hk.started
    · exact hk.timely m hm

end Call

end HttpCourier
