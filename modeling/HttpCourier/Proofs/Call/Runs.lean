import HttpCourier.Call.Attempts
import HttpCourier.Proofs.Call.Attempt

/-!
# HttpCourier.Proofs.Call.Runs

**The attempts of a call, as a relation.** `Call.Runs c i s r` says that the attempts from number
`i` on, in the surroundings `s`, make up the record `r`. It has one constructor for each way in
which an attempt can be left: its fault goes through, its ending is the end of the call, the wait
behind it is interrupted, or the wait leads to the next attempt. What holds of all attempts is
proved by induction on it.

The relation is the recursion `Call.attemptsFrom` (`runs_attemptsFrom`, `Runs.eq_attemptsFrom`).
The moves between states need no thought behind that point: the loop makes none that is not
allowed, so that the state is known at each step.
-/

namespace HttpCourier

theorem Result.isSuccessStatus_iff {n : Nat} : isSuccessStatus n = true ↔ 200 ≤ n ∧ n < 300 := by
  show (decide ((200 : Int) ≤ n) && decide ((n : Int) < 300)) = true ↔ _
  rw [Bool.and_eq_true, decide_eq_true_iff, decide_eq_true_iff]
  omega

/-! ### The moves of the loop -/

/-- The call can begin its attempt of the given number. -/
structure Progress.Ready (number : Nat) (p : Progress) : Prop where
  movable : p.canMove .attempting = true
  number_eq : p.attempt + 1 = number

theorem Progress.ready_start : start.Ready 1 := ⟨by decide, rfl⟩

theorem Progress.ready_retrying (i : Nat) : Progress.Ready (i + 1) ⟨.retrying, i⟩ :=
  ⟨rfl, rfl⟩

theorem Progress.move_of_ready {p : Progress} {i : Nat} (h : p.Ready i) :
    p.move .attempting = .ok ⟨.attempting, i⟩ := by
  obtain ⟨hm, rfl⟩ := h
  unfold move
  rw [hm]
  rfl

theorem AttemptEnd.finalState_cases (p : Policy) (e : AttemptEnd) :
    e.finalState p = .completed ∨ e.finalState p = .exhausted ∨ e.finalState p = .failed ∨
      e.finalState p = .cancelled := by
  unfold finalState
  split
  · split
    · exact .inr (.inl rfl)
    · exact .inl rfl
  · split
    · exact .inr (.inr (.inr rfl))
    · exact .inr (.inr (.inl rfl))
    · split
      · exact .inr (.inl rfl)
      · exact .inr (.inr (.inl rfl))

/-- The state in which an attempt ends a call can follow on the attempt. -/
theorem AttemptEnd.move_finalState (p : Policy) (e : AttemptEnd) (i : Nat) :
    Progress.move ⟨.attempting, i⟩ (e.finalState p) = .ok ⟨e.finalState p, i⟩ := by
  rcases e.finalState_cases p with h | h | h | h <;> rw [h] <;> rfl

/-- The call does not leave the state in which an attempt has ended it. -/
theorem AttemptEnd.move_of_finalState (p : Policy) (e : AttemptEnd) (i : Nat)
    (target : AttemptState) :
    Progress.move ⟨e.finalState p, i⟩ target = .error ⟨e.finalState p, target⟩ := by
  rcases e.finalState_cases p with h | h | h | h <;> rw [h] <;> rfl

namespace Call

/-! ### The relation -/

/-- What an attempt does, together with the events of its ending. -/
def attemptTrace (c : Call) (i : Nat) (s : Surroundings) : Trace :=
  (c.attempt i s).trace ++
    Trace.logging (c.attempt i s).time (c.endEvents i (c.attempt i s).time (c.attempt i s).value)

theorem after_after (t u : Trace) (r : CallRecord) :
    CallRecord.after t (.after u r) = .after (t ++ u) r := by
  simp [CallRecord.after]

/-- The attempts from number `i` on make up a record. -/
inductive Runs (c : Call) : Nat → Surroundings → CallRecord → Prop
  /-- The fault of the attempt goes through. -/
  | passes {i s f} (through : through? (c.attempt i s).value = some f) :
      Runs c i s (.after (c.attemptTrace i s) (escape (c.attempt i s).time ⟨.attempting, i⟩ f))
  /-- The ending of the attempt is that of the call. -/
  | concludes {i s} (inside : through? (c.attempt i s).value = none)
      (last : AttemptEnd.retries c.policy (c.attempt i s).value i = false) :
      Runs c i s (.after (c.attemptTrace i s)
        (c.conclude (c.attempt i s).time ⟨.attempting, i⟩ (c.attempt i s).value))
  /-- The wait behind the attempt is interrupted. -/
  | halts {i s time j} (inside : through? (c.attempt i s).value = none)
      (more : AttemptEnd.retries c.policy (c.attempt i s).value i = true)
      (wait : c.signals.wait i (c.attempt i s).time (c.policy.delayAfter i) = (time, some j)) :
      Runs c i s (.after (c.attemptTrace i s) (.after (c.retryTrace i (c.attempt i s))
        (c.interrupted time ⟨.retrying, i⟩ j)))
  /-- The wait behind the attempt leads to the next one. -/
  | again {i s time r} (inside : through? (c.attempt i s).value = none)
      (more : AttemptEnd.retries c.policy (c.attempt i s).value i = true)
      (wait : c.signals.wait i (c.attempt i s).time (c.policy.delayAfter i) = (time, none))
      (rest : Runs c (i + 1) (s.after c.variant (c.attempt i s).trace time) r) :
      Runs c i s (.after (c.attemptTrace i s) (.after (c.retryTrace i (c.attempt i s)) r))

variable {c : Call} {i : Nat} {s : Surroundings}

/-- The loop, where its state is one from which an attempt can begin. -/
theorem attemptsFrom_eq {p : Progress} (hp : p.Ready i) (s : Surroundings) :
    c.attemptsFrom p s = .after (c.attemptTrace i s)
      (match through? (c.attempt i s).value with
      | some f => escape (c.attempt i s).time ⟨.attempting, i⟩ f
      | none =>
        if AttemptEnd.retries c.policy (c.attempt i s).value i = true then
          .after (c.retryTrace i (c.attempt i s))
            (match c.signals.wait i (c.attempt i s).time (c.policy.delayAfter i) with
            | (time, some j) => c.interrupted time ⟨.retrying, i⟩ j
            | (time, none) =>
              c.attemptsFrom ⟨.retrying, i⟩ (s.after c.variant (c.attempt i s).trace time))
        else c.conclude (c.attempt i s).time ⟨.attempting, i⟩ (c.attempt i s).value) := by
  have hq := Progress.move_of_ready hp
  rw [attemptsFrom]
  split
  · next h =>
    rw [hq] at h
    cases h
  · next q h =>
    -- The move behind the attempt is from `attempting`, and computes.
    rw [hq] at h
    cases h
    rfl

/-- The recursion satisfies the relation. -/
theorem runs_attemptsFrom (c : Call) (i : Nat) (s : Surroundings) {p : Progress}
    (hp : p.Ready i) : c.Runs i s (c.attemptsFrom p s) := by
  -- Another attempt is made only while its number is below the policy's bound.
  induction h : c.policy.maxAttempts - i using Nat.strongRecOn generalizing i s p with
  | _ left ih =>
    rw [attemptsFrom_eq hp]
    cases hf : through? (c.attempt i s).value with
    | some f => exact .passes hf
    | none =>
      dsimp only
      by_cases hm : AttemptEnd.retries c.policy (c.attempt i s).value i = true
      · rw [if_pos hm]
        split
        · next hw => exact .halts hf hm hw
        · next hw =>
          have hlt := AttemptEnd.lt_of_retries hm
          exact .again hf hm hw (ih _ (by omega) _ _ (Progress.ready_retrying i) rfl)
      · rw [if_neg hm]
        exact .concludes hf (Bool.eq_false_iff.2 hm)

/-- The relation leaves no choice. -/
theorem Runs.eq_attemptsFrom {r : CallRecord} (h : c.Runs i s r) {p : Progress}
    (hp : p.Ready i) : r = c.attemptsFrom p s := by
  induction h generalizing p with
  | passes hf => rw [attemptsFrom_eq hp, hf]
  | concludes hf hm => rw [attemptsFrom_eq hp, hf, hm]; rfl
  | halts hf hm hw => rw [attemptsFrom_eq hp, hf, hm, hw]; rfl
  | again hf hm hw _ ih =>
    rw [attemptsFrom_eq hp, hf, hm, hw, ih (Progress.ready_retrying _)]
    rfl

/-- **A call is a run of its attempts** from the first one on. -/
theorem runs_run (c : Call) (script : Script) (jar : Cookie.Jar) :
    c.Runs 1 ⟨c.start, script, jar⟩ (c.run script jar) :=
  c.runs_attemptsFrom 1 _ Progress.ready_start

theorem Runs.eq_run {script : Script} {jar : Cookie.Jar} {r : CallRecord}
    (h : c.Runs 1 ⟨c.start, script, jar⟩ r) : r = c.run script jar :=
  h.eq_attemptsFrom Progress.ready_start

/-! ### The end of a run -/

/-- The result of a call that ends with its attempt of the given number. -/
def resultOf (c : Call) (i : Nat) (now : Nanos) : AttemptEnd → Result
  | .ok r => Result.ofReceived r (c.elapsedMs now) (i - 1)
  | .error f =>
    Result.ofError (f.callMessage c.spec.timeout.seconds) f.callClass (some f) (c.elapsedMs now)
      (i - 1)

theorem resultOf_retryAttempts (c : Call) (i : Nat) (now : Nanos) (e : AttemptEnd) :
    (c.resultOf i now e).retryAttempts = i - 1 := by
  cases e <;> rfl

theorem fail_outcome (now : Nanos) (p : Progress) (f : Fault) :
    (c.fail now p f).outcome = .returned (c.resultOf p.attempt now (.error f)) := rfl

theorem interrupted_byCaller (now : Nanos) :
    c.interrupted now ⟨.retrying, i⟩ .byCaller = c.fail now ⟨.cancelled, i⟩ Fault.cancelled := rfl

theorem conclude_error (now : Nanos) (f : Fault) :
    c.conclude now ⟨.attempting, i⟩ (.error f) =
      c.fail now ⟨AttemptEnd.finalState c.policy (.error f), i⟩ f := by
  unfold conclude failIn
  rw [AttemptEnd.move_finalState]

theorem conclude_ok (now : Nanos) (r : Received) :
    c.conclude now ⟨.attempting, i⟩ (.ok r) =
      c.finish now ⟨AttemptEnd.finalState c.policy (.ok r), i⟩ r := by
  unfold conclude
  rw [AttemptEnd.move_finalState]

/-- A response with a status makes a coherent result. -/
theorem isCoherent_ofReceived {r : Received} (h : r.reply.status ≠ 0) (elapsed : Binary64)
    (n : Nat) : (Result.ofReceived r elapsed n).isCoherent = true := by
  show (r.reply.status != 0 || _) = true
  rw [bne_iff_ne.2 h, Bool.true_or]

theorem conclude_outcome {e : AttemptEnd} (now : Nanos)
    (h : ∀ r, e = .ok r → r.reply.status ≠ 0) :
    (c.conclude now ⟨.attempting, i⟩ e).outcome = .returned (c.resultOf i now e) := by
  cases e with
  | error f =>
    rw [conclude_error]
    rfl
  | ok r =>
    rw [conclude_ok]
    unfold finish
    dsimp only
    rw [if_pos (isCoherent_ofReceived (h r rfl) _ _)]
    rfl

theorem failIn_time (now : Nanos) (p : Progress) (state : AttemptState) (f : Fault) :
    (c.failIn now p state f).time = now := by
  unfold failIn
  split <;> rfl

theorem interrupted_time (c : Call) (now : Nanos) (p : Progress) (j : Interruption) :
    (c.interrupted now p j).time = now := by
  cases j with
  | byTask => rfl
  | byCaller => exact c.failIn_time _ _ _ _

theorem conclude_time (now : Nanos) (e : AttemptEnd) :
    (c.conclude now ⟨.attempting, i⟩ e).time = now := by
  cases e with
  | error f =>
    rw [conclude_error]
    rfl
  | ok r =>
    rw [conclude_ok]
    unfold finish
    dsimp only [CallRecord.after]
    split
    · rfl
    · exact c.failIn_time _ _ _ _

/-- A call that ends with an attempt is in the state of its ending. -/
theorem conclude_progress (c : Call) (now : Nanos) (e : AttemptEnd) :
    (c.conclude now ⟨.attempting, i⟩ e).progress = ⟨e.finalState c.policy, i⟩ := by
  cases e with
  | error f =>
    rw [conclude_error]
    rfl
  | ok r =>
    rw [conclude_ok]
    unfold finish
    dsimp only [CallRecord.after]
    split
    · rfl
    · unfold failIn
      rw [AttemptEnd.move_of_finalState]
      rfl

/-- The end of a call leaves the number of its attempts as it is. -/
theorem conclude_attempt (now : Nanos) (e : AttemptEnd) :
    (c.conclude now ⟨.attempting, i⟩ e).progress.attempt = i := by
  rw [conclude_progress]

/-! ### What goes out -/

end Call

namespace Trace

@[simp] theorem sent_nil : sent [] = [] := rfl

@[simp] theorem sent_append (t u : Trace) : (t ++ u).sent = t.sent ++ u.sent :=
  List.filterMap_append

@[simp] theorem sent_logging (time : Nanos) (events : List Log.Event) :
    (logging time events).sent = [] := by
  unfold sent logging
  rw [List.filterMap_map]
  exact List.filterMap_eq_nil_iff.2 fun _ _ => rfl

@[simp] theorem sent_measuring (time : Nanos) (measurements : List Measurement) :
    (measuring time measurements).sent = [] := by
  unfold sent measuring
  rw [List.filterMap_map]
  exact List.filterMap_eq_nil_iff.2 fun _ _ => rfl

/-- A request goes out at the time of its moment. -/
theorem mem_of_mem_sent {t : Trace} {x : Nanos × Wire.Message} (h : x ∈ t.sent) :
    ⟨x.1, .sent x.2⟩ ∈ t := by
  obtain ⟨⟨time, effect⟩, hm, hx⟩ := List.mem_filterMap.1 h
  cases effect with
  | sent m =>
    cases hx
    exact hm
  | _ => cases hx

end Trace

namespace Call

variable {c : Call} {i : Nat} {s : Surroundings}

@[simp] theorem sent_attemptTrace (c : Call) (i : Nat) (s : Surroundings) :
    (c.attemptTrace i s).sent = (c.attempt i s).trace.sent := by
  simp [attemptTrace]

@[simp] theorem sent_retryTrace (c : Call) (i : Nat) (a : Stretch AttemptEnd) :
    (c.retryTrace i a).sent = [] := by
  simp [retryTrace]

@[simp] theorem sent_fail (c : Call) (now : Nanos) (p : Progress) (f : Fault) :
    (c.fail now p f).trace.sent = [] := by
  simp [fail]

@[simp] theorem sent_failIn (c : Call) (now : Nanos) (p : Progress) (state : AttemptState)
    (f : Fault) : (c.failIn now p state f).trace.sent = [] := by
  unfold failIn
  split
  · rfl
  · exact c.sent_fail _ _ _

@[simp] theorem sent_conclude (c : Call) (i : Nat) (now : Nanos) (e : AttemptEnd) :
    (c.conclude now ⟨.attempting, i⟩ e).trace.sent = [] := by
  cases e with
  | error f =>
    rw [conclude_error]
    exact c.sent_fail _ _ _
  | ok r =>
    rw [conclude_ok]
    unfold finish
    dsimp only [CallRecord.after]
    split <;> simp

end Call

end HttpCourier
