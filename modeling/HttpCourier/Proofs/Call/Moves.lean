import HttpCourier.Proofs.Call.Extent

/-!
# HttpCourier.Proofs.Call.Moves

**The moves of a call.** The loop asks for a move in front of each attempt and behind it, in the
wait, and once more where the result of a response turns out not to be coherent. `Call.movesFrom`
lists what it asks for, in order. The list leads to the state of the call's record, and the first
move in it that is not allowed would end the call with a fault of its own (`Runs.makes`). As no such
fault goes through a run whose responses have a status (`Runs.escaped_family`), all of them are
allowed.

In which state a call ends is decided by the ending of its last attempt, unless the call is
cancelled (`Call.Settles`).
-/

namespace HttpCourier

/-! ### What a call asks for -/

namespace Call

/-- The moves with which a call ends with the ending of its last attempt. The last state is not left
again, unless the result of a response is not coherent. -/
def concludingMoves (c : Call) (now : Nanos) (p : Progress) (e : AttemptEnd) :
    List AttemptState :=
  e.finalState c.policy ::
    match e, p.move (e.finalState c.policy) with
    | .ok received, .ok q =>
      if (Result.ofReceived received (c.elapsedMs now) q.retries).isCoherent then [] else [.failed]
    | _, _ => []

/-- The moves with which a call ends that is interrupted while it waits. -/
def haltingMoves : Interruption → List AttemptState
  | .byTask => []
  | .byCaller => [.cancelled]

/-- The moves that the loop asks for from `p` on. -/
def movesFrom (c : Call) (p : Progress) (s : Surroundings) : List AttemptState :=
  .attempting ::
    match _begun : p.move .attempting with
    | .error _ => []
    | .ok q =>
      let a := c.attempt q.attempt s
      match through? a.value with
      | some _ => []
      | none =>
        if _more : AttemptEnd.retries c.policy a.value q.attempt = true then
          .retrying ::
            match _halted : q.move .retrying with
            | .error _ => []
            | .ok r =>
              match c.signals.wait q.attempt a.time (c.policy.delayAfter q.attempt) with
              | (_, some i) => haltingMoves i
              | (time, none) => movesFrom c r (s.after c.variant a.trace time)
        else c.concludingMoves a.time q a.value
termination_by c.policy.maxAttempts - p.attempt
decreasing_by
  have h₁ := Progress.attempt_of_move_attempting _begun
  have h₂ := Progress.attempt_of_move_retrying _halted
  have h₃ := AttemptEnd.lt_of_retries _more
  omega

variable {c : Call} {i : Nat} {s : Surroundings} {p q : Progress} {r : CallRecord}

theorem movesFrom_eq (hp : p.Ready i) (s : Surroundings) :
    c.movesFrom p s = .attempting ::
      (match through? (c.attempt i s).value with
      | some _ => []
      | none =>
        if AttemptEnd.retries c.policy (c.attempt i s).value i = true then
          .retrying ::
            (match c.signals.wait i (c.attempt i s).time (c.policy.delayAfter i) with
            | (_, some j) => haltingMoves j
            | (time, none) =>
              c.movesFrom ⟨.retrying, i⟩ (s.after c.variant (c.attempt i s).trace time))
        else c.concludingMoves (c.attempt i s).time ⟨.attempting, i⟩ (c.attempt i s).value) := by
  have hq := Progress.move_of_ready hp
  rw [movesFrom]
  split
  · next h =>
    rw [hq] at h
    cases h
  · next q h =>
    rw [hq] at h
    cases h
    rfl

/-! ### The moves are made -/

/-- The record is that of the moves, made one after the other from `p` on: they lead to its state,
or the first of them that is not allowed is the fault that goes through. -/
def Makes (p : Progress) (moves : List AttemptState) (r : CallRecord) : Prop :=
  match moves.foldlM Progress.move p with
  | .ok q => r.progress = q
  | .error m => r.outcome = .escaped (Fault.ofMove m)

namespace Makes

variable {state : AttemptState} {moves : List AttemptState}

theorem nil (h : r.progress = p) : Makes p [] r := h

theorem cons (move : p.move state = .ok q) (h : Makes q moves r) : Makes p (state :: moves) r := by
  unfold Makes
  rw [List.foldlM_cons, move]
  exact h

theorem refused {m : IllegalMove} (move : p.move state = .error m)
    (h : r.outcome = .escaped (Fault.ofMove m)) : Makes p (state :: moves) r := by
  unfold Makes
  rw [List.foldlM_cons, move]
  exact h

theorem after (t : Trace) (h : Makes p moves r) : Makes p moves (.after t r) := h

end Makes

theorem makes_failIn (c : Call) (now : Nanos) (p : Progress) (state : AttemptState) (f : Fault) :
    Makes p [state] (c.failIn now p state f) := by
  unfold failIn
  cases move : p.move state with
  | error m => exact .refused move rfl
  | ok q => exact .cons move (.nil rfl)

theorem makes_conclude (c : Call) (now : Nanos) (p : Progress) (e : AttemptEnd) :
    Makes p (c.concludingMoves now p e) (c.conclude now p e) := by
  unfold concludingMoves conclude
  cases e with
  | error f => exact c.makes_failIn _ _ _ _
  | ok received =>
    dsimp only
    cases move : p.move (AttemptEnd.finalState c.policy (.ok received)) with
    | error m => exact .refused move rfl
    | ok q =>
      refine .cons move ?_
      unfold finish
      dsimp only
      refine .after _ ?_
      split
      · exact .nil rfl
      · exact .after _ (c.makes_failIn _ _ _ _)

theorem makes_interrupted (c : Call) (now : Nanos) (p : Progress) (j : Interruption) :
    Makes p (haltingMoves j) (c.interrupted now p j) := by
  cases j with
  | byTask => exact .nil rfl
  | byCaller => exact c.makes_failIn _ _ _ _

/-- **A run makes the moves that its loop asks for**, up to the first one that is not allowed. -/
theorem Runs.makes (h : c.Runs i s r) (hp : p.Ready i) : Makes p (c.movesFrom p s) r := by
  induction h generalizing p with
  | passes through =>
    rw [movesFrom_eq hp, through]
    exact .cons (Progress.move_of_ready hp) (.nil rfl)
  | concludes inside last =>
    rw [movesFrom_eq hp, inside, last]
    exact .cons (Progress.move_of_ready hp) (.after _ (c.makes_conclude _ _ _))
  | halts inside more wait =>
    rw [movesFrom_eq hp, inside, more, wait]
    exact .cons (Progress.move_of_ready hp)
      (.after _ (.cons rfl (.after _ (c.makes_interrupted _ _ _))))
  | again inside more wait _ ih =>
    rw [movesFrom_eq hp, inside, more, wait]
    exact .cons (Progress.move_of_ready hp)
      (.after _ (.cons rfl (.after _ (ih (Progress.ready_retrying _)))))

/-! ### No move is refused -/

theorem through?_family {e : AttemptEnd} {f : Fault} (h : through? e = some f) :
    f.family = .taskCancelled := by
  unfold through? at h
  split at h
  · split at h
    · cases h
      assumption
    · cases h
  · cases h

/-- **Nothing but a cancellation of the task goes through a run** whose responses have a status. -/
theorem Runs.escaped_family (h : c.Runs i s r) (statuses : s.script.StatusesFrom 100) {f : Fault}
    (escaped : r.outcome = .escaped f) : f.family = .taskCancelled := by
  induction h with
  | passes through =>
    cases escaped
    exact through?_family through
  | concludes _ _ =>
    have returned := (conclude_outcome _ (status_attempt_ne_zero statuses)).symm.trans escaped
    cases returned
  | @halts _ _ _ j _ _ _ =>
    cases j with
    | byTask =>
      cases escaped
      rfl
    | byCaller => cases escaped
  | again _ _ _ _ ih => exact ih (statuses.after _) escaped

theorem Runs.not_escaped_ofMove (h : c.Runs i s r) (statuses : s.script.StatusesFrom 100)
    (m : IllegalMove) : r.outcome ≠ .escaped (Fault.ofMove m) := by
  intro escaped
  cases h.escaped_family statuses escaped

/-- **Each move of a run is allowed** where it is asked for, and the moves lead to its state. -/
theorem Runs.moves (h : c.Runs i s r) (statuses : s.script.StatusesFrom 100) (hp : p.Ready i) :
    (c.movesFrom p s).foldlM Progress.move p = .ok r.progress := by
  have made := h.makes hp
  unfold Makes at made
  split at made
  · next moved => rw [moved, made]
  · next m _ => exact absurd made (h.not_escaped_ofMove statuses m)

/-! ### The last state -/

theorem failureClass_ne_cancelled (t : Text) : FailureClass.ofText t ≠ .cancelled := by
  rcases ofText_cases t with h | h | h | h <;> rw [h] <;> decide

theorem callClass_eq_cancelled_iff {f : Fault} :
    f.callClass = .cancelled ↔ f.family = .callerCancelled := by
  obtain ⟨kind, family, text⟩ := f
  cases family with
  | callerCancelled => exact iff_of_true rfl rfl
  | network | remoteProtocol | transport => exact iff_of_false (failureClass_ne_cancelled _) nofun
  | transportTimeout | attemptTimeout | taskCancelled | other => exact iff_of_false nofun nofun

/-- The state is that of a call that has returned a result, and whose last attempt had the given
ending. -/
structure Settles (c : Call) (e : AttemptEnd) (result : Result) (state : AttemptState) : Prop where
  terminal : state.isTerminal = true
  cancelled : state = .cancelled ↔ result.errorClass = some .cancelled
  /-- Attempts ran out on an ending that another attempt might have mended. -/
  exhausted : state ≠ .cancelled → (state = .exhausted ↔ e.Retryable c.retriedStatuses)
  /-- The last attempt was answered in another way. -/
  completed : state ≠ .cancelled →
    (state = .completed ↔ (∃ received, e = .ok received) ∧ ¬ e.Retryable c.retriedStatuses)
  /-- The last attempt failed in another way. -/
  failed : state ≠ .cancelled →
    (state = .failed ↔ (∃ f, e = .error f) ∧ ¬ e.Retryable c.retriedStatuses)

namespace Settles

variable {e : AttemptEnd} {result : Result} {received : Received} {f : Fault}

theorem of_cancelled (class_eq : result.errorClass = some .cancelled) :
    c.Settles e result .cancelled :=
  have never {P : Prop} (h : AttemptState.cancelled ≠ .cancelled) : P := absurd rfl h
  ⟨rfl, iff_of_true rfl class_eq, never, never, never⟩

theorem of_retryable (class_ne : result.errorClass ≠ some .cancelled)
    (retryable : e.Retryable c.retriedStatuses) : c.Settles e result .exhausted :=
  ⟨rfl, iff_of_false nofun class_ne, fun _ => iff_of_true rfl retryable,
    fun _ => iff_of_false nofun fun h => h.2 retryable,
    fun _ => iff_of_false nofun fun h => h.2 retryable⟩

theorem of_ok (class_ne : result.errorClass ≠ some .cancelled)
    (other : ¬ AttemptEnd.Retryable c.retriedStatuses (.ok received)) :
    c.Settles (.ok received) result .completed :=
  ⟨rfl, iff_of_false nofun class_ne, fun _ => iff_of_false nofun other,
    fun _ => iff_of_true rfl ⟨⟨_, rfl⟩, other⟩, fun _ => iff_of_false nofun (nomatch ·)⟩

theorem of_error (class_ne : result.errorClass ≠ some .cancelled)
    (other : ¬ AttemptEnd.Retryable c.retriedStatuses (.error f)) :
    c.Settles (.error f) result .failed :=
  ⟨rfl, iff_of_false nofun class_ne, fun _ => iff_of_false nofun other,
    fun _ => iff_of_false nofun (nomatch ·), fun _ => iff_of_true rfl ⟨⟨_, rfl⟩, other⟩⟩

end Settles

/-- A call that ends with the ending of its last attempt is in the state of that ending. -/
theorem settles_finalState (c : Call) (i : Nat) (now : Nanos) (e : AttemptEnd) :
    c.Settles e (c.resultOf i now e) (e.finalState c.policy) := by
  cases e with
  | ok received =>
    have listed : c.policy.isRetryable received.reply.status = true ↔
        AttemptEnd.Retryable c.retriedStatuses (.ok received) := by
      rw [← policy_statusCodes]
      exact List.contains_iff_mem
    unfold AttemptEnd.finalState
    dsimp only
    split
    · next h => exact .of_retryable nofun (listed.1 h)
    · next h => exact .of_ok nofun fun retryable => h (listed.2 retryable)
  | error f =>
    have unclassified (h : f.family ≠ .callerCancelled) :
        (c.resultOf i now (.error f)).errorClass ≠ some .cancelled :=
      fun class_eq => h (callClass_eq_cancelled_iff.1 (Option.some.inj class_eq))
    obtain ⟨kind, family, text⟩ := f
    cases family with
    | callerCancelled => exact .of_cancelled rfl
    | transportTimeout | attemptTimeout | network | remoteProtocol =>
      exact .of_retryable (unclassified nofun) (by simp [AttemptEnd.Retryable])
    | transport | taskCancelled | other =>
      exact .of_error (unclassified nofun) (by simp [AttemptEnd.Retryable])

/-- A call that returns is in the state that its last attempt and its result ask for. -/
theorem Leaves.settles {a : Stretch AttemptEnd} {ending : CallRecord} {result : Result}
    (h : c.Leaves i a ending) (returned : ending.outcome = .returned result) :
    c.Settles a.value result ending.progress.state := by
  cases h with
  | passes _ => cases returned
  | concludes _ _ =>
    rw [conclude_progress, conclude_returned returned]
    exact c.settles_finalState _ _ _
  | @halts time j _ _ _ =>
    cases j with
    | byTask => cases returned
    | byCaller =>
      cases returned
      exact .of_cancelled rfl

theorem Runs.settles (h : c.Runs 1 s r) {result : Result}
    (returned : r.outcome = .returned result) :
    c.Settles (c.nth s r.progress.attempt).value result r.progress.state := by
  obtain ⟨k, ending, -, leaves, rfl⟩ := h.exists_leaves
  have number : ending.progress.attempt = k + 1 := leaves.attempt_eq.trans (Nat.add_comm 1 k)
  have last : c.nth s ending.progress.attempt = c.ahead 1 s k := by rw [number, nth_succ]
  have settled := leaves.settles returned
  rw [← last] at settled
  exact settled

end Call

namespace Session

/-- **The moves of a call.** Whatever the request, the signals and the transport, each move that the
loop asks for is allowed where it is asked for, and together they lead to the state of the call's
record; so no fault of a move that is not allowed goes through. A call that returns has ended in a
last state, which is that of its result and of the ending of its last attempt. -/
theorem execute_moves (s : Session) (spec : RequestSpec) (signals : Signals)
    (statuses : s.script.StatusesFrom 100) :
    let c := s.callOf spec signals
    let w : Surroundings := ⟨s.now, s.script, s.jars c.variant⟩
    let r := (s.execute (.spec spec) signals).1
    (c.movesFrom .start w).foldlM Progress.move .start = .ok r.progress ∧
    (∀ m, r.outcome ≠ .escaped (Fault.ofMove m)) ∧
    ∀ result, r.outcome = .returned result →
      c.Settles (c.nth w r.progress.attempt).value result r.progress.state := by
  intro c w r
  have runs : c.Runs 1 w r := s.runs_execute spec signals
  exact ⟨runs.moves statuses Progress.ready_start, runs.not_escaped_ofMove statuses,
    fun _ returned => runs.settles returned⟩

/-- A call whose first connection fails, and which succeeds at its second attempt. -/
theorem execute_moves_refusingOnce :
    Script.refusingOnce.StatusesFrom 100 ∧
    let c := (start .usual .refusingOnce .stopped).callOf .home .none
    let w : Surroundings := ⟨0, .refusingOnce, []⟩
    let r := ((start .usual .refusingOnce .stopped).execute (.spec .home) .none).1
    (c.movesFrom .start w).foldlM Progress.move .start = .ok r.progress ∧
    ∃ result, r.outcome = .returned result ∧
      c.Settles (c.nth w r.progress.attempt).value result r.progress.state := by
  obtain ⟨moved, -, settles⟩ :=
    execute_moves (start .usual .refusingOnce .stopped) .home .none Script.refusingOnce_statusesFrom
  have runs := (start .usual .refusingOnce .stopped).runs_execute .home .none
  obtain ⟨result, returned⟩ := runs.returned rfl
    Script.refusingOnce_statusesFrom Script.refusingOnce_avoids
  exact ⟨Script.refusingOnce_statusesFrom, moved, result, returned, settles result returned⟩

end Session

end HttpCourier
