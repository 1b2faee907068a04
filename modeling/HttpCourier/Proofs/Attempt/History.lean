import HttpCourier.Attempt.Progress
import Mathlib.Data.List.Basic

/-!
# HttpCourier.Proofs.Attempt.History

**How far a call has come, told by the moves that it made.** A call is asked to move again and
again, and refuses what its state does not allow. `Progress.made` lists the moves that it makes.
`Progress.Counts` ties a call to such a list: each move into `attempting` is an attempt, each one
that comes from `retrying` is one beyond the first, and waits and attempts take turns. A move keeps
this (`Progress.Counts.move`), and so do requests of any number, made or refused
(`Progress.Counts.requests`).

The requests that are refused can be left out (`Progress.foldlM_made`), so that the moves made are
all that matters to the call.
-/

namespace HttpCourier

/-- A move from one state to another. -/
structure Move where
  source : AttemptState
  target : AttemptState
  deriving DecidableEq

namespace Progress

variable {p q : Progress} {target : AttemptState} {moves : List Move}

/-- The call after a request to move. A request that is refused changes nothing. -/
def request (p : Progress) (target : AttemptState) : Progress :=
  match p.move target with
  | .ok q => q
  | .error _ => p

/-- The call after requests to move, one after the other. -/
def requests (p : Progress) (targets : List AttemptState) : Progress := targets.foldl request p

/-- The moves that a call makes where it is asked for moves to these states. -/
def made (p : Progress) : List AttemptState → List Move
  | [] => []
  | target :: targets =>
    match p.move target with
    | .ok q => ⟨p.state, target⟩ :: made q targets
    | .error _ => made p targets

/-! ### One request -/

/-- What a move that is allowed does. -/
theorem move_ok_iff : p.move target = .ok q ↔ target ∈ p.state.next ∧
    q = ⟨target, if target = .attempting then p.attempt + 1 else p.attempt⟩ := by
  unfold move canMove
  split
  · next allowed => simp [List.contains_iff_mem.1 allowed, eq_comm]
  · next refused =>
    simp [show target ∉ p.state.next from fun h => refused (List.contains_iff_mem.2 h)]

theorem move_error_iff {m : IllegalMove} :
    p.move target = .error m ↔ target ∉ p.state.next ∧ m = ⟨p.state, target⟩ := by
  unfold move canMove
  split
  · next allowed => simp [List.contains_iff_mem.1 allowed]
  · next refused =>
    simp [show target ∉ p.state.next from fun h => refused (List.contains_iff_mem.2 h), eq_comm]

theorem isTerminal_iff : p.isTerminal = true ↔ p.state.next = [] := by
  have states : ∀ s : AttemptState, s.isTerminal = true ↔ s.next = [] := by
    intro s
    cases s <;> decide
  exact states p.state

/-- A call that has ended refuses to move. -/
theorem move_of_isTerminal (h : p.isTerminal = true) (target : AttemptState) :
    p.move target = .error ⟨p.state, target⟩ :=
  move_error_iff.2 ⟨by rw [isTerminal_iff.1 h]; exact List.not_mem_nil, rfl⟩

theorem requests_cons_of_ok (h : p.move target = .ok q) (targets : List AttemptState) :
    p.requests (target :: targets) = q.requests targets ∧
      p.made (target :: targets) = ⟨p.state, target⟩ :: q.made targets := by
  rw [requests, List.foldl_cons, request, made, h]
  exact ⟨rfl, rfl⟩

theorem requests_cons_of_error {m : IllegalMove} (h : p.move target = .error m)
    (targets : List AttemptState) : p.requests (target :: targets) = p.requests targets ∧
      p.made (target :: targets) = p.made targets := by
  rw [requests, List.foldl_cons, request, made, h]
  exact ⟨rfl, rfl⟩

/-! ### Requests one after the other -/

theorem requests_append (p : Progress) (targets later : List AttemptState) :
    p.requests (targets ++ later) = (p.requests targets).requests later ∧
      p.made (targets ++ later) = p.made targets ++ (p.requests targets).made later := by
  induction targets generalizing p with
  | nil => exact ⟨rfl, rfl⟩
  | cons target targets ih =>
    rw [List.cons_append]
    cases moved : p.move target with
    | ok q =>
      obtain ⟨run, list⟩ := requests_cons_of_ok moved (targets ++ later)
      obtain ⟨run', list'⟩ := requests_cons_of_ok moved targets
      rw [run, list, run', list', (ih q).1, (ih q).2]
      exact ⟨rfl, rfl⟩
    | error m =>
      obtain ⟨run, list⟩ := requests_cons_of_error moved (targets ++ later)
      obtain ⟨run', list'⟩ := requests_cons_of_error moved targets
      rw [run, list, run', list', (ih p).1, (ih p).2]
      exact ⟨rfl, rfl⟩

/-- **A call that has ended** stays as it is. -/
theorem requests_of_isTerminal (h : p.isTerminal = true) (later : List AttemptState) :
    p.requests later = p ∧ p.made later = [] := by
  induction later with
  | nil => exact ⟨rfl, rfl⟩
  | cons target later ih =>
    obtain ⟨run, list⟩ := requests_cons_of_error (move_of_isTerminal h target) later
    rw [run, list]
    exact ih

/-- **The moves made lead to the same place** without the requests that were refused. -/
theorem foldlM_made (p : Progress) (targets : List AttemptState) :
    ((p.made targets).map Move.target).foldlM move p = .ok (p.requests targets) := by
  induction targets generalizing p with
  | nil => rfl
  | cons target targets ih =>
    cases moved : p.move target with
    | ok q =>
      obtain ⟨run, list⟩ := requests_cons_of_ok moved targets
      rw [run, list, List.map_cons, List.foldlM_cons, moved]
      exact ih q
    | error m =>
      obtain ⟨run, list⟩ := requests_cons_of_error moved targets
      rw [run, list]
      exact ih p

/-! ### Moves counted -/

/-- The number of waits that a call has begun is that of its attempts, or one less. In a call that
has not ended the state tells which. -/
def Waited (p : Progress) (waits : Nat) : Prop :=
  match p.state with
  | .pending => p.attempt = 0 ∧ waits = 0
  | .attempting => p.attempt = waits + 1
  | .retrying => p.attempt = waits ∧ 0 < waits
  | _ => p.attempt = waits ∨ p.attempt = waits + 1

/-- The call is as far as these moves have brought it. -/
structure Counts (moves : List Move) (p : Progress) : Prop where
  attempts : moves.countP (·.target = .attempting) = p.attempt
  retries : moves.count ⟨.retrying, .attempting⟩ = p.retries
  waits : p.Waited (moves.countP (·.target = .retrying))

theorem Counts.start : Counts [] start := ⟨rfl, rfl, rfl, rfl⟩

theorem Waited.attempt_eq {waits : Nat} (h : p.Waited waits) (begun : 1 ≤ p.attempt) :
    waits = p.attempt ∨ waits = p.attempt - 1 := by
  unfold Waited at h
  split at h <;> omega

theorem Waited.move {state : AttemptState} {attempt waits : Nat}
    (h : Waited ⟨state, attempt⟩ waits) (allowed : target ∈ state.next) :
    Waited ⟨target, if target = .attempting then attempt + 1 else attempt⟩
      (waits + if target = .retrying then 1 else 0) := by
  cases state with
  | pending =>
    obtain ⟨rfl, rfl⟩ := h
    cases target with
    | attempting => rfl
    | failed => exact .inl rfl
    | _ => simp [AttemptState.next] at allowed
  | attempting =>
    have attempts : attempt = waits + 1 := h
    cases target with
    | retrying => exact ⟨attempts, Nat.succ_pos _⟩
    | completed | exhausted | failed | cancelled => exact .inr attempts
    | _ => simp [AttemptState.next] at allowed
  | retrying =>
    obtain ⟨attempts, -⟩ := h
    cases target with
    | attempting => exact congrArg (· + 1) attempts
    | cancelled => exact .inl attempts
    | _ => simp [AttemptState.next] at allowed
  | _ => simp [AttemptState.next] at allowed

/-- An attempt begins a call or comes behind a wait. -/
theorem Waited.attempt_of_attempting {state : AttemptState} {attempt waits : Nat}
    (h : Waited ⟨state, attempt⟩ waits) (allowed : AttemptState.attempting ∈ state.next) :
    attempt = attempt - 1 + if state = .retrying then 1 else 0 := by
  cases state with
  | pending =>
    obtain ⟨rfl, -⟩ := h
    rfl
  | retrying =>
    obtain ⟨rfl, begun⟩ := h
    exact (Nat.sub_add_cancel begun).symm
  | _ => simp [AttemptState.next] at allowed

/-- **A move** brings the call as far as it is told by the moves with this one. -/
theorem Counts.move (h : Counts moves p) (moved : p.move target = .ok q) :
    Counts (moves ++ [⟨p.state, target⟩]) q := by
  obtain ⟨allowed, rfl⟩ := move_ok_iff.1 moved
  obtain ⟨attempts, retries, waits⟩ := h
  obtain ⟨state, attempt⟩ := p
  constructor
  · rw [List.countP_append, attempts, List.countP_singleton]
    by_cases begins : target = .attempting <;> simp [begins]
  · rw [List.count_append, retries, List.count_singleton]
    by_cases begins : target = .attempting
    · subst begins
      simpa [Progress.retries] using (waits.attempt_of_attempting allowed).symm
    · simp [Progress.retries, begins]
  · rw [List.countP_append, List.countP_singleton]
    simpa using waits.move allowed

/-- **What a history of requests leaves** is what its moves tell. -/
theorem Counts.requests (h : Counts moves p) (targets : List AttemptState) :
    Counts (moves ++ p.made targets) (p.requests targets) := by
  induction targets generalizing p moves with
  | nil =>
    rw [made, List.append_nil]
    exact h
  | cons target targets ih =>
    cases moved : p.move target with
    | ok q =>
      obtain ⟨run, list⟩ := requests_cons_of_ok moved targets
      rw [run, list, List.append_cons]
      exact ih (h.move moved)
    | error m =>
      obtain ⟨run, list⟩ := requests_cons_of_error moved targets
      rw [run, list]
      exact ih h

/-- **A history of requests.** Whatever a call is asked for, and however often it refuses: its
attempts are the moves into `attempting`, and those beyond the first the ones that come from
`retrying`; it has begun as many waits as attempts, or one less. A request that is refused leaves it
as it is and is complained about by the state and the one asked for. A call that has ended refuses
everything from then on. And how far it has come is a matter of the moves that it made. -/
theorem start_requests (targets : List AttemptState) :
    let p := start.requests targets
    let moves := start.made targets
    (p.attempt = moves.countP (·.target = .attempting) ∧
      p.retries = moves.count ⟨.retrying, .attempting⟩) ∧
    (1 ≤ p.attempt → moves.countP (·.target = .retrying) = p.attempt ∨
      moves.countP (·.target = .retrying) = p.attempt - 1) ∧
    (∀ target m, p.move target = .error m → m = ⟨p.state, target⟩ ∧
      start.requests (targets ++ [target]) = p ∧ start.made (targets ++ [target]) = moves) ∧
    (p.isTerminal = true → ∀ later target,
      start.requests (targets ++ later) = p ∧ start.made (targets ++ later) = moves ∧
        (start.requests (targets ++ later)).move target = .error ⟨p.state, target⟩) ∧
    ∀ targets', (start.made targets').map Move.target = moves.map Move.target →
      start.requests targets' = p := by
  intro p moves
  have counts : Counts moves p := Counts.start.requests targets
  refine ⟨⟨counts.attempts.symm, counts.retries.symm⟩, counts.waits.attempt_eq, ?_, ?_, ?_⟩
  · intro target m refused
    obtain ⟨run, list⟩ := requests_cons_of_error refused []
    rw [(requests_append _ _ _).1, (requests_append _ _ _).2, run, list]
    exact ⟨(move_error_iff.1 refused).2, rfl, List.append_nil _⟩
  · intro ended later target
    obtain ⟨run, list⟩ := requests_of_isTerminal ended later
    rw [(requests_append _ _ _).1, (requests_append _ _ _).2, run, list]
    exact ⟨rfl, List.append_nil _, move_of_isTerminal ended target⟩
  · intro targets' same
    have led := foldlM_made start targets'
    rw [same, foldlM_made start targets] at led
    exact (Except.ok.inj led).symm

end Progress

end HttpCourier
