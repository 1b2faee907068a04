/-!
# HttpCourier.Attempt.Progress

**The states of a call** and the moves between them. A call starts `pending`; each attempt is a
stay in `attempting`; between two attempts the call is `retrying`. It ends in one of four
states, which it does not leave.

`Progress` is a state together with the number of attempts. The number grows with each move into
`attempting` and with no other, so that the loop and its result count alike.
-/

namespace HttpCourier

/-- The states of a call. -/
inductive AttemptState where
  | pending
  | attempting
  | retrying
  | completed
  | exhausted
  | failed
  | cancelled
  deriving DecidableEq, Repr

namespace AttemptState

/-- The states, in order. -/
def all : List AttemptState :=
  [pending, attempting, retrying, completed, exhausted, failed, cancelled]

/-- The name of a state. -/
def name : AttemptState → String
  | pending => "PENDING"
  | attempting => "ATTEMPTING"
  | retrying => "RETRYING"
  | completed => "COMPLETED"
  | exhausted => "EXHAUSTED"
  | failed => "FAILED"
  | cancelled => "CANCELLED"

/-- The state of a name. -/
def ofName? (name : String) : Option AttemptState := all.find? fun s => s.name = name

/-- The states that can follow a state. -/
def next : AttemptState → List AttemptState
  | pending => [attempting, failed]
  | attempting => [completed, retrying, exhausted, failed, cancelled]
  | retrying => [attempting, cancelled]
  | _ => []

/-- Whether a call ends in the state. -/
def isTerminal : AttemptState → Bool
  | completed | exhausted | failed | cancelled => true
  | _ => false

end AttemptState

/-- A move that is not allowed. -/
structure IllegalMove where
  source : AttemptState
  target : AttemptState
  deriving DecidableEq, Repr

/-- The wording of the complaint about a move. -/
def IllegalMove.message (m : IllegalMove) : String :=
  "Invalid state transition: " ++ m.source.name ++ " -> " ++ m.target.name

/-- How far a call has come. -/
structure Progress where
  state : AttemptState
  /-- The number of the current attempt, or of the last one. -/
  attempt : Nat
  deriving DecidableEq, Repr

namespace Progress

/-- A call before its first attempt. -/
def start : Progress := ⟨.pending, 0⟩

/-- How many attempts were made beyond the first. -/
def retries (p : Progress) : Nat := p.attempt - 1

/-- Whether the call can move to a state. -/
def canMove (p : Progress) (target : AttemptState) : Bool := p.state.next.contains target

/-- The call after a move. -/
def move (p : Progress) (target : AttemptState) : Except IllegalMove Progress :=
  if p.canMove target then
    .ok ⟨target, if target = .attempting then p.attempt + 1 else p.attempt⟩
  else .error ⟨p.state, target⟩

/-- Whether the call has ended. -/
def isTerminal (p : Progress) : Bool := p.state.isTerminal

end Progress

end HttpCourier
