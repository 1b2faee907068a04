import HttpCourier.Number.Binary64

/-!
# HttpCourier.Time

**Time** is counted in nanoseconds from the start of a session, and so are spans of time. What the
clock and the calendar of a host show meanwhile is another matter (`Clock`). They can be set, so
that nothing is assumed about how one reading follows on another.
-/

namespace HttpCourier

/-- A point in time, or a span of it, in nanoseconds. -/
abbrev Nanos := Nat

namespace Nanos

/-- A number of milliseconds. -/
def ofMillis (ms : Nat) : Nanos := ms * 1000000

/-- A number of seconds. -/
def ofSeconds (s : Nat) : Nanos := s * 1000000000

/-- A span in milliseconds. -/
def toMillis (t : Nanos) : Binary64 := Binary64.ofRatio false t 1000000

end Nanos

/-- What the clock and the calendar of a host show. -/
structure ClockFace where
  /-- The seconds from the start of the year 1970. -/
  seconds : Int
  year : Nat
  deriving DecidableEq, Repr

/-- The clock of a host, with what it shows at each time. -/
abbrev Clock := Nanos → ClockFace

namespace Clock

/-- A clock that has stopped at the start of the year 1970. -/
def stopped : Clock := fun _ => ⟨0, 1970⟩

/-- The clock of something that starts at a time. -/
def startingAt (start : Nanos) (clock : Clock) : Clock := fun time => clock (start + time)

end Clock

end HttpCourier
