import HttpCourier.Text.Encoding

/-!
# HttpCourier.Transport.Buffer

**How much of a body is kept.** The bytes of a body are looked at in chunks of one size, of which
only the last may be shorter. Each takes of the room that is left; the first one for which there is
too little is cut off, and with it the reading stops.
-/

namespace HttpCourier.Buffer

/-- How many bytes are looked at together. -/
def chunkSize : Nat := 8192

/-- The first chunks of bytes, so many at most. -/
def firstChunks : Nat → Bytes → List Bytes
  | 0, _ => []
  | count + 1, b => if b = [] then [] else b.take chunkSize :: firstChunks count (b.drop chunkSize)

/-- The chunks of bytes, of which there are no more than bytes. -/
def chunks (b : Bytes) : List Bytes := firstChunks b.length b

/-- What is kept of chunks. -/
structure Kept where
  content : Bytes
  /-- Whether something is cut off. -/
  cut : Bool
  deriving DecidableEq, Repr

/-- What is kept of chunks where there is room for so many bytes. -/
def keep (room : Nat) : List Bytes → Kept
  | [] => ⟨[], false⟩
  | chunk :: rest =>
    if room < chunk.length then ⟨chunk.take room, true⟩
    else
      let kept := keep (room - chunk.length) rest
      ⟨chunk ++ kept.content, kept.cut⟩

/-- Whether so many bytes fill chunks that go beyond the room, so that no more are taken in. -/
def overfills (room count : Nat) : Bool := room < count / chunkSize * chunkSize

end HttpCourier.Buffer
