import HttpCourier.Compression.Container
import HttpCourier.Text.Blank
import HttpCourier.Wire.Fields

/-!
# HttpCourier.Transport.Coding

**Content codings.** A response names the codings of its body in the order in which they were
applied; they are undone in the opposite order. A coding that is not known here is left alone.

A body can come in piece by piece. What it tells so far depends on all that has come in, and a
fault is found as soon as the pieces show it. Whether deflated data have a header is decided by
the first piece.
-/

namespace HttpCourier

/-- The codings that can be undone. -/
inductive Coding where
  | gzip
  | deflate
  deriving DecidableEq, Repr

namespace Coding

/-- The coding of a name in lower case. -/
def ofName? (t : Text) : Option Coding :=
  if t = "gzip" then some gzip else if t = "deflate" then some deflate else none

/-- The codings that header fields name, in the order in which they are to be undone. The fields
are given as text with names in lower case. -/
def ofFields (fields : List (Text × Text)) : List Coding :=
  let values := (fields.filter fun f => f.1 = Text.ofString "content-encoding").map Prod.snd
  ((values.flatMap (Text.splitOn ',')).filterMap fun v =>
    ofName? (Text.lower (Text.strip v))).reverse

/-- The decoded form of bytes of which `first` was the first piece. -/
def undo (c : Coding) (first bytes : Bytes) : Except Compression.ContainerFault Bytes :=
  match c with
  | gzip => Compression.inflateFile bytes
  | deflate =>
    match Compression.inflateStream first with
    | .ok _ => Compression.inflateStream bytes
    | .error _ => Compression.inflateBare bytes

/-- The decoded form of bytes with several codings, which are undone in order. -/
def undoAll : List Coding → (first bytes : Bytes) → Except Compression.ContainerFault Bytes
  | [], _, bytes => .ok bytes
  | c :: codings, first, bytes => do
    let inner ← undo c first first
    let outer ← undo c first bytes
    undoAll codings inner outer

/-- The wording of a fault in decoding. -/
def faultText (f : Compression.ContainerFault) : Text :=
  Text.ofString ("Error -3 while decompressing data: " ++ f.message)

end Coding

end HttpCourier
