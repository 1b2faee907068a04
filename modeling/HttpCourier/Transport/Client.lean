import HttpCourier.Effect
import HttpCourier.Transport.Buffer
import HttpCourier.Transport.Coding
import HttpCourier.Transport.Redirect

/-!
# HttpCourier.Transport.Client

**How a client sends a request**, with nothing to interrupt it. It follows redirects where its
policy says so, keeps cookies, and takes in the body of the last response up to a limit. A body
that is taken in, or that turns out to be broken, has its stream closed before anything else
happens; where that fails, its fault takes the place of whatever had come of the body.

What happens is a `Course`: it ends with a response or a fault, or it never ends.
-/

namespace HttpCourier

open Wire (Fields Message)

/-- A client, set up for one attempt. -/
structure Client where
  variant : Variant
  /-- How many bytes of a body are kept. -/
  limit : Nat
  /-- The time after which nothing that comes in counts any more. -/
  deadline : Nanos
  /-- The clock by which cookies run out. -/
  clock : Clock

/-- A response with its body. -/
structure Received where
  reply : Reply
  content : Bytes

namespace Course

/-- A course, followed by what comes of its value. -/
def andThen (c : Course (Except Fault α)) (next : Nanos → α → Course (Except Fault β)) :
    Course (Except Fault β) :=
  match c.ending with
  | none => ⟨c.trace, none⟩
  | some (time, .error f) => ⟨c.trace, some (time, .error f)⟩
  | some (time, .ok a) => after c.trace (next time a)

end Course

/-- What comes of something that has ended at a time, once a stream is closed behind it. -/
def Closing.ending (time : Nanos) (e : Except Fault α) : Closing → Option (Nanos × Except Fault α)
  | never => none
  | ends span none => some (time + span, e)
  | ends span (some f) => some (time + span, .error f)

/-- A course behind which a stream is closed, whatever it ends with. -/
def Course.closedBy (closing : Closing) (c : Course (Except Fault α)) :
    Course (Except Fault α) :=
  ⟨c.trace, c.ending.bind fun (time, e) => closing.ending time e⟩

namespace Client

/-! ### Bodies -/

/-- What the bytes that have come in tell, with their codings undone. -/
def decoded (codings : List Coding) (first raw : Bytes) : Except Fault Bytes :=
  (Coding.undoAll codings first raw).mapError fun f =>
    Fault.ofKind "DecodingError" (some (Coding.faultText f))

/-- Takes in the pieces of a body until `stops` holds of the number of bytes. -/
def takeIn (codings : List Coding) (stops : Nat → Bool) (first : Option Bytes) (raw : Bytes)
    (now : Nanos) : List Piece → Option (Nanos × Except Fault Bytes)
  | [] => some (now, decoded codings (first.getD []) raw)
  | .pause span :: rest => takeIn codings stops first raw (now + span) rest
  | .fault f :: _ => some (now, .error f)
  | .silence :: _ => none
  | .bytes b :: rest =>
    if b = [] then takeIn codings stops first raw now rest
    else
      let first := first.getD b
      match decoded codings first (raw ++ b) with
      | .error f => some (now, .error f)
      | .ok bytes =>
        if stops bytes.length then some (now, .ok bytes)
        else takeIn codings stops (some first) (raw ++ b) now rest

/-- Takes in the body of a response until `stops` holds of the number of bytes. -/
def takeBody (c : Client) (stops : Nat → Bool) (r : Reply) (now : Nanos) :
    Course (Except Fault Bytes) :=
  ⟨[], takeIn (Coding.ofFields r.textFields) stops none [] now (r.pieces (c.deadline - now))⟩

/-- The fault of a response whose whole body cannot be decoded, which shows as it arrives. -/
def wholeFault? (r : Reply) : Option Fault :=
  match r.body with
  | .stream _ _ => none
  | .whole b =>
    match decoded (Coding.ofFields r.textFields) b b with
    | .error f => some f
    | .ok _ => none

/-! ### Requests -/

/-- One request, and the response to it with the cookies that the client then has. -/
def exchange (c : Client) (x : Exchange) (jar : Cookie.Jar) (now : Nanos) (m : Message) :
    Course (Except Fault (Reply × Cookie.Jar)) :=
  let sent : Trace := [⟨now, .sent m⟩]
  let arrival := now + x.delay
  match x.answer with
  | .silence => ⟨sent, none⟩
  | .fault f => ⟨sent, some (arrival, .error f)⟩
  | .reply r =>
    match wholeFault? r with
    | some f => ⟨sent, some (arrival, .error f)⟩
    | none =>
      match Redirect.receive (c.clock arrival) m r jar with
      | .error f => ⟨sent, some (arrival, .error f)⟩
      | .ok jar => ⟨sent ++ [⟨arrival, .stored c.variant jar⟩], some (arrival, .ok (r, jar))⟩

/-- How many redirects are followed, one after the other. -/
def maxRedirects : Nat := 20

/-- A request and the redirects that it leads to, of which `left` may be followed. -/
def hops (c : Client) (left : Nat) (script : Script) (jar : Cookie.Jar) (now : Nanos)
    (m : Message) : Course (Except Fault Reply) :=
  (c.exchange script.next jar now m).andThen fun arrival (r, jar) =>
    match Redirect.location? r with
    | none => .done arrival (.ok r)
    | some location =>
      match Redirect.follow (c.clock arrival) m r location jar with
      | .error f => (Course.done arrival (.error f)).closedBy r.closing
      | .ok next =>
        if c.variant.followRedirects then
          ((c.takeBody (fun _ => false) r arrival).closedBy r.closing).andThen fun now _ =>
            match left with
            | 0 => .done now (.error Fault.tooManyRedirects)
            | left + 1 => hops c left (script.after 1) jar now next
        else .done arrival (.ok r)

/-- The event of a body that is longer than the limit. -/
def truncated (c : Client) (r : Reply) : Log.Event :=
  ⟨.warning, "http_response_truncated",
    [("component", .string Log.component), ("status_code", .int r.status),
      ("max_bytes", .int c.limit)]⟩

/-- The events of bytes that have come in, if their chunks make the reading stop. -/
def overfilled (c : Client) (r : Reply) (bytes : Bytes) : List Log.Event :=
  if Buffer.overfills c.limit bytes.length then [c.truncated r] else []

/-- The body of a response, taken in to its end or until its chunks go beyond the limit, with its
stream closed. -/
def drain (c : Client) (r : Reply) (now : Nanos) : Course (Except Fault Bytes) :=
  ((c.takeBody (Buffer.overfills c.limit) r now).andThen fun now bytes =>
    .after (Trace.logging now (c.overfilled r bytes)) (.done now (.ok bytes))).closedBy r.closing

/-- The events of a body whose last chunk, which may be shorter, goes beyond the limit. That chunk
is looked at when the stream is closed. -/
def overhanging (c : Client) (r : Reply) (bytes : Bytes) : List Log.Event :=
  if (Buffer.keep c.limit (Buffer.chunks bytes)).cut ∧ ¬Buffer.overfills c.limit bytes.length
  then [c.truncated r] else []

/-- A response once its body is taken in and its stream is closed. -/
def receive (c : Client) (r : Reply) (now : Nanos) : Course (Except Fault Received) :=
  (c.drain r now).andThen fun now bytes =>
    let content := (Buffer.keep c.limit (Buffer.chunks bytes)).content
    let trace := Trace.logging now (c.overhanging r bytes) ++
      Trace.measuring now [.response r.status content.length]
    .after trace (.done now (.ok ⟨r, content⟩))

/-- The request with the credentials that stand in its URL. -/
def withUrlCredentials (m : Message) : Message :=
  let (user, password) := m.url.userAndPassword
  if user = [] ∧ password = [] then m
  else
    let token := Base64.encode (Text.bytesIn .utf8 (user ++ [CodePoint.ofChar ':'] ++ password))
    { m with
      fields := m.fields.setBytes (Fields.asciiName "Authorization")
        (Wire.asciiBytes (Text.ofString "Basic " ++ token)) }

/-- Sends a request. -/
def send (c : Client) (script : Script) (jar : Cookie.Jar) (now : Nanos) (m : Message) :
    Course (Except Fault Received) :=
  (c.hops maxRedirects script jar now (withUrlCredentials m)).andThen fun arrival r =>
    c.receive r arrival

end Client

end HttpCourier
