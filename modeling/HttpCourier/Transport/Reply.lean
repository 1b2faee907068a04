import HttpCourier.Attempt.Fault
import HttpCourier.Time

/-!
# HttpCourier.Transport.Reply

**What a transport does with a request**, as data. Each request that goes out meets the next
`Exchange` of a script: the transport waits, and then it reports a fault, answers with a
response, or never says anything.

The body of a response comes whole with its head, or in pieces. How many pieces come depends on
how long one listens: a `Stream` says what comes in within a span of time, so that it can go on
forever and yet take finitely many steps in finite time.

A body in pieces has a stream to be closed, once nothing more of it is taken in, and the transport
says what comes of that as well (`Closing`). A stream from which its reader is torn away, by the
deadline of an attempt or by an interruption, is closed on the spot.
-/

namespace HttpCourier

/-- One step of a body that comes in piece by piece. -/
inductive Piece where
  | bytes (b : Bytes)
  /-- Nothing comes in for a span of time. -/
  | pause (span : Nanos)
  /-- The transport reports a fault. -/
  | fault (f : Fault)
  /-- Nothing comes in any more, and the body is not at its end. -/
  | silence
  deriving DecidableEq, Repr

/-- What comes in within a span of time. A body that ends within the span is given in full. -/
abbrev Stream := Nanos → List Piece

/-- How a stream is closed. -/
inductive Closing where
  /-- It is closed after a span of time, at the end of which the transport may report a fault. -/
  | ends (span : Nanos) (fault : Option Fault)
  | never
  deriving DecidableEq, Repr

namespace Closing

/-- The stream is closed on the spot. -/
def atOnce : Closing := ends 0 none

/-- The fault that the transport reports of the closing. -/
def fault? : Closing → Option Fault
  | ends _ fault => fault
  | never => none

end Closing

/-- The body of a response. -/
inductive ReplyBody where
  | whole (b : Bytes)
  | stream (s : Stream) (closing : Closing)

/-- A response. -/
structure Reply where
  status : Nat
  /-- The reason phrase, where the status line has one of its own. -/
  reason : Option Text
  fields : Wire.Fields
  body : ReplyBody

/-- What a transport does about a request, once it has waited. -/
inductive Answer where
  | fault (f : Fault)
  | reply (r : Reply)
  /-- Nothing, ever. -/
  | silence

/-- A wait, and what follows it. -/
structure Exchange where
  delay : Nanos
  answer : Answer

/-- What a transport does with the requests that go out: one exchange for each of the first
ones, and the same for all others. -/
structure Script where
  upcoming : List Exchange
  afterwards : Exchange

namespace Script

/-- What the transport does with the next request. -/
def next (s : Script) : Exchange := s.upcoming.headD s.afterwards

/-- What the transport does once it has met a number of requests. -/
def after (s : Script) (requests : Nat) : Script := ⟨s.upcoming.drop requests, s.afterwards⟩

end Script

namespace Reply

/-- The reason phrases of the usual statuses. -/
def reasonPhrases : List (Nat × String) :=
  [(100, "Continue"), (101, "Switching Protocols"), (102, "Processing"), (103, "Early Hints"),
   (200, "OK"), (201, "Created"), (202, "Accepted"), (203, "Non-Authoritative Information"),
   (204, "No Content"), (205, "Reset Content"), (206, "Partial Content"), (207, "Multi-Status"),
   (208, "Already Reported"), (226, "IM Used"), (300, "Multiple Choices"),
   (301, "Moved Permanently"), (302, "Found"), (303, "See Other"), (304, "Not Modified"),
   (305, "Use Proxy"), (307, "Temporary Redirect"), (308, "Permanent Redirect"),
   (400, "Bad Request"), (401, "Unauthorized"), (402, "Payment Required"), (403, "Forbidden"),
   (404, "Not Found"), (405, "Method Not Allowed"), (406, "Not Acceptable"),
   (407, "Proxy Authentication Required"), (408, "Request Timeout"), (409, "Conflict"),
   (410, "Gone"), (411, "Length Required"), (412, "Precondition Failed"),
   (413, "Request Entity Too Large"), (414, "Request-URI Too Long"),
   (415, "Unsupported Media Type"), (416, "Requested Range Not Satisfiable"),
   (417, "Expectation Failed"), (418, "I'm a teapot"), (421, "Misdirected Request"),
   (422, "Unprocessable Entity"), (423, "Locked"), (424, "Failed Dependency"),
   (425, "Too Early"), (426, "Upgrade Required"), (428, "Precondition Required"),
   (429, "Too Many Requests"), (431, "Request Header Fields Too Large"),
   (451, "Unavailable For Legal Reasons"), (500, "Internal Server Error"),
   (501, "Not Implemented"), (502, "Bad Gateway"), (503, "Service Unavailable"),
   (504, "Gateway Timeout"), (505, "HTTP Version Not Supported"),
   (506, "Variant Also Negotiates"), (507, "Insufficient Storage"), (508, "Loop Detected"),
   (510, "Not Extended"), (511, "Network Authentication Required")]

/-- The reason phrase of a response. A phrase of its own loses what is not ASCII. -/
def reasonPhrase (r : Reply) : Text :=
  match r.reason with
  | some t => t.filter CodePoint.isAscii
  | none => Text.ofString ((reasonPhrases.lookup r.status).getD "")

/-- The field that says that a body comes in chunks. -/
def chunkedField : Bytes × Bytes :=
  (Wire.Fields.asciiName "Transfer-Encoding", Wire.Fields.asciiName "chunked")

/-- The fields of a response with a whole body: its length goes to the end, unless the body is
empty or the fields give its length. -/
def wholeFields (fields : Wire.Fields) (b : Bytes) : Wire.Fields :=
  if b = [] ∨ fields.hasName "content-length" then fields
  else ⟨fields.entries ++ [(Wire.contentLengthName, Wire.asciiBytes (Text.ofNat b.length))],
    fields.charset⟩

/-- The fields of a response whose body comes in pieces: it is chunked, unless the fields say
how it is framed. -/
def streamFields (fields : Wire.Fields) : Wire.Fields :=
  if fields.hasName "content-length" ∨ fields.hasName "transfer-encoding" then fields
  else ⟨fields.entries ++ [chunkedField], fields.charset⟩

/-- The response with a whole body. -/
def ofWhole (status : Nat) (reason : Option Text) (fields : Wire.Fields) (b : Bytes) : Reply :=
  ⟨status, reason, wholeFields fields b, .whole b⟩

/-- The response with a body in pieces. -/
def ofStream (status : Nat) (reason : Option Text) (fields : Wire.Fields) (s : Stream)
    (closing : Closing) : Reply :=
  ⟨status, reason, streamFields fields, .stream s closing⟩

/-- The header fields as text: names in lower case, in order. -/
def textFields (r : Reply) : List (Text × Text) :=
  let decode := Wire.Fields.decode (Wire.Fields.fittingCharset r.fields.entries)
  r.fields.entries.map fun (n, v) => (Text.lower (decode (Wire.Fields.key n)), decode v)

/-- The pieces of the body that come in within a span of time. -/
def pieces (r : Reply) (span : Nanos) : List Piece :=
  match r.body with
  | .whole b => [.bytes b]
  | .stream s _ => s span

/-- How the stream of the body is closed; a whole body has none. -/
def closing (r : Reply) : Closing :=
  match r.body with
  | .whole _ => .atOnce
  | .stream _ closing => closing

end Reply

end HttpCourier
