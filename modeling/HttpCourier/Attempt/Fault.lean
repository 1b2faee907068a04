import HttpCourier.Text.Case
import HttpCourier.Text.Quoted
import HttpCourier.Wire.Message

/-!
# HttpCourier.Attempt.Fault

**What can go wrong with an attempt.** A fault has the name of its kind, a text, and a family.
The family alone decides what the attempt loop does: whether the fault may pass by itself,
whether it counts as a timeout, and whether it is an error of the transport at all.
-/

namespace HttpCourier

/-- The families of faults. -/
inductive FaultFamily where
  /-- The transport waited too long for something. -/
  | transportTimeout
  /-- The attempt took longer than it may. -/
  | attemptTimeout
  /-- A connection could not be made, or broke. -/
  | network
  /-- The other side broke the protocol. -/
  | remoteProtocol
  /-- Any other error of the transport. -/
  | transport
  /-- The caller has cancelled the request. -/
  | callerCancelled
  /-- The task that executes the request was cancelled. -/
  | taskCancelled
  /-- Anything else. -/
  | other
  deriving DecidableEq, Repr

namespace FaultFamily

/-- Whether the fault may pass by itself, so that another attempt makes sense. -/
def isTransient : FaultFamily → Bool
  | transportTimeout | attemptTimeout | network | remoteProtocol => true
  | _ => false

/-- The kinds of each family that a transport can report; any other kind is of family `other`. -/
def members : List (FaultFamily × List String) :=
  [(transportTimeout,
      ["TimeoutException", "ConnectTimeout", "ReadTimeout", "WriteTimeout", "PoolTimeout"]),
   (attemptTimeout, ["AttemptTimeoutError"]),
   (network, ["NetworkError", "ConnectError", "ReadError", "WriteError", "CloseError"]),
   (remoteProtocol, ["RemoteProtocolError"]),
   (transport,
      ["RequestError", "TransportError", "ProtocolError", "LocalProtocolError", "ProxyError",
       "UnsupportedProtocol", "DecodingError", "TooManyRedirects"]),
   (callerCancelled, ["RequestCancelledError"]),
   (taskCancelled, ["CancelledError"])]

/-- The family of a kind. -/
def ofKind (kind : String) : FaultFamily :=
  match members.find? fun m => m.2.contains kind with
  | some m => m.1
  | none => other

end FaultFamily

/-- A fault. -/
structure Fault where
  kind : String
  family : FaultFamily
  text : Text
  deriving DecidableEq, Repr

namespace Fault

/-- The fault of a kind with a message, or with none. The text of a missing key is the key
between quotes; the text of any other fault is its message. -/
def ofKind (kind : String) (message : Option Text) : Fault :=
  ⟨kind, FaultFamily.ofKind kind,
    match message with
    | none => []
    | some m => if kind = "KeyError" then Text.quoted m else m⟩

/-- Whether the fault may pass by itself. -/
def isTransient (f : Fault) : Bool := f.family.isTransient

/-- An attempt took longer than the time it was given, which is named by a text. -/
def attemptTimeout (seconds : Text) : Fault :=
  ofKind "AttemptTimeoutError" (some ("Attempt exceeded " ++ seconds ++ " seconds"))

/-- The caller has cancelled. -/
def cancelled : Fault := ofKind "RequestCancelledError" none

/-- A text outside its encoding. -/
def unencodable (e : EncodeError) : Fault := ofKind "UnicodeEncodeError" (some e.message)

/-- A description gives no request. -/
def ofBuild : Wire.BuildFault → Fault
  | .unencodable e => unencodable e
  | .body f => ofKind "PydanticSerializationError" (some f.message)

/-- A text is no URL. -/
def ofLocator : Url.LocatorError → Fault
  | .unencodable e => unencodable e
  | e => ofKind "InvalidURL" (some e.message)

/-- A request cannot go over the wire. -/
def ofMessage : Wire.MessageFault → Fault
  | .unencodable e => unencodable e
  | .url e => ofLocator e

end Fault

/-! ### Classes of failure -/

/-- How a failed call is classified. -/
inductive FailureClass where
  | configuration
  | cancelled
  | timeout
  | hostNotFound
  | connectionRefused
  | sslError
  | connectionError
  | unexpected
  deriving DecidableEq, Repr

namespace FailureClass

/-- The classes, in order. -/
def all : List FailureClass :=
  [configuration, cancelled, timeout, hostNotFound, connectionRefused, sslError, connectionError,
   unexpected]

/-- The name of a class. -/
def name : FailureClass → String
  | configuration => "CONFIGURATION"
  | cancelled => "CANCELLED"
  | timeout => "TIMEOUT"
  | hostNotFound => "HOST_NOT_FOUND"
  | connectionRefused => "CONNECTION_REFUSED"
  | sslError => "SSL_ERROR"
  | connectionError => "CONNECTION_ERROR"
  | unexpected => "UNEXPECTED"

/-- The class of a name. -/
def ofName? (t : Text) : Option FailureClass := all.find? fun c => Text.ofString c.name = t

/-- The wording of the complaint about a name that no class has. -/
def unknownName (t : Text) : Text := Text.quoted t ++ " is not a valid ExecutionErrorClass"

/-- The words by which the text of a transport error is recognised, class by class. -/
def markers : List (FailureClass × List String) :=
  [(hostNotFound,
      ["no such host", "name or service not known", "nodename nor servname",
       "getaddrinfo failed", "temporary failure in name resolution"]),
   (connectionRefused, ["connection refused", "actively refused"]),
   (sslError, ["ssl", "certificate"])]

/-- The class of a transport error, by its text. -/
def ofText (t : Text) : FailureClass :=
  let lowered := Text.lower t
  match markers.find? fun m => m.2.any fun word => Text.hasBlock lowered (Text.ofString word) with
  | some m => m.1
  | none => connectionError

end FailureClass

namespace Fault

/-- The class of a transport error. -/
def failureClass (f : Fault) : FailureClass := FailureClass.ofText f.text

/-- A message about a transport error for a reader. -/
def friendlyMessage (f : Fault) : Text :=
  let message : Text := if f.text = [] then Text.ofString f.kind else f.text
  match f.failureClass with
  | .hostNotFound => "Host not found: " ++ message
  | .connectionRefused =>
    "Connection refused - the server may be down or not accepting connections"
  | .sslError =>
    "SSL/Certificate error: " ++ message ++
      ". Consider setting 'ignore_certificate_errors' to true for development."
  | _ => message

end Fault

end HttpCourier
