import HttpCourier.Call.Basic

/-!
# HttpCourier.Call.Journal

**What a call writes to the log.** Every event names the component, the client, the method and
the URL, with its credentials taken out, and the number of the attempt.
-/

namespace HttpCourier

open Json (Value Members)
open Log (Event Level)

namespace Call

/-- A number in an event. -/
def count (n : Nat) : Value := .int (Int.ofNat n)

/-- A name in an event. -/
def word (s : String) : Value := .string (Text.ofString s)

/-- The fields of every event of an attempt. -/
def context (c : Call) (attempt : Nat) : Members :=
  [("component", .string Log.component), ("method", word c.spec.method.name),
    ("url", .string (Redaction.url c.spec.target.text)), ("client", word c.variant.name),
    ("attempt", count attempt), ("max_attempts", count c.policy.maxAttempts)]

/-- An event of an attempt. -/
def event (c : Call) (attempt : Nat) (level : Level) (name : String) (fields : Members) : Event :=
  ⟨level, name, c.context attempt ++ fields⟩

/-- The event of a request that is about to be sent. It tells of the URL and the headers if the
host wants requests to be logged; the error is the name of a header that does not find its own
field. -/
def startEvent (c : Call) (attempt : Nat) (o : Wire.Outgoing) : Except Text Event :=
  if c.settings.logsRequests then
    o.headers.items.map fun items =>
      c.event attempt .debug "http_request_start"
        [("request_url", .string (Redaction.url o.url)),
          ("headers", .object ((Redaction.headers c.settings.sensitivePatterns items).map
            fun (n, v) => (n, .string v)))]
  else .ok (c.event attempt .info "http_request_start" [])

/-- The event of a response. -/
def responseEvent (c : Call) (attempt : Nat) (now : Nanos) (r : Received) : Event :=
  c.event attempt (if Result.isSuccessStatus r.reply.status then .info else .warning)
    "http_request_complete"
    [("status_code", count r.reply.status), ("reason", .string r.reply.reasonPhrase),
      ("bytes", count r.content.length), ("elapsed_ms", .float ((c.elapsedMs now).roundPlaces 2))]

/-- The event of something that nothing was prepared for. -/
def unexpectedEvent (c : Call) (attempt : Nat) : Event :=
  c.event attempt .error "http_request_unexpected_error" [("exc_info", .bool true)]

/-- The events of an attempt that has ended. -/
def endEvents (c : Call) (attempt : Nat) (now : Nanos) : AttemptEnd → List Event
  | .ok received => [c.responseEvent attempt now received]
  | .error f =>
    match f.family with
    | .callerCancelled | .taskCancelled => []
    | .transportTimeout | .attemptTimeout =>
      [c.event attempt .warning "http_request_timeout"
        [("timeout_seconds", count c.spec.timeout.seconds)]]
    | .network | .remoteProtocol | .transport =>
      [c.event attempt .error "http_request_failed"
        [("error", .string f.text), ("error_type", word f.kind)]]
    | .other => [c.unexpectedEvent attempt]

/-- The event of a further attempt. -/
def retryEvent (c : Call) (attempt : Nat) (e : AttemptEnd) : Event :=
  c.event attempt .warning "http_retry_scheduled"
    [(match e with
      | .ok received => ("status_code", count received.reply.status)
      | .error f => ("error", .string f.text)),
      ("delay_ms", count (c.policy.delayMsAfter attempt))]

/-- The event of a response that another attempt might have mended. -/
def exhaustedEvents (c : Call) (attempt : Nat) (r : Received) : List Event :=
  if c.policy.isRetryable r.reply.status then
    [c.event attempt .warning "http_retries_exhausted" [("status_code", count r.reply.status)]]
  else []

/-- The fields that tell how a call has failed. -/
def failureFields (message : Text) (failureClass : FailureClass) (retryAttempts : Nat) : Members :=
  [("error", .string message), ("error_class", word failureClass.name),
    ("retry_attempts", count retryAttempts)]

/-- The event of a fault that ends a call. -/
def failureEvent (c : Call) (attempt : Nat) (f : Fault) (retryAttempts : Nat) : Event :=
  match f.family with
  | .callerCancelled => c.event attempt .warning "http_request_cancelled" []
  | _ =>
    c.event attempt .error "http_request_terminal_error"
      (failureFields (f.callMessage c.spec.timeout.seconds) f.callClass retryAttempts)

end Call

end HttpCourier
