import HttpCourier.Redaction
import HttpCourier.Request.Model

/-!
# HttpCourier.Settings

**What the host decides for all calls.** Each setting has bounds and a default; the settings
are made field by field, and what is no setting is passed over.
-/

namespace HttpCourier

open Json (Value Members)
open Schema (Checked Rejection)

/-- The settings of a host. -/
structure Settings where
  timeout : Timeout
  /-- How often a request without a retry plan is sent; zero counts as one. -/
  retryAttempts : { i : Int // 0 ≤ i ∧ i ≤ 10 }
  followRedirects : Bool
  /-- Whether requests are logged with their headers. -/
  logsRequests : Bool
  /-- The words that mark a header as sensitive. -/
  sensitivePatterns : List Text
  /-- How many bytes of a response body are kept. -/
  bufferLimit : { i : Int // 1024 ≤ i }

namespace Settings

/-- The title under which faults of settings are reported. -/
def title : String := "ExecutorSettings"

/-- How many bytes of a response body are kept where nothing else is set: ten mebibytes. -/
def usualBufferLimit : { i : Int // 1024 ≤ i } := ⟨10485760, by decide⟩

/-- The settings of a host that sets nothing. -/
def usual : Settings :=
  ⟨Timeout.usual, ⟨0, by decide⟩, true, false, Redaction.usualPatterns, usualBufferLimit⟩

/-- The names of the settings, in order. -/
def names : List String :=
  ["default_timeout_seconds", "default_retry_attempts", "default_follow_redirects",
   "enable_request_logging", "sensitive_header_patterns", "max_response_buffer_size_bytes"]

/-- The settings with the given fields. -/
def ofFields (given : Members) : Except Rejection Settings :=
  (Settings.mk <$>
    Schema.withDefault given "default_timeout_seconds" usual.timeout Timeout.check <*>
    Schema.withDefault given "default_retry_attempts" usual.retryAttempts
      (Schema.integerWithin 0 10) <*>
    Schema.withDefault given "default_follow_redirects" usual.followRedirects Schema.boolean <*>
    Schema.withDefault given "enable_request_logging" usual.logsRequests Schema.boolean <*>
    Schema.withDefault given "sensitive_header_patterns" usual.sensitivePatterns
      (Schema.tuple Schema.text) <*>
    Schema.withDefault given "max_response_buffer_size_bytes" usual.bufferLimit
      (Schema.integerFrom 1024)).orReject title

/-- How many bytes of a response body are kept, as a natural number. -/
def limit (s : Settings) : Nat := s.bufferLimit.1.toNat

end Settings

end HttpCourier
