import HttpCourier.Attempt.Fault
import HttpCourier.Attempt.Policy
import HttpCourier.Attempt.Progress
import HttpCourier.Attempt.Signals
import HttpCourier.Call.Attempt
import HttpCourier.Call.Attempts
import HttpCourier.Call.Basic
import HttpCourier.Call.Journal
import HttpCourier.Call.Session
import HttpCourier.Command.Grammar
import HttpCourier.Command.Page
import HttpCourier.Command.Program
import HttpCourier.Command.Similar
import HttpCourier.Compression.Code
import HttpCourier.Compression.Container
import HttpCourier.Compression.Inflate
import HttpCourier.Credential.Application
import HttpCourier.Credential.Completeness
import HttpCourier.Credential.Placement
import HttpCourier.Effect
import HttpCourier.Json.Failure
import HttpCourier.Json.Lenient
import HttpCourier.Json.Numeral
import HttpCourier.Json.Printer
import HttpCourier.Json.Reader
import HttpCourier.Json.Token
import HttpCourier.Json.Value
import HttpCourier.Log.Event
import HttpCourier.Log.Line
import HttpCourier.Main
import HttpCourier.Number.Binary64
import HttpCourier.Number.Shortest
import HttpCourier.Redaction
import HttpCourier.Request.Check
import HttpCourier.Request.Document
import HttpCourier.Request.Model
import HttpCourier.Request.Spec
import HttpCourier.Request.TextMap
import HttpCourier.Result.Basic
import HttpCourier.Result.Content
import HttpCourier.Result.Fields
import HttpCourier.Result.Summary
import HttpCourier.Schema.Complaint
import HttpCourier.Schema.Lax
import HttpCourier.Settings
import HttpCourier.Settings.EnvFile
import HttpCourier.Settings.Sources
import HttpCourier.Tally
import HttpCourier.Text.Base64
import HttpCourier.Text.Blank
import HttpCourier.Text.Case
import HttpCourier.Text.CaseTable
import HttpCourier.Text.CodePoint
import HttpCourier.Text.Encoding
import HttpCourier.Text.Entries
import HttpCourier.Text.Lines
import HttpCourier.Text.Printable
import HttpCourier.Text.Quoted
import HttpCourier.Text.Unicode
import HttpCourier.Time
import HttpCourier.Transport.Buffer
import HttpCourier.Transport.Client
import HttpCourier.Transport.Coding
import HttpCourier.Transport.Cookie
import HttpCourier.Transport.Expiry
import HttpCourier.Transport.Redirect
import HttpCourier.Transport.Reply
import HttpCourier.Transport.Variant
import HttpCourier.Url.Address
import HttpCourier.Url.Form
import HttpCourier.Url.Hostname
import HttpCourier.Url.Join
import HttpCourier.Url.LabelTable
import HttpCourier.Url.Locator
import HttpCourier.Url.Split
import HttpCourier.Wire.Fields
import HttpCourier.Wire.Message
import HttpCourier.Wire.Outgoing
import HttpCourier.Proofs.Attempt.Backoff
import HttpCourier.Proofs.Attempt.History
import HttpCourier.Proofs.Call.Accounts
import HttpCourier.Proofs.Call.Attempt
import HttpCourier.Proofs.Call.Cancellation
import HttpCourier.Proofs.Call.Content
import HttpCourier.Proofs.Call.Discretion
import HttpCourier.Proofs.Call.Extent
import HttpCourier.Proofs.Call.Headers
import HttpCourier.Proofs.Call.Interruption
import HttpCourier.Proofs.Call.Isolation
import HttpCourier.Proofs.Call.Measures
import HttpCourier.Proofs.Call.Moves
import HttpCourier.Proofs.Call.Retries
import HttpCourier.Proofs.Call.Return
import HttpCourier.Proofs.Call.Runs
import HttpCourier.Proofs.Call.Shape
import HttpCourier.Proofs.Call.Starts
import HttpCourier.Proofs.Call.TaskCancellation
import HttpCourier.Proofs.Call.Waits
import HttpCourier.Proofs.Computation
import HttpCourier.Proofs.Credential.Application
import HttpCourier.Proofs.Credential.Mapping
import HttpCourier.Proofs.Credential.Recovery
import HttpCourier.Proofs.Json.Cleaning
import HttpCourier.Proofs.Json.Comments
import HttpCourier.Proofs.Json.Digits
import HttpCourier.Proofs.Json.Lexemes
import HttpCourier.Proofs.Json.Numerals
import HttpCourier.Proofs.Json.Pared
import HttpCourier.Proofs.Json.Pieces
import HttpCourier.Proofs.Json.Printed
import HttpCourier.Proofs.Json.Relaxed
import HttpCourier.Proofs.Json.Writable
import HttpCourier.Proofs.Redaction
import HttpCourier.Proofs.Redaction.Passwords
import HttpCourier.Proofs.Redaction.Unchanged
import HttpCourier.Proofs.Request.Agreement
import HttpCourier.Proofs.Request.Blame
import HttpCourier.Proofs.Request.Limits
import HttpCourier.Proofs.Request.Nulls
import HttpCourier.Proofs.Request.Reading
import HttpCourier.Proofs.Request.Remarks
import HttpCourier.Proofs.Request.Rendering
import HttpCourier.Proofs.Request.Spellings
import HttpCourier.Proofs.Request.Targets
import HttpCourier.Proofs.Request.TextMap
import HttpCourier.Proofs.Request.Verdicts
import HttpCourier.Proofs.Result.Content
import HttpCourier.Proofs.Text.Base64
import HttpCourier.Proofs.Text.Case
import HttpCourier.Proofs.Text.Lowering
import HttpCourier.Proofs.Text.Utf8
import HttpCourier.Proofs.Transport.Alike
import HttpCourier.Proofs.Transport.Buffer
import HttpCourier.Proofs.Transport.Course
import HttpCourier.Proofs.Transport.Faults
import HttpCourier.Proofs.Url.Batch
import HttpCourier.Proofs.Url.Form
import HttpCourier.Proofs.Url.Parts
import HttpCourier.Proofs.Wire.Admission
import HttpCourier.Proofs.Wire.Carried
import HttpCourier.Proofs.Wire.Content
import HttpCourier.Proofs.Wire.ContentType
import HttpCourier.Proofs.Wire.Framing
import HttpCourier.Proofs.Wire.MediaType
import HttpCourier.Proofs.Wire.Order
import HttpCourier.Proofs.Wire.Query
import HttpCourier.Proofs.Wire.Reordering
import HttpCourier.Proofs.Wire.TextFields
import HttpCourier.Proofs.Wire.Variation
