import UserDirectory.Application
import UserDirectory.Decimal.Binary64
import UserDirectory.Decimal.Shortest
import UserDirectory.Envelope
import UserDirectory.Environment
import UserDirectory.Failure
import UserDirectory.Http.Message
import UserDirectory.Http.Uri
import UserDirectory.Json.Error
import UserDirectory.Json.Literal
import UserDirectory.Json.Number
import UserDirectory.Json.Record
import UserDirectory.Json.Skip
import UserDirectory.Json.Value
import UserDirectory.Launch
import UserDirectory.Log
import UserDirectory.Main
import UserDirectory.Proofs.Aliasing
import UserDirectory.Proofs.Arrivals
import UserDirectory.Proofs.CreatedAt
import UserDirectory.Proofs.Display
import UserDirectory.Proofs.Envelopes
import UserDirectory.Proofs.Except
import UserDirectory.Proofs.FieldFaults
import UserDirectory.Proofs.Framing
import UserDirectory.Proofs.Hits
import UserDirectory.Proofs.Http.Path
import UserDirectory.Proofs.Http.Target
import UserDirectory.Proofs.Isolation
import UserDirectory.Proofs.Json.Faults
import UserDirectory.Proofs.Json.Framing
import UserDirectory.Proofs.Json.Literal
import UserDirectory.Proofs.Json.Number
import UserDirectory.Proofs.Json.Record
import UserDirectory.Proofs.Json.Skip
import UserDirectory.Proofs.Json.Unambiguous
import UserDirectory.Proofs.Json.Value
import UserDirectory.Proofs.Launch
import UserDirectory.Proofs.Loading
import UserDirectory.Proofs.LogicalLines
import UserDirectory.Proofs.Lookup
import UserDirectory.Proofs.OpenQuotes
import UserDirectory.Proofs.Operations
import UserDirectory.Proofs.Precedence
import UserDirectory.Proofs.QuotedValues
import UserDirectory.Proofs.Records
import UserDirectory.Proofs.Routing
import UserDirectory.Proofs.Settings
import UserDirectory.Proofs.SettingsFile
import UserDirectory.Proofs.Steps
import UserDirectory.Proofs.Store
import UserDirectory.Proofs.Text.Digits
import UserDirectory.Proofs.Text.Quoted
import UserDirectory.Proofs.Text.Subparts
import UserDirectory.Proofs.Text.Utf8
import UserDirectory.Proofs.Time.Calendar
import UserDirectory.Proofs.Time.Date
import UserDirectory.Proofs.Time.Instant
import UserDirectory.Proofs.Time.Reading
import UserDirectory.Proofs.Time.Timestamp
import UserDirectory.Settings
import UserDirectory.SettingsFile.Entry
import UserDirectory.SettingsFile.Line
import UserDirectory.SettingsFile.Load
import UserDirectory.Store
import UserDirectory.Text.Alphanumeric
import UserDirectory.Text.CharClass
import UserDirectory.Text.Chars
import UserDirectory.Text.DefaultIgnorable
import UserDirectory.Text.Digits
import UserDirectory.Text.GraphemeExtend
import UserDirectory.Text.Quoted
import UserDirectory.Text.Unprintable
import UserDirectory.Text.Utf8
import UserDirectory.Text.WhiteSpace
import UserDirectory.Time.Date
import UserDirectory.Time.Instant
import UserDirectory.Time.Reading
import UserDirectory.User
import UserDirectory.Uuid
