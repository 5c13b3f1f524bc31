import OneTimeCode.Text.Blank
import OneTimeCode.Text.Case
import OneTimeCode.Text.Digit
import OneTimeCode.Text.Quoted
import OneTimeCode.Json.Basic
import OneTimeCode.Json.Kind
import OneTimeCode.Number.Decimal
import OneTimeCode.Json.Reader
import OneTimeCode.Json.Writer
import OneTimeCode.Encoding.Base64
import OneTimeCode.Encoding.Escape
import OneTimeCode.Encoding.Form
import OneTimeCode.Language.Header
import OneTimeCode.Language.Lookup
import OneTimeCode.Language.Supported
import OneTimeCode.Counter
import OneTimeCode.Excerpt
import OneTimeCode.Log
import OneTimeCode.Log.Setup
import OneTimeCode.Platform
import OneTimeCode.Redaction
import OneTimeCode.Settings
import OneTimeCode.Settings.ByName
import OneTimeCode.Settings.Loading
import OneTimeCode.Settings.Process
import OneTimeCode.Transport.Delivery
import OneTimeCode.Transport.Session
import OneTimeCode.Verification.Reply
import OneTimeCode.Verification.Call
import OneTimeCode.Verification.Client
import OneTimeCode.Offline
import OneTimeCode.UserError
import OneTimeCode.Workflow
import OneTimeCode.CommandLine.Arguments
import OneTimeCode.CommandLine.Report
import OneTimeCode.CommandLine.Run
import OneTimeCode.Main
import OneTimeCode.Proofs.Text.Pieces
import OneTimeCode.Proofs.Text.Trimming
import OneTimeCode.Proofs.Encoding.Percent
import OneTimeCode.Proofs.Encoding.Form
import OneTimeCode.Proofs.Json.Display
import OneTimeCode.Proofs.Transport.Deciding
import OneTimeCode.Proofs.Transport.Alike
import OneTimeCode.Proofs.Verification.Verdict
import OneTimeCode.Proofs.Verification.Course
import OneTimeCode.Proofs.Verification.Promises
import OneTimeCode.Proofs.Verification.Approval
import OneTimeCode.Proofs.Verification.Identifier
import OneTimeCode.Proofs.Workflow
import OneTimeCode.Proofs.Text.Order
import OneTimeCode.Proofs.Counter.Order
import OneTimeCode.Proofs.Counter.Registry
import OneTimeCode.Proofs.Counter.Tags
import OneTimeCode.Proofs.Verification.Counts
import OneTimeCode.Proofs.Verification.Settlements
import OneTimeCode.Proofs.Verification.Origins
import OneTimeCode.Proofs.Verification.Hash
import OneTimeCode.Proofs.Verification.Places
import OneTimeCode.Proofs.Verification.Interleaving
import OneTimeCode.Proofs.Verification.OrderIndependence
import OneTimeCode.Proofs.Verification.Accounts
import OneTimeCode.Proofs.Verification.Conservation
import OneTimeCode.Proofs.Verification.Sinks
import OneTimeCode.Proofs.Verification.Secrets
import OneTimeCode.Proofs.Offline
import OneTimeCode.Proofs.Language.Lookup
import OneTimeCode.Proofs.Verification.Silence
import OneTimeCode.Proofs.Verification.Closing
import OneTimeCode.Proofs.Substitution
import OneTimeCode.Proofs.CommandLine.Arguments
import OneTimeCode.Proofs.CommandLine.Endings
import OneTimeCode.Proofs.CommandLine.ExitCodes
import OneTimeCode.Proofs.Named
import OneTimeCode.Proofs.Sorting
import OneTimeCode.Proofs.Language.Exclusion
import OneTimeCode.Proofs.Language.Shrinking
import OneTimeCode.Proofs.Transport.Retrying
import OneTimeCode.Proofs.Verification.Attempts
import OneTimeCode.Proofs.Verification.Handover
import OneTimeCode.Proofs.Verification.Addresses
import OneTimeCode.Proofs.Counter.History
import OneTimeCode.Proofs.Encoding.DotSegments
import OneTimeCode.Proofs.Verification.Reach
import OneTimeCode.Proofs.Number.Rounding
import OneTimeCode.Proofs.Language.Quality
import OneTimeCode.Proofs.Text.Case
import OneTimeCode.Proofs.Language.Entries
import OneTimeCode.Proofs.Language.Headers
import OneTimeCode.Proofs.Language.Acceptance
import OneTimeCode.Proofs.Settings
import OneTimeCode.Proofs.Encoding.Base64
import OneTimeCode.Proofs.Settings.Renewal
import OneTimeCode.Proofs.Number.Integer
import OneTimeCode.Proofs.Settings.Loading
import OneTimeCode.Proofs.Platform
import OneTimeCode.Proofs.Verification.Credentials
import OneTimeCode.Proofs.Verification.Platforms
import OneTimeCode.Proofs.Log.Faults
import OneTimeCode.Proofs.Log.Repetition
