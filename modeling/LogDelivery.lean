import LogDelivery.AccessKey
import LogDelivery.Backlog
import LogDelivery.Buffer
import LogDelivery.Courier
import LogDelivery.Decimal
import LogDelivery.Document
import LogDelivery.Duration
import LogDelivery.Event
import LogDelivery.Event.Decoder
import LogDelivery.Event.Document
import LogDelivery.Failure
import LogDelivery.Fingerprint
import LogDelivery.Forwarder
import LogDelivery.Identity.Cache
import LogDelivery.Identity.Lookup
import LogDelivery.Identity.Source
import LogDelivery.Json
import LogDelivery.Json.Decoder
import LogDelivery.Json.Numeral
import LogDelivery.Json.Parser
import LogDelivery.Level
import LogDelivery.LogFilter
import LogDelivery.Main
import LogDelivery.MessagePack
import LogDelivery.MessagePack.Reader
import LogDelivery.Notice
import LogDelivery.Outbox
import LogDelivery.Pace
import LogDelivery.Pattern.Basic
import LogDelivery.Pattern.Class
import LogDelivery.Pattern.Parser
import LogDelivery.Pattern.Size
import LogDelivery.Payload
import LogDelivery.Peer
import LogDelivery.Pipeline
import LogDelivery.Pipeline.Opening
import LogDelivery.Proofs.Accounting
import LogDelivery.Proofs.Addresses
import LogDelivery.Proofs.Buffer
import LogDelivery.Proofs.Chronicle
import LogDelivery.Proofs.Completion
import LogDelivery.Proofs.Conservation
import LogDelivery.Proofs.Consistency
import LogDelivery.Proofs.DelayLimits
import LogDelivery.Proofs.Editing
import LogDelivery.Proofs.ErrorRedaction
import LogDelivery.Proofs.EventReading
import LogDelivery.Proofs.FailureStreak
import LogDelivery.Proofs.Fallbacks
import LogDelivery.Proofs.Fingerprints
import LogDelivery.Proofs.FirstFailure
import LogDelivery.Proofs.Flushing
import LogDelivery.Proofs.Footprint
import LogDelivery.Proofs.Forwarding
import LogDelivery.Proofs.Freshness
import LogDelivery.Proofs.Interchange
import LogDelivery.Proofs.JsonText
import LogDelivery.Proofs.LastFlush
import LogDelivery.Proofs.Latecomers
import LogDelivery.Proofs.Ledger
import LogDelivery.Proofs.Lines
import LogDelivery.Proofs.Logbook
import LogDelivery.Proofs.Marking
import LogDelivery.Proofs.Masking
import LogDelivery.Proofs.Matching
import LogDelivery.Proofs.Moves
import LogDelivery.Proofs.Numbers
import LogDelivery.Proofs.Origins
import LogDelivery.Proofs.Packing
import LogDelivery.Proofs.Places
import LogDelivery.Proofs.Records
import LogDelivery.Proofs.Registry
import LogDelivery.Proofs.Rehearsals
import LogDelivery.Proofs.Replays
import LogDelivery.Proofs.Retention
import LogDelivery.Proofs.Retries
import LogDelivery.Proofs.Rounds
import LogDelivery.Proofs.Scanning
import LogDelivery.Proofs.Secrets
import LogDelivery.Proofs.Settling
import LogDelivery.Proofs.Shutdown
import LogDelivery.Proofs.Spelling
import LogDelivery.Proofs.Threshold
import LogDelivery.Proofs.Timetable
import LogDelivery.Proofs.Tolerance
import LogDelivery.Proofs.Trimming
import LogDelivery.Proofs.Walks
import LogDelivery.Proofs.WorkerLoop
import LogDelivery.Redaction.Redactor
import LogDelivery.Redaction.RuleBook
import LogDelivery.Redaction.SecretKind
import LogDelivery.Rehearsal
import LogDelivery.Rehearsal.Delivery
import LogDelivery.Route
import LogDelivery.Settings
import LogDelivery.SocketPath
import LogDelivery.Tags
import LogDelivery.Text.Basic
import LogDelivery.Text.LowerCase
import LogDelivery.Text.Quoted
import LogDelivery.Text.Utf8
import LogDelivery.Throttle
import LogDelivery.Trace.Capture
import LogDelivery.Trace.Line
import LogDelivery.Trace.Record
import LogDelivery.Unicode.Casing
import LogDelivery.Unicode.Category
import LogDelivery.Unicode.CodeSet
import LogDelivery.Unicode.Property
import LogDelivery.Unicode.Script
import LogDelivery.Wire.Agent
import LogDelivery.Wire.Connection
import LogDelivery.Wire.Direct
import LogDelivery.Wire.ProxyAddress
import LogDelivery.Wire.Request
import LogDelivery.Wire.Server
import LogDelivery.Wire.StatusPhrase
