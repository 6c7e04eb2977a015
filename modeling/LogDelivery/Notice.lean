import LogDelivery.Buffer
import LogDelivery.Duration
import LogDelivery.Failure
import LogDelivery.Level
import LogDelivery.Route
import LogDelivery.Text.Quoted

/-!
# Notices

What a pipeline says about itself. Each notice has a level, the part of the library that it comes from,
and a text; a line shows the level and the text.
-/
namespace LogDelivery

inductive Notice where
  -- buffers, throttling and masking
  | bufferFull (capacity total : Nat)
  | errorSuppressed (kind : String) (max : Nat)
  | ruleEnabled (label : String)
  -- settings
  | routeUnknown (value : String)
  | routeUnreadable (value : String)
  | rulesUnreadable
  | valueUnreadable (value name : String)
  | secretKindUnknown (message : String)
  -- identity
  | lookupFailed (app text : String)
  | lookupRefused (app status : String)
  | lookupUnreadable (app : String)
  -- batches and payloads
  | flushed (events : Nat)
  | batchUnwritable (events : Nat) (cause : Failure)
  | batchKept (cause : Failure)
  | batchSent (events : Nat)
  | batchHeld (cause : Failure)
  | batchRefused (cause : Failure)
  | payloadUnsendable (events : Nat) (cause : Failure)
  | payloadDelivered (events retry : Nat)
  | payloadGivenUp (events retries : Nat) (cause : Failure)
  | payloadLost
  | backlogFull
  -- the two routes
  | proxyUnreadable
  | keyUnusable
  | keyMissing
  | requestFailed (url text : String)
  | keyRejected
  | collectorAnswered (status : String)
  | agentAnswered (status : Nat)
  -- the life of a pipeline
  | started (app : String) (route : Route)
  | cycleFailed (cause : Failure)
  | nextCycle (delay : Duration)
  | lastFlushSent (events : Nat)
  | lastFlushFailed (left : Nat) (cause : Failure)
  | shutDown
  | workerFailed
  | shutdownTimedOut (timeout : Duration) (left : Nat)
  -- forwarding lines
  | noticesOn
  | cannotStart (message : String)
  | inputEnded
  | inputUnreadable (message : String)
  | forwarded (lines : Nat)
  | shutdownFailed (message : String)
  deriving DecidableEq, Repr

namespace Notice

def level : Notice → Level
  | .started .. | .forwarded _ => .info
  | .routeUnknown _ | .rulesUnreadable | .valueUnreadable .. | .secretKindUnknown _ | .backlogFull
  | .payloadGivenUp .. | .lastFlushFailed .. | .shutdownTimedOut .. => .warn
  | .batchUnwritable .. | .batchRefused _ | .proxyUnreadable | .keyUnusable | .keyRejected
  | .workerFailed | .cannotStart _ | .inputUnreadable _ | .shutdownFailed _ => .error
  | _ => .debug

/-- The part of the library that a notice comes from, by which notices can be selected. -/
def source : Notice → String
  | .bufferFull .. => "log_shipper::queue"
  | .errorSuppressed .. => "log_shipper::governor"
  | .ruleEnabled _ => "log_shipper::masking"
  | .routeUnknown _ | .rulesUnreadable | .valueUnreadable .. | .secretKindUnknown _ =>
    "log_shipper::config"
  | .routeUnreadable _ => "log_shipper::config::transport_mode"
  | .lookupFailed .. | .lookupRefused .. | .lookupUnreadable _ => "log_shipper::identity"
  | .flushed _ => "log_shipper::collector"
  | .batchUnwritable .. | .batchKept _ | .batchSent _ | .batchHeld _ | .batchRefused _ =>
    "log_shipper::transport"
  | .payloadUnsendable .. | .payloadDelivered .. | .payloadGivenUp .. | .payloadLost | .backlogFull =>
    "log_shipper::resend"
  | .proxyUnreadable | .keyUnusable | .keyMissing | .requestFailed .. | .keyRejected
  | .collectorAnswered _ => "log_shipper::transport::http"
  | .agentAnswered _ => "log_shipper::transport::uds"
  | .started .. | .cycleFailed _ | .nextCycle _ | .lastFlushSent _ | .lastFlushFailed .. | .shutDown
  | .workerFailed | .shutdownTimedOut .. => "log_shipper::pipeline"
  | .noticesOn | .cannotStart _ | .inputEnded | .inputUnreadable _ | .forwarded _
  | .shutdownFailed _ => "log_shipper_forwarder"

def text : Notice → String
  | .bufferFull capacity total =>
    s!"Queue full ({capacity} items), dropped oldest element ({total} dropped so far)"
  | .errorSuppressed kind max =>
    "GOVERNOR | Suppressing error '" ++ kind ++ s!"' after {max} occurrences this minute"
  | .ruleEnabled label => "MASKING | Enabled rule '" ++ label ++ "'"
  | .routeUnknown value => "Invalid LOG_SHIPPER_TRANSPORT '" ++ value ++ "', using direct"
  | .routeUnreadable value => "Invalid transport mode: " ++ value ++ ", using direct"
  | .rulesUnreadable => "Invalid LOG_SHIPPER_CUSTOM_MASKS, ignoring: "
  | .valueUnreadable value name =>
    "Invalid value '" ++ value ++ "' for LOG_SHIPPER_" ++ name ++ ", using default"
  | .secretKindUnknown message => "Ignoring LOG_SHIPPER_MASKS entry: " ++ message
  | .lookupFailed app text => "IDENTITY | Lookup for '" ++ app ++ "' failed: " ++ text
  | .lookupRefused app status => "IDENTITY | Lookup for '" ++ app ++ "' returned " ++ status
  | .lookupUnreadable app => "IDENTITY | Could not decode identity for '" ++ app ++ "'"
  | .flushed events => s!"COLLECTOR | Flushed {events} events"
  | .batchUnwritable events cause =>
    s!"TRANSPORT | Dropping batch of {events} events: " ++ cause.message
  | .batchKept cause =>
    "TRANSPORT | Resend failed, keeping current batch for later: " ++ cause.message
  | .batchSent events => s!"TRANSPORT | Sent batch of {events} events"
  | .batchHeld cause => "TRANSPORT | Send failed, batch queued for resend: " ++ cause.message
  | .batchRefused cause => "TRANSPORT | Batch dropped, collector refused it: " ++ cause.message
  | .payloadUnsendable events cause =>
    s!"RESEND | Dropping payload of {events} events: " ++ cause.message
  | .payloadDelivered events retry => s!"RESEND | Delivered payload of {events} events on retry {retry}"
  | .payloadGivenUp events retries cause =>
    s!"RESEND | Giving up on payload of {events} events after {retries} retries: " ++ cause.message
  | .payloadLost => "RESEND | Queue full, failed payload dropped"
  | .backlogFull => "RESEND | Queue full, oldest failed payload dropped"
  | .proxyUnreadable => "TRANSPORT | Unable to parse proxy configuration: "
  | .keyUnusable => "TRANSPORT | API key is not a valid header value"
  | .keyMissing => "TRANSPORT | No API key available, sending without one"
  | .requestFailed url text => "TRANSPORT | Request to " ++ url ++ " failed: " ++ text
  | .keyRejected =>
    "TRANSPORT | Collector rejected the API key. Please verify that it is valid."
  | .collectorAnswered status => "TRANSPORT | Collector responded with " ++ status
  | .agentAnswered status => s!"TRANSPORT | Agent responded with {status}"
  | .started app route => "PIPELINE | Started for '" ++ app ++ "' (" ++ route.name ++ " transport)"
  | .cycleFailed cause => "SCHEDULER | Flush failed: " ++ cause.message
  | .nextCycle delay => "SCHEDULER | Next flush in " ++ delay.text
  | .lastFlushSent events => s!"SCHEDULER | Final flush sent {events} events"
  | .lastFlushFailed left cause =>
    s!"SCHEDULER | Final flush failed, {left} events dropped: " ++ cause.message
  | .shutDown => "PIPELINE | Shut down cleanly"
  | .workerFailed => "PIPELINE | Background task failed: "
  | .shutdownTimedOut timeout left =>
    "PIPELINE | Final flush did not finish within " ++ timeout.text ++ s!", {left} events left behind"
  | .noticesOn => "Logging subsystem enabled"
  | .cannotStart message => "Unable to start log shipper: " ++ message
  | .inputEnded => "Reached end of input"
  | .inputUnreadable message => "Failed to read from stdin: " ++ message
  | .forwarded lines => s!"Forwarded {lines} lines"
  | .shutdownFailed message => message

def lineStart : String := "LOG_SHIPPER"

def line (n : Notice) : String := lineStart ++ " | " ++ n.level.name ++ " | " ++ Text.plain n.text

end Notice

def Buffer.offerNotices (b : Buffer α) (a : α) : List Notice :=
  let (b, lost) := b.offer a
  if lost then [.bufferFull b.capacity b.evicted] else []

end LogDelivery
