import LogDelivery.Event
import LogDelivery.Trace.Record

/-!
# Capturing trace records

A trace record becomes an event: values become tags, the message becomes the event's message, and the first
error becomes the event's error. Records of the delivery itself and of the network below it are left out, so
that failing deliveries do not feed on themselves.
-/
namespace LogDelivery

structure Capture where
  message : Option String := none
  error : Option ErrorChain := none
  tags : List (String × String) := []

namespace Capture

/-- Parts of programs whose records are left out, with all parts below them. -/
def ignoredTargets : List String := ["log_shipper", "hyper", "hyper_util", "h2", "reqwest", "rustls"]

def isIgnored (target : String) : Bool :=
  ignoredTargets.any fun t => target = t || (t ++ "::").isPrefixOf target

def addTag (c : Capture) (f : Field) : Capture := { c with tags := c.tags ++ [(f.name, f.value.plain)] }

/-- Takes in a field. An error counts as one under every name; the errors after the first one become tags. -/
def add (c : Capture) (f : Field) : Capture :=
  match f.value, c.error with
  | .error message causes, none => { c with error := some (.ofMessages message causes) }
  | .error .., some _ => c.addTag f
  | value, _ => if f.isMessage then { c with message := some value.plain } else c.addTag f

def ofFields (fields : List Field) : Capture := fields.foldl add {}

end Capture

namespace TraceRecord

def frame (r : TraceRecord) : Frame := ⟨r.module.getD r.target, r.file, r.line⟩

def placed (r : TraceRecord) (e : ErrorChain) : ErrorChain :=
  if e.outer.frames.isEmpty then e.mapOuter fun n => { n with frames := [r.frame] } else e

def event (r : TraceRecord) (thread : String) (timestamp : UInt64) : Event :=
  let c := Capture.ofFields r.fields
  let message := c.message.getD ""
  { message := some (match c.error with
      | some e => if message.isEmpty then e.outer.message else message
      | none => message)
    level := r.level
    timestamp
    thread := some thread
    location := some ⟨r.file, r.module, r.line⟩
    error := c.error.map r.placed
    tags := .ofList c.tags }

def isWanted (r : TraceRecord) (least : Level) : Bool :=
  !Capture.isIgnored r.target && least ≤ r.level

def capture? (r : TraceRecord) (least : Level) (thread : String) (timestamp : UInt64) : Option Event :=
  if r.isWanted least then some (r.event thread timestamp) else none

end TraceRecord
end LogDelivery
