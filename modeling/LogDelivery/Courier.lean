import LogDelivery.Backlog
import LogDelivery.Redaction.Redactor

/-!
# The courier

The courier delivers batches. A batch is redacted and encoded as it comes; then the backlog is replayed,
and only when that has gone well is the new payload posted. What fails and may still succeed goes to
the backlog. A delivery is a sequence of waits, each for the answer to a post or for a pause to end.
-/
namespace LogDelivery

structure Courier where
  codec : Codec
  redactor : Redactor
  backlog : Backlog

inductive Sending where
  | replaying (replay : Replay) (payload : Payload)
  | posting (payload : Payload)
  | ended (result : Except Failure Unit)

inductive Wait where
  | answer (payload : Payload)
  | pause (length : Duration)
  | nothing

namespace Courier

/-- Follows a replay that may have ended: with a failure the payload is kept for later, otherwise its turn
has come. -/
def afterReplay (c : Courier) (backlog : Backlog) (replay : Replay) (payload : Payload) :
    Courier × Sending × List Notice :=
  match replay with
  | .ended (.ok _) => ({ c with backlog }, .posting payload, [])
  | .ended (.error cause) =>
    ({ c with backlog := backlog.hold payload }, .ended (.error cause),
     .batchKept cause :: backlog.holdNotices payload)
  | replay => ({ c with backlog }, .replaying replay payload, [])

/-- Takes a batch; the rules are those in force now. -/
def send (c : Courier) (book : RuleBook) (batch : Batch) : Courier × Sending × List Notice :=
  match c.codec (c.redactor.apply book batch) with
  | .error text =>
    (c, .ended (.error (.encode text)), [.batchUnwritable batch.size (.encode text)])
  | .ok payload =>
    if c.backlog.isEmpty then (c, .posting payload, [])
    else
      let (backlog, replay) := c.backlog.beginReplay
      c.afterReplay backlog replay payload

def answered (c : Courier) (s : Sending) (r : Except Failure Unit) :
    Courier × Sending × List Notice :=
  match s with
  | .posting payload =>
    match r with
    | .ok () => (c, .ended (.ok ()), [.batchSent payload.events])
    | .error cause =>
      let (backlog, kept) := c.backlog.offer payload cause
      ({ c with backlog }, .ended (.error cause),
       c.backlog.offerNotices payload cause ++
         [if kept then .batchHeld cause else .batchRefused cause])
  | .replaying (.posting parcel count) payload =>
    let (backlog, replay, notices) := c.backlog.answered parcel count r
    let (c, s, more) := c.afterReplay backlog replay payload
    (c, s, notices ++ more)
  | s => (c, s, [])

def paused (c : Courier) (s : Sending) : Courier × Sending × List Notice :=
  match s with
  | .replaying (.pausing count) payload =>
    let (backlog, replay) := c.backlog.nextParcel count
    c.afterReplay backlog replay payload
  | s => (c, s, [])

def wait (c : Courier) : Sending → Wait
  | .posting payload => .answer payload
  | .replaying (.posting parcel _) _ => .answer parcel.payload
  | .replaying (.pausing _) _ => .pause c.backlog.pause
  | .replaying (.ended _) _ | .ended _ => .nothing

end Courier
end LogDelivery
