import LogDelivery.Notice
import LogDelivery.Payload

/-!
# The backlog

Payloads that could not be delivered wait in a bounded buffer. They are posted again one by one, the
oldest first, with a pause between two posts; a replay ends at the first failure. A payload is given up after its
third failed replay, or when nothing can be gained by posting it again.
-/
namespace LogDelivery

/-- A payload that waits, and how many of its replays have failed. -/
structure Parcel where
  payload : Payload
  failures : Nat
  deriving DecidableEq, Repr

structure Backlog where
  parcels : Buffer Parcel
  pause : Duration

/-- A replay in progress, with the number of payloads it has delivered. -/
inductive Replay where
  | posting (parcel : Parcel) (delivered : Nat)
  | pausing (delivered : Nat)
  | ended (result : Except Failure Nat)

namespace Backlog

def maxFailures : Nat := 3

def withCapacity (capacity : Nat) (pause : Duration) : Backlog := ⟨.withCapacity capacity, pause⟩

def size (b : Backlog) : Nat := b.parcels.size

def isEmpty (b : Backlog) : Bool := b.parcels.isEmpty

def hold (b : Backlog) (p : Payload) : Backlog := { b with parcels := (b.parcels.offer ⟨p, 0⟩).1 }

def holdNotices (b : Backlog) (p : Payload) : List Notice :=
  b.parcels.offerNotices ⟨p, 0⟩ ++ if (b.parcels.offer ⟨p, 0⟩).2 then [.backlogFull] else []

def accepts (cause : Failure) : Bool := cause.isRetryable

/-- Keeps a payload whose post failed, if that is of use. The answer is whether it is kept. -/
def offer (b : Backlog) (p : Payload) (cause : Failure) : Backlog × Bool :=
  if accepts cause then (b.hold p, true) else (b, false)

def offerNotices (b : Backlog) (p : Payload) (cause : Failure) : List Notice :=
  if accepts cause then b.holdNotices p else [.payloadUnsendable p.events cause]

def nextParcel (b : Backlog) (delivered : Nat) : Backlog × Replay :=
  match b.parcels.popFront? with
  | some (parcel, parcels) => ({ b with parcels }, .posting parcel delivered)
  | none => (b, .ended (.ok delivered))

def beginReplay (b : Backlog) : Backlog × Replay := b.nextParcel 0

def delivered (b : Backlog) (count : Nat) : Backlog × Replay :=
  if b.isEmpty then (b, .ended (.ok (count + 1))) else (b, .pausing (count + 1))

def returned (b : Backlog) (parcel : Parcel) (cause : Failure) : Backlog :=
  let parcel := { parcel with failures := parcel.failures + 1 }
  if maxFailures ≤ parcel.failures || !cause.isRetryable then b
  else { b with parcels := (b.parcels.putBack parcel).1 }

def returnedNotices (b : Backlog) (parcel : Parcel) (cause : Failure) : List Notice :=
  let parcel := { parcel with failures := parcel.failures + 1 }
  if maxFailures ≤ parcel.failures || !cause.isRetryable then
    [.payloadGivenUp parcel.payload.events parcel.failures cause]
  else if (b.parcels.putBack parcel).2 then []
  else [.payloadLost]

def answered (b : Backlog) (parcel : Parcel) (count : Nat) :
    Except Failure Unit → Backlog × Replay × List Notice
  | .ok () =>
    let (b, replay) := b.delivered count
    (b, replay, [.payloadDelivered parcel.payload.events (parcel.failures + 1)])
  | .error cause =>
    (b.returned parcel cause, .ended (.error cause), b.returnedNotices parcel cause)

end Backlog
end LogDelivery
