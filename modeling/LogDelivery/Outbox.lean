import LogDelivery.Event
import LogDelivery.Notice

/-!
# The outbox

Events wait in a bounded buffer until a flush takes them out in batches of at most a hundred. A flush
looks up the identity once and hands over as many events as there were when it began, batch by batch; it ends with
the first batch that fails.
-/
namespace LogDelivery

structure Outbox where
  events : Buffer Event
  context : Context

inductive Flush where
  | lookingUp (total : Nat)
  | sending (batch : Batch) (sent total : Nat)
  | ended (result : Except Failure Nat)

namespace Outbox

def maxBatch : Nat := 100

def withCapacity (capacity : Nat) (context : Context) : Outbox := ⟨.withCapacity capacity, context⟩

def append (o : Outbox) (e : Event) : Outbox := { o with events := (o.events.offer e).1 }

def pending (o : Outbox) : Nat := o.events.size

def beginFlush (o : Outbox) : Flush :=
  if o.events.isEmpty then .ended (.ok 0) else .lookingUp o.pending

/-- Takes out the next batch, or ends the flush when all has been sent or nothing is left. -/
def nextBatch (o : Outbox) (identity : Option Identity) (sent total : Nat) :
    Outbox × Flush × List Notice :=
  let (events, rest) := o.events.takeFront (min maxBatch (total - sent))
  if events.isEmpty then (o, .ended (.ok sent), [.flushed sent])
  else
    ({ o with events := rest }, .sending ⟨{ o.context with identity }, events⟩ sent total, [])

def identified (o : Outbox) (identity : Option Identity) : Flush → Outbox × Flush × List Notice
  | .lookingUp total => o.nextBatch identity 0 total
  | f => (o, f, [])

def settled (o : Outbox) (r : Except Failure Unit) : Flush → Outbox × Flush × List Notice
  | .sending batch sent total =>
    match r with
    | .ok () => o.nextBatch batch.context.identity (sent + batch.size) total
    | .error cause => (o, .ended (.error cause), [])
  | f => (o, f, [])

end Outbox
end LogDelivery
