import LogDelivery.Proofs.Logbook
import LogDelivery.Proofs.Moves

/-!
# The chronicle of a pipeline

History variables of a pipeline, which it never reads. Accepted events are known by their place in
the order of acceptance. The chronicle notes which places were evicted from the outbox, which went
into each batch, and keeps the courier's logbook.
-/
namespace LogDelivery

/-- A lot is the places of the events of one batch. Lots are in the order in which their batches
were taken out of the outbox. -/
structure Chronicle where
  pipeline : Pipeline
  accepted : List Event := []
  evicted : List Nat := []
  lots : List (List Nat) := []
  log : Logbook

namespace Chronicle

def start (s : Settings) (codec : Codec) (redactor : Redactor) (capacity : Nat) (pause : Duration)
    (identity : IdentitySource) (rules : RuleBook) : Chronicle where
  pipeline := .start s ⟨codec, redactor, .withCapacity capacity pause⟩ identity rules
  log := { shelf := .withCapacity capacity }

/-- The place of the oldest event in the outbox, or of the next event if there is none. -/
def front (c : Chronicle) : Nat := c.accepted.length - c.pipeline.pending

def append (c : Chronicle) (e : Event) (now : Nat) : Chronicle :=
  let (pipeline, passes) := c.pipeline.append e now
  if passes then
    { c with
      pipeline
      accepted := c.accepted ++ [e]
      evicted := if c.pipeline.outbox.events.isFull then c.evicted ++ [c.front] else c.evicted }
  else { c with pipeline }

/-- Notes a batch that comes out of the outbox, or that goes to the courier. -/
def follow (c : Chronicle) (pipeline : Pipeline) : Chronicle :=
  match c.pipeline.batchOut?, pipeline.batchOut? with
  | none, some batch =>
    { c with pipeline, lots := c.lots ++ [List.range' c.front batch.size] }
  | some batch, none =>
    { c with pipeline, log := c.log.sent c.pipeline.courier c.pipeline.rules batch }
  | _, _ => { c with pipeline }

def answered (c : Chronicle) (r : Except Failure Unit) : Chronicle :=
  { c with pipeline := (c.pipeline.answered r).1, log := c.log.answered c.pipeline.sending r }

def resumed (c : Chronicle) : Chronicle :=
  { c with pipeline := c.pipeline.paused.1, log := c.log.paused c.pipeline.sending }

def next (c : Chronicle) : Pipeline.Move → Chronicle
  | .append e now => c.append e now
  | .answer r => c.answered r
  | .resume => c.resumed
  | move => c.follow (c.pipeline.next move)

def run (c : Chronicle) (moves : List Pipeline.Move) : Chronicle := moves.foldl next c

def round (c : Chronicle) : Round := ⟨c.pipeline.courier, c.pipeline.sending, c.log⟩

theorem wait_eq_answer_iff {c : Chronicle} {payload : Payload} :
    c.pipeline.wait = .answer payload ↔
      ∃ d, c.log.underway c.pipeline.sending = some d ∧ d.payload = payload := by
  rw [Pipeline.wait_eq]
  exact c.round.wait_eq_answer_iff

def batches (c : Chronicle) : List Batch :=
  c.log.consignments.map (·.batch) ++ c.pipeline.batchOut?.toList

def lot (c : Chronicle) (n : Nat) : List Nat := c.lots.getD n []

def queued (c : Chronicle) : List Nat := List.range' c.front c.pipeline.pending

def kept (c : Chronicle) : List Nat := c.log.shelf.items.map Prod.fst

def inHand (c : Chronicle) : List Nat :=
  match c.pipeline.worker with
  | .flushing _ (.sending ..) => [c.log.consignments.length]
  | .delivering _ _ (.posting _) => [c.log.current]
  | .delivering _ _ (.replaying (.posting ..) _) => [c.log.taken, c.log.current]
  | .delivering _ _ (.replaying ..) => [c.log.current]
  | _ => []

theorem pipeline_append (c : Chronicle) (e : Event) (now : Nat) :
    (c.append e now).pipeline = (c.pipeline.append e now).1 := by
  by_cases h : (c.pipeline.append e now).2 <;> simp [append, h]

theorem pipeline_follow (c : Chronicle) (p : Pipeline) : (c.follow p).pipeline = p := by
  unfold follow
  split <;> rfl

theorem pipeline_next (c : Chronicle) (move : Pipeline.Move) :
    (c.next move).pipeline = c.pipeline.next move := by
  cases move with
  | append e now => exact c.pipeline_append e now
  | answer r => rfl
  | resume => rfl
  | govern rules => exact c.pipeline_follow _
  | wake => exact c.pipeline_follow _
  | cancel => exact c.pipeline_follow _
  | work now => exact c.pipeline_follow _

theorem pipeline_run (c : Chronicle) (moves : List Pipeline.Move) :
    (c.run moves).pipeline = moves.foldl Pipeline.next c.pipeline := by
  induction moves generalizing c with
  | nil => rfl
  | cons move moves ih => exact (ih (c.next move)).trans (by rw [pipeline_next]; rfl)

end Chronicle
end LogDelivery
