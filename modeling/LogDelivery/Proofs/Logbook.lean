import LogDelivery.Courier
import LogDelivery.Proofs.Buffer

/-!
# The logbook of a courier

History variables of a courier, which it never reads. Batches are numbered in the order in which
they are handed over, and each parcel carries the number of its batch through the very buffer
operations that the backlog uses. A round is any sequence of deliveries, one after the other: the
wire answers as it likes, and the rules may change from batch to batch.
-/
namespace LogDelivery

namespace Courier

def write (c : Courier) (rules : RuleBook) (batch : Batch) : Except String Payload :=
  c.codec (c.redactor.apply rules batch)

variable (c : Courier)

theorem write_afterReplay (backlog : Backlog) (replay : Replay) (payload : Payload) :
    (c.afterReplay backlog replay payload).1.write = c.write := by
  unfold afterReplay
  split <;> rfl

theorem write_send (rules : RuleBook) (batch : Batch) : (c.send rules batch).1.write = c.write := by
  simp only [send]
  cases c.codec (c.redactor.apply rules batch) with
  | error text => rfl
  | ok payload =>
    by_cases he : c.backlog.isEmpty
    · simp [he]
    · simp [he, write_afterReplay]

theorem write_answered (s : Sending) (r : Except Failure Unit) :
    (c.answered s r).1.write = c.write := by
  match s, r with
  | .posting payload, .ok () => rfl
  | .posting payload, .error cause => rfl
  | .replaying (.posting parcel count) payload, r => exact write_afterReplay c ..
  | .replaying (.pausing count) payload, r => rfl
  | .replaying (.ended result) payload, r => rfl
  | .ended result, r => rfl

theorem write_paused (s : Sending) : (c.paused s).1.write = c.write := by
  match s with
  | .replaying (.pausing count) payload => exact write_afterReplay c ..
  | .replaying (.posting parcel count) payload => rfl
  | .replaying (.ended r) payload => rfl
  | .posting payload => rfl
  | .ended r => rfl

end Courier

/-- A batch as it was handed over, with the rules in force at that moment. -/
structure Consignment where
  rules : RuleBook
  batch : Batch

/-- A post that the wire sees, with the number of its batch. A post in the batch's own turn is retry
0; replays count from 1. -/
structure Dispatch where
  number : Nat
  retry : Nat
  payload : Payload

structure Post extends Dispatch where
  result : Except Failure Unit

namespace Post

def isDelivered (q : Post) : Bool := q.result matches .ok _

def isRetryable (q : Post) : Bool :=
  match q.result with
  | .ok _ => false
  | .error cause => cause.isRetryable

def isRefused (q : Post) : Bool :=
  match q.result with
  | .ok _ => false
  | .error cause => !cause.isRetryable

end Post

/-- Why a batch was given up. One that was crowded out of a full backlog, as its oldest, comes
with the batches that waited at that moment. -/
inductive Loss where
  | unwritable
  | refused
  | exhausted
  | crowdedOut (waiting : List Nat)

/-- The shelf is the backlog with the number of each parcel's batch; the number of the parcel that
has left it last is kept apart. -/
structure Logbook where
  consignments : List Consignment := []
  posts : List Post := []
  losses : List (Nat × Loss) := []
  shelf : Buffer (Nat × Parcel)
  taken : Nat := 0

namespace Logbook

def current (l : Logbook) : Nat := l.consignments.length - 1

def events (l : Logbook) (number : Nat) : List Event :=
  (l.consignments[number]?).elim [] (·.batch.events)

def give (l : Logbook) (rules : RuleBook) (batch : Batch) : Logbook :=
  { l with consignments := l.consignments ++ [⟨rules, batch⟩] }

def record (l : Logbook) (q : Post) : Logbook := { l with posts := l.posts ++ [q] }

def lose (l : Logbook) (number : Nat) (why : Loss) : Logbook :=
  { l with losses := l.losses ++ [(number, why)] }

def hold (l : Logbook) (payload : Payload) : Logbook :=
  let held := { l with shelf := (l.shelf.offer (l.current, ⟨payload, 0⟩)).1 }
  match l.shelf.isFull, l.shelf.items with
  | true, oldest :: _ => held.lose oldest.1 (.crowdedOut (l.shelf.items.map Prod.fst))
  | _, _ => held

def takeNext (l : Logbook) : Logbook :=
  match l.shelf.popFront? with
  | some (oldest, shelf) => { l with shelf, taken := oldest.1 }
  | none => l

def returned (l : Logbook) (parcel : Parcel) (cause : Failure) : Logbook :=
  let parcel := { parcel with failures := parcel.failures + 1 }
  if !cause.isRetryable then l.lose l.taken .refused
  else if Backlog.maxFailures ≤ parcel.failures then l.lose l.taken .exhausted
  else { l with shelf := (l.shelf.putBack (l.taken, parcel)).1 }

section Returned

variable (l : Logbook) (parcel : Parcel) {cause : Failure}

theorem returned_of_refused (hr : cause.isRetryable = false) :
    l.returned parcel cause = l.lose l.taken .refused := by
  simp [returned, hr]

theorem returned_of_exhausted (hr : cause.isRetryable = true)
    (hm : Backlog.maxFailures ≤ parcel.failures + 1) :
    l.returned parcel cause = l.lose l.taken .exhausted := by
  simp [returned, hr, hm]

theorem returned_of_patience (hr : cause.isRetryable = true)
    (hm : ¬ Backlog.maxFailures ≤ parcel.failures + 1) :
    l.returned parcel cause =
      { l with
        shelf := (l.shelf.putBack (l.taken, { parcel with failures := parcel.failures + 1 })).1 } := by
  simp [returned, hr, hm]

end Returned

def underway (l : Logbook) : Sending → Option Dispatch
  | .posting payload => some ⟨l.current, 0, payload⟩
  | .replaying (.posting parcel _) _ => some ⟨l.taken, parcel.failures + 1, parcel.payload⟩
  | _ => none

def sent (l : Logbook) (c : Courier) (rules : RuleBook) (batch : Batch) : Logbook :=
  let l := l.give rules batch
  match c.write rules batch with
  | .error _ => l.lose l.current .unwritable
  | .ok _ => l.takeNext

def answered (l : Logbook) (s : Sending) (r : Except Failure Unit) : Logbook :=
  match l.underway s with
  | none => l
  | some d =>
    let l := l.record ⟨d, r⟩
    match s, r with
    | .posting payload, .error cause =>
      if Backlog.accepts cause then l.hold payload else l.lose l.current .refused
    | .replaying (.posting parcel _) payload, .error cause => (l.returned parcel cause).hold payload
    | _, _ => l

def paused (l : Logbook) : Sending → Logbook
  | .replaying (.pausing _) _ => l.takeNext
  | _ => l

section Consignments

variable (l : Logbook)

@[simp] theorem consignments_takeNext : l.takeNext.consignments = l.consignments := by
  unfold takeNext
  split <;> rfl

@[simp] theorem consignments_hold (payload : Payload) :
    (l.hold payload).consignments = l.consignments := by
  unfold hold
  split <;> rfl

@[simp] theorem consignments_returned (parcel : Parcel) (cause : Failure) :
    (l.returned parcel cause).consignments = l.consignments := by
  cases hr : cause.isRetryable with
  | false => rw [returned_of_refused l parcel hr]; rfl
  | true =>
    by_cases hm : Backlog.maxFailures ≤ parcel.failures + 1
    · rw [returned_of_exhausted l parcel hr hm]; rfl
    · rw [returned_of_patience l parcel hr hm]

theorem consignments_sent (c : Courier) (rules : RuleBook) (batch : Batch) :
    (l.sent c rules batch).consignments = l.consignments ++ [⟨rules, batch⟩] := by
  unfold sent
  cases c.write rules batch with
  | error text => rfl
  | ok payload => exact consignments_takeNext _

theorem consignments_answered (s : Sending) (r : Except Failure Unit) :
    (l.answered s r).consignments = l.consignments := by
  match s, r with
  | .posting payload, .ok () => rfl
  | .posting payload, .error cause =>
    by_cases ha : Backlog.accepts cause
    · simp [answered, underway, ha, record]
    · simp [answered, underway, ha, record, lose]
  | .replaying (.posting parcel count) payload, .ok () => rfl
  | .replaying (.posting parcel count) payload, .error cause =>
    simp [answered, underway, record]
  | .replaying (.pausing count) payload, r => rfl
  | .replaying (.ended result) payload, r => rfl
  | .ended result, r => rfl

theorem consignments_paused (s : Sending) : (l.paused s).consignments = l.consignments := by
  unfold paused
  split
  · exact consignments_takeNext l
  · rfl

end Consignments

section Posts

variable (l : Logbook)

@[simp] theorem posts_takeNext : l.takeNext.posts = l.posts := by
  unfold takeNext
  split <;> rfl

@[simp] theorem posts_hold (payload : Payload) : (l.hold payload).posts = l.posts := by
  unfold hold
  split <;> rfl

@[simp] theorem posts_returned (parcel : Parcel) (cause : Failure) :
    (l.returned parcel cause).posts = l.posts := by
  cases hr : cause.isRetryable with
  | false => rw [returned_of_refused l parcel hr]; rfl
  | true =>
    by_cases hm : Backlog.maxFailures ≤ parcel.failures + 1
    · rw [returned_of_exhausted l parcel hr hm]; rfl
    · rw [returned_of_patience l parcel hr hm]

theorem posts_sent (c : Courier) (rules : RuleBook) (batch : Batch) :
    (l.sent c rules batch).posts = l.posts := by
  unfold sent
  cases c.write rules batch with
  | error text => rfl
  | ok payload => exact posts_takeNext _

theorem posts_answered (s : Sending) (r : Except Failure Unit) :
    (l.answered s r).posts = l.posts ++ (l.underway s).toList.map (⟨·, r⟩) := by
  match s, r with
  | .posting payload, .ok () => rfl
  | .posting payload, .error cause =>
    by_cases ha : Backlog.accepts cause
    · simp [answered, underway, ha, record]
    · simp [answered, underway, ha, record, lose]
  | .replaying (.posting parcel count) payload, .ok () => rfl
  | .replaying (.posting parcel count) payload, .error cause =>
    simp [answered, underway, record]
  | .replaying (.pausing count) payload, r => simp [answered, underway]
  | .replaying (.ended result) payload, r => simp [answered, underway]
  | .ended result, r => simp [answered, underway]

theorem posts_paused (s : Sending) : (l.paused s).posts = l.posts := by
  unfold paused
  split
  · exact posts_takeNext l
  · rfl

end Posts

end Logbook

structure Round where
  courier : Courier
  sending : Sending
  log : Logbook

namespace Round

/-- A batch is handed over under the rules of the moment, but not before the last delivery has
ended. An answer is one to the post that is awaited, and a pause may be over. -/
inductive Move where
  | send (rules : RuleBook) (batch : Batch)
  | answer (r : Except Failure Unit)
  | resume

def start (codec : Codec) (redactor : Redactor) (capacity : Nat) (pause : Duration) : Round :=
  ⟨⟨codec, redactor, .withCapacity capacity pause⟩, .ended (.ok ()),
    { shelf := .withCapacity capacity }⟩

def send (t : Round) (rules : RuleBook) (batch : Batch) : Round :=
  let (courier, sending, _) := t.courier.send rules batch
  ⟨courier, sending, t.log.sent t.courier rules batch⟩

def answered (t : Round) (r : Except Failure Unit) : Round :=
  let (courier, sending, _) := t.courier.answered t.sending r
  ⟨courier, sending, t.log.answered t.sending r⟩

def resumed (t : Round) : Round :=
  let (courier, sending, _) := t.courier.paused t.sending
  ⟨courier, sending, t.log.paused t.sending⟩

def next (t : Round) : Move → Round
  | .send rules batch => if t.sending matches .ended _ then t.send rules batch else t
  | .answer r => t.answered r
  | .resume => t.resumed

def run (t : Round) (moves : List Move) : Round := moves.foldl next t

def dispatches (t : Round) : List Dispatch :=
  t.log.posts.map Post.toDispatch ++ (t.log.underway t.sending).toList

/-- The batches whose fate is open, the oldest first, each with its payload as the backlog keeps
it or would keep it. -/
def line (t : Round) : List (Nat × Parcel) :=
  match t.sending with
  | .replaying (.posting parcel _) payload =>
    (t.log.taken, parcel) :: (t.log.shelf.items ++ [(t.log.current, ⟨payload, 0⟩)])
  | .replaying _ payload | .posting payload =>
    t.log.shelf.items ++ [(t.log.current, ⟨payload, 0⟩)]
  | .ended _ => t.log.shelf.items

/-- The courier waits for an answer exactly when a post is underway, and it is that post's. -/
theorem wait_eq_answer_iff {t : Round} {payload : Payload} :
    t.courier.wait t.sending = .answer payload ↔
      ∃ d, t.log.underway t.sending = some d ∧ d.payload = payload := by
  obtain ⟨c, s, l⟩ := t
  match s with
  | .posting sent => simp [Courier.wait, Logbook.underway]
  | .replaying (.posting parcel count) sent => simp [Courier.wait, Logbook.underway]
  | .replaying (.pausing count) sent => simp [Courier.wait, Logbook.underway]
  | .replaying (.ended r) sent => simp [Courier.wait, Logbook.underway]
  | .ended r => simp [Courier.wait, Logbook.underway]

end Round
end LogDelivery
