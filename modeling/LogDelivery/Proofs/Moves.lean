import LogDelivery.Pipeline
import LogDelivery.Proofs.Buffer

/-!
# Moves of a pipeline

All that can happen to a pipeline whose worker is neither given up nor ended by a post, and what a
move of the worker does: a batch is taken out of the outbox, or handed to the courier, or neither.
-/
namespace LogDelivery

namespace Outbox

theorem items_append (o : Outbox) (e : Event) : (o.append e).events.items =
    (if o.events.isFull then o.events.items.tail else o.events.items) ++ [e] := by
  rw [append]
  cases hf : o.events.isFull with
  | false => exact Buffer.items_offer_of_room hf e
  | true => exact Buffer.items_offer_of_full hf e

/-- From one outbox to the next, a flush has taken a batch off the front and is about to send it,
or nothing has been taken out. -/
def Draws (o o' : Outbox) (flush : Flush) : Prop :=
  (∃ batch sent total, flush = .sending batch sent total ∧
    o.events.items = batch.events ++ o'.events.items ∧
    o'.events.evicted = o.events.evicted) ∨
  (o' = o ∧ ∀ batch sent total, flush ≠ .sending batch sent total)

theorem nextBatch_draws (o : Outbox) (identity : Option Identity) (sent total : Nat) :
    o.Draws (o.nextBatch identity sent total).1 (o.nextBatch identity sent total).2.1 := by
  unfold nextBatch
  by_cases he : (o.events.takeFront (min maxBatch (total - sent))).1.isEmpty
  · simp only [he]
    exact Or.inr ⟨rfl, by simp⟩
  · simp only [he]
    exact Or.inl ⟨_, sent, total, rfl, (List.take_append_drop _ _).symm, rfl⟩

theorem identified_draws (o : Outbox) (identity : Option Identity) (total : Nat) :
    o.Draws (o.identified identity (.lookingUp total)).1
      (o.identified identity (.lookingUp total)).2.1 :=
  o.nextBatch_draws identity 0 total

theorem settled_draws (o : Outbox) (r : Except Failure Unit) (flush : Flush) :
    o.Draws (o.settled r flush).1 (o.settled r flush).2.1 := by
  cases flush with
  | sending batch sent total =>
    cases r with
    | ok => exact o.nextBatch_draws _ _ _
    | error cause => exact Or.inr ⟨rfl, by simp [settled]⟩
  | lookingUp total => exact Or.inr ⟨rfl, by simp [settled]⟩
  | ended result => exact Or.inr ⟨rfl, by simp [settled]⟩

end Outbox

namespace Pipeline

/-- An event is offered, the rules are replaced, the timer of a sleeping worker goes off, the
pipeline is told to end, the worker moves on its own, the wire answers, or a pause is over. -/
inductive Move where
  | append (e : Event) (now : Nat)
  | govern (rules : RuleBook)
  | wake
  | cancel
  | work (now : Nat)
  | answer (r : Except Failure Unit)
  | resume

def next (p : Pipeline) : Move → Pipeline
  | .append e now => (p.append e now).1
  | .govern rules => { p with rules }
  | .wake => p.wake
  | .cancel => p.cancel
  | .work now => (p.work now).1
  | .answer r => (p.answered r).1
  | .resume => p.paused.1

def batchOut? (p : Pipeline) : Option Batch :=
  match p.worker with
  | .flushing _ (.sending batch _ _) => some batch
  | _ => none

def sending (p : Pipeline) : Sending :=
  match p.worker with
  | .delivering _ _ sending => sending
  | _ => .ended (.ok ())

theorem wait_eq (p : Pipeline) : p.wait = p.courier.wait p.sending := by
  cases h : p.worker <;> simp [wait, sending, h, Courier.wait]

theorem sending_of_batchOut {p : Pipeline} {batch : Batch} (h : p.batchOut? = some batch) :
    p.sending = .ended (.ok ()) := by
  unfold batchOut? at h
  unfold sending
  split at h
  · next hw => simp [hw]
  · cases h

structure Free (p : Pipeline) : Prop where
  batchOut : p.batchOut? = none
  sending : ∃ r, p.sending = .ended r

/-- What a move of the worker makes of a pipeline. -/
inductive Works (p q : Pipeline) : Prop where
  | takesOut (batch : Batch) (free : p.Free) (out : q.batchOut? = some batch)
      (courier : q.courier = p.courier)
      (items : p.outbox.events.items = batch.events ++ q.outbox.events.items)
      (evicted : q.outbox.events.evicted = p.outbox.events.evicted)
  | handsOver (batch : Batch) (out : p.batchOut? = some batch) (gone : q.batchOut? = none)
      (courier : q.courier = (p.courier.send p.rules batch).1)
      (sending : q.sending = (p.courier.send p.rules batch).2.1) (outbox : q.outbox = p.outbox)
  | clears (free : p.Free) (still : q.Free) (courier : q.courier = p.courier)
      (outbox : q.outbox = p.outbox)
  | waits (out : q.batchOut? = p.batchOut?) (sending : q.sending = p.sending)
      (courier : q.courier = p.courier) (outbox : q.outbox = p.outbox)

theorem Works.refl (p : Pipeline) : p.Works p := .waits rfl rfl rfl rfl

theorem beginFlush_free {p : Pipeline} (last : Bool)
    (h : p.worker = .flushing last p.outbox.beginFlush) : p.Free := by
  constructor
  · by_cases he : p.outbox.events.isEmpty <;> simp [batchOut?, h, Outbox.beginFlush, he]
  · exact ⟨.ok (), by simp [Pipeline.sending, h]⟩

theorem conclude_works {p : Pipeline} {last : Bool} {result : Except Failure Nat} (now : Nat)
    (h : p.worker = .flushing last (.ended result)) :
    p.Works (p.conclude last result now).1 := by
  have hfree : p.Free := ⟨by simp [batchOut?, h], .ok (), by simp [Pipeline.sending, h]⟩
  cases last with
  | true => exact .clears hfree ⟨rfl, .ok (), rfl⟩ rfl rfl
  | false =>
    cases hc : p.cancelled with
    | true =>
      exact .clears hfree (beginFlush_free true (by simp [conclude, hc])) rfl rfl
    | false =>
      refine .clears hfree ⟨?_, .ok (), ?_⟩ rfl rfl
      · simp [conclude, hc, batchOut?]
      · simp [conclude, hc, Pipeline.sending]

theorem draws_works {p q : Pipeline} {last : Bool} {flush : Flush} (hfree : p.Free)
    (hd : p.outbox.Draws q.outbox flush) (hc : q.courier = p.courier)
    (hw : q.worker = .flushing last flush) : p.Works q := by
  rcases hd with ⟨batch, sent, total, rfl, hi, he⟩ | ⟨hsame, hnot⟩
  · exact .takesOut batch hfree (by simp [batchOut?, hw]) hc hi he
  · refine .clears hfree ⟨?_, .ok (), by simp [Pipeline.sending, hw]⟩ hc hsame
    unfold batchOut?
    split
    · next batch sent total h =>
      rw [hw] at h
      exact absurd (Worker.flushing.inj h).2 (hnot batch sent total)
    · rfl

theorem work_works (p : Pipeline) (now : Nat) : p.Works (p.work now).1 := by
  cases h : p.worker with
  | flushing last flush =>
    cases flush with
    | lookingUp total =>
      have hfree : p.Free := ⟨by simp [batchOut?, h], .ok (), by simp [Pipeline.sending, h]⟩
      simp only [work, h]
      exact draws_works hfree (p.outbox.identified_draws _ total) rfl rfl
    | sending batch sent total =>
      exact .handsOver batch (by simp [batchOut?, h]) (by simp [work, h, batchOut?])
        (by simp [work, h]) (by simp [work, h, Pipeline.sending]) (by simp [work, h])
    | ended result =>
      have hw := conclude_works now h
      simpa [work, h] using hw
  | delivering last flush sending =>
    cases sending with
    | ended result =>
      have hfree : p.Free := ⟨by simp [batchOut?, h], result, by simp [Pipeline.sending, h]⟩
      simp only [work, h]
      exact draws_works hfree (p.outbox.settled_draws result flush) rfl rfl
    | posting payload => simpa [work, h] using Works.refl p
    | replaying replay payload => simpa [work, h] using Works.refl p
  | _ => simpa [work, h] using Works.refl p

theorem wake_of_awake {p : Pipeline} (h : p.worker ≠ .sleeping) : p.wake = p := by
  unfold wake
  split
  · contradiction
  · rfl

theorem wake_works (p : Pipeline) (cancelled : Bool) :
    p.Works ({ p with cancelled } : Pipeline).wake := by
  by_cases h : p.worker = .sleeping
  · have hfree : p.Free := ⟨by simp [batchOut?, h], .ok (), by simp [Pipeline.sending, h]⟩
    refine .clears hfree (beginFlush_free cancelled ?_) ?_ ?_ <;> simp [wake, h]
  · have hawake : ({ p with cancelled } : Pipeline).wake = { p with cancelled } := wake_of_awake h
    rw [hawake]
    exact .waits rfl rfl rfl rfl

/-- What the worker, its timer, the rules and cancellation do: neither events nor answers come in.
-/
inductive Move.IsInner : Move → Prop where
  | govern (rules : RuleBook) : IsInner (.govern rules)
  | wake : IsInner .wake
  | cancel : IsInner .cancel
  | work (now : Nat) : IsInner (.work now)

theorem next_works (p : Pipeline) {move : Move} (h : move.IsInner) : p.Works (p.next move) := by
  cases h with
  | govern rules => exact .waits rfl rfl rfl rfl
  | wake => exact wake_works p p.cancelled
  | cancel => exact wake_works p true
  | work now => exact work_works p now

theorem answered_fields (p : Pipeline) (r : Except Failure Unit) :
    (p.answered r).1.courier = (p.courier.answered p.sending r).1 ∧
    (p.answered r).1.sending = (p.courier.answered p.sending r).2.1 ∧
    (p.answered r).1.batchOut? = p.batchOut? ∧ (p.answered r).1.outbox = p.outbox := by
  cases h : p.worker <;>
    simp [Pipeline.answered, Pipeline.sending, h, Courier.answered, batchOut?]

theorem paused_fields (p : Pipeline) :
    p.paused.1.courier = (p.courier.paused p.sending).1 ∧
    p.paused.1.sending = (p.courier.paused p.sending).2.1 ∧
    p.paused.1.batchOut? = p.batchOut? ∧ p.paused.1.outbox = p.outbox := by
  cases h : p.worker <;>
    simp [Pipeline.paused, Pipeline.sending, h, Courier.paused, batchOut?]

theorem append_fields (p : Pipeline) (e : Event) (now : Nat) :
    (p.append e now).1.courier = p.courier ∧ (p.append e now).1.sending = p.sending ∧
    (p.append e now).1.batchOut? = p.batchOut? ∧
    (p.append e now).1.outbox =
      if (p.append e now).2 then p.outbox.append e else p.outbox :=
  ⟨rfl, rfl, rfl, rfl⟩

end Pipeline
end LogDelivery
