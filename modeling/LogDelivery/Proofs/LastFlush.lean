import LogDelivery.Proofs.Conservation

/-!
# The last flush

A pipeline that is told to end finishes the flush under way and goes through one last flush, which
takes out all that waits in the outbox unless one of its deliveries fails.
-/
namespace LogDelivery

namespace Outbox

variable {o : Outbox}

/-- When a flush in progress comes to its end without a failure, nothing will be left. -/
def Covers (o : Outbox) : Flush → Prop
  | .lookingUp total => total = o.pending
  | .sending batch sent total => total = sent + batch.size + o.pending
  | .ended (.ok _) => o.pending = 0
  | .ended (.error _) => False

theorem beginFlush_covers (o : Outbox) : o.Covers o.beginFlush := by
  unfold beginFlush
  split
  · next he => simpa [Covers, pending, Buffer.size] using Buffer.isEmpty_iff.mp he
  · rfl

theorem nextBatch_covers (identity : Option Identity) {sent total : Nat}
    (h : total = sent + o.pending) :
    (o.nextBatch identity sent total).1.Covers (o.nextBatch identity sent total).2.1 := by
  have hn : total - sent = o.events.items.length := by
    rw [h, Nat.add_sub_cancel_left]
    rfl
  by_cases he : o.events.items = []
  · have hnext : o.nextBatch identity sent total = (o, .ended (.ok sent), [.flushed sent]) := by
      simp [nextBatch, Buffer.takeFront, he]
    rw [hnext]
    simp [Covers, pending, Buffer.size, he]
  · have hpos := List.length_pos_of_ne_nil he
    have htaken : (o.events.items.take (min maxBatch (total - sent))).isEmpty = false := by
      rw [List.isEmpty_eq_false_iff, Ne, ← List.length_eq_zero_iff, List.length_take, maxBatch]
      omega
    simp only [nextBatch, Buffer.takeFront, htaken, Covers, Batch.size, pending, Buffer.size,
      Bool.false_eq_true, if_false, List.length_take, List.length_drop]
    simp only [pending, Buffer.size] at h
    omega

theorem settled_covers {flush : Flush} (h : o.Covers flush) :
    (o.settled (.ok ()) flush).1.Covers (o.settled (.ok ()) flush).2.1 := by
  cases flush with
  | sending batch sent total => exact nextBatch_covers _ h
  | lookingUp total => exact h
  | ended result => exact h

end Outbox

namespace Pipeline

def Ongoing (p : Pipeline) : Prop :=
  p.cancelled = false ∧
    match p.worker with
    | .flushing last _ | .delivering last _ _ => last = false
    | .stopped => False
    | _ => True

/-- The pipeline has been told to end, and the last flush leaves nothing in the outbox if none of
its deliveries fails. These begin when a batch has been handed over. -/
def Closing (handed : Prop) (p : Pipeline) : Prop :=
  p.cancelled = true ∧
    match p.worker with
    | .flushing last flush => last = true → p.outbox.Covers flush
    | .delivering last flush _ => last = true → handed ∧ p.outbox.Covers flush
    | .sleeping => False
    | .stopped => p.outbox.pending = 0
    | .crashed | .aborted => True

variable {p : Pipeline} {handed handed' : Prop}

theorem start_ongoing (s : Settings) (courier : Courier) (identity : IdentitySource)
    (rules : RuleBook) : (start s courier identity rules).Ongoing := ⟨rfl, trivial⟩

theorem work_ongoing (h : p.Ongoing) (now : Nat) : (p.work now).1.Ongoing := by
  obtain ⟨hc, hw⟩ := h
  cases hp : p.worker with
  | flushing last flush =>
    simp only [hp] at hw
    cases flush with
    | lookingUp total => simp [Ongoing, work, hp, hc, hw]
    | sending batch sent total => simp [Ongoing, work, hp, hc, hw]
    | ended result => simp [Ongoing, work, hp, hc, hw, conclude]
  | delivering last flush sending =>
    simp only [hp] at hw
    cases sending <;> simp [Ongoing, work, hp, hc, hw]
  | stopped => simp [hp] at hw
  | _ => simp [Ongoing, work, hp, hc]

theorem next_ongoing (h : p.Ongoing) {move : Move} (hm : move ≠ .cancel) :
    (p.next move).Ongoing := by
  cases move with
  | append e now => exact h
  | govern rules => exact h
  | wake =>
    obtain ⟨hc, hw⟩ := h
    by_cases hs : p.worker = .sleeping
    · simp [Ongoing, next, wake, hs, hc]
    · rw [next, wake_of_awake hs]
      exact ⟨hc, hw⟩
  | cancel => exact absurd rfl hm
  | work now => exact work_ongoing h now
  | answer r =>
    obtain ⟨hc, hw⟩ := h
    cases hp : p.worker <;> simp_all [Ongoing, next, answered]
  | resume =>
    obtain ⟨hc, hw⟩ := h
    cases hp : p.worker <;> simp_all [Ongoing, next, paused]

theorem cancel_closing (h : p.Ongoing) (handed : Prop) : p.cancel.Closing handed := by
  obtain ⟨hc, hw⟩ := h
  cases hp : p.worker with
  | sleeping => simpa [Closing, cancel, wake, hp] using p.outbox.beginFlush_covers
  | flushing last flush =>
    simp only [hp] at hw
    subst hw
    simp [Closing, cancel, wake, hp]
  | delivering last flush sending =>
    simp only [hp] at hw
    subst hw
    simp [Closing, cancel, wake, hp]
  | stopped => simp [hp] at hw
  | _ => simp [Closing, cancel, wake, hp]

theorem Closing.imp (h : p.Closing handed) (hi : handed → handed') : p.Closing handed' := by
  obtain ⟨hc, hw⟩ := h
  refine ⟨hc, ?_⟩
  cases hp : p.worker with
  | delivering last flush sending =>
    simp only [hp] at hw
    exact fun hl => ⟨hi (hw hl).1, (hw hl).2⟩
  | _ => simp_all

theorem work_of_idle (h : p.isBusy = false) (now : Nat) : (p.work now).1 = p := by
  cases hp : p.worker with
  | flushing last flush => simp [isBusy, hp] at h
  | delivering last flush sending =>
    cases sending with
    | ended r => simp [isBusy, hp] at h
    | _ => simp [work, hp]
  | _ => simp [work, hp]

theorem work_closing (h : p.Closing handed) (hmono : handed → handed')
    (hgive : ∀ batch, p.batchOut? = some batch → handed')
    (hgood : handed → ∀ cause, p.sending ≠ .ended (.error cause)) (now : Nat) :
    (p.work now).1.Closing handed' := by
  cases hb : p.isBusy with
  | false =>
    rw [work_of_idle hb]
    exact h.imp hmono
  | true =>
    obtain ⟨hc, hw⟩ := h
    cases hp : p.worker with
    | flushing last flush =>
      simp only [hp] at hw
      cases flush with
      | lookingUp total =>
        refine ⟨by simp [work, hp, hc], ?_⟩
        simp only [work, hp]
        exact fun hl => Outbox.nextBatch_covers _ ((hw hl).trans (Nat.zero_add _).symm)
      | sending batch sent total =>
        refine ⟨by simp [work, hp, hc], ?_⟩
        simp only [work, hp]
        exact fun hl => ⟨hgive batch (by simp [batchOut?, hp]), hw hl⟩
      | ended result =>
        cases last with
        | true =>
          have hleft : p.outbox.pending = 0 := by
            cases result with
            | ok sent => exact hw rfl
            | error cause => exact (hw rfl).elim
          simpa [Closing, work, hp, hc, conclude] using hleft
        | false =>
          simpa [Closing, work, hp, hc, conclude] using p.outbox.beginFlush_covers
    | delivering last flush sending =>
      simp only [hp] at hw
      cases sending with
      | ended result =>
        refine ⟨by simp [work, hp, hc], ?_⟩
        simp only [work, hp]
        intro hl
        cases result with
        | ok => exact Outbox.settled_covers (hw hl).2
        | error cause => exact absurd (by simp [Pipeline.sending, hp]) (hgood (hw hl).1 cause)
      | posting payload => simp [isBusy, hp] at hb
      | replaying replay payload => simp [isBusy, hp] at hb
    | _ => simp [isBusy, hp] at hb

theorem next_closing (h : p.Closing handed) {move : Move} (hm : move.event? = none)
    (hi : handed → handed') (hgive : ∀ batch, p.batchOut? = some batch →
      (∃ now, move = .work now) → handed')
    (hgood : handed → ∀ cause, p.sending ≠ .ended (.error cause)) :
    (p.next move).Closing handed' := by
  have hawake : p.worker ≠ .sleeping := fun hs => by simp [Closing, hs] at h
  cases move with
  | append e now => cases hm
  | govern rules => exact h.imp hi
  | wake =>
    rw [next, wake_of_awake hawake]
    exact h.imp hi
  | cancel =>
    have hsame : p.cancel = p := by
      have hc : ({ p with cancelled := true } : Pipeline) = p := by rw [← h.1]
      rw [cancel, hc, wake_of_awake hawake]
    rw [next, hsame]
    exact h.imp hi
  | work now => exact work_closing h hi (fun batch hb => hgive batch hb ⟨now, rfl⟩) hgood now
  | answer r =>
    obtain ⟨hc, hw⟩ := h.imp hi
    cases hp : p.worker <;> simp_all [Closing, next, answered]
  | resume =>
    obtain ⟨hc, hw⟩ := h.imp hi
    cases hp : p.worker <;> simp_all [Closing, next, paused]

theorem sending_next (hfree : p.Free) {move : Move} (hm : move.IsInner) :
    (p.next move).sending = p.sending ∨ (p.next move).sending = .ended (.ok ()) := by
  have hwake : ∀ cancelled, ({ p with cancelled } : Pipeline).wake.sending = p.sending ∨
      ({ p with cancelled } : Pipeline).wake.sending = .ended (.ok ()) := by
    intro cancelled
    by_cases hs : p.worker = .sleeping
    · exact Or.inr (by simp [wake, hs, sending])
    · have hsame : ({ p with cancelled } : Pipeline).wake = { p with cancelled } := wake_of_awake hs
      exact Or.inl (by rw [hsame]; rfl)
  cases hm with
  | govern rules => exact Or.inl rfl
  | wake => exact hwake p.cancelled
  | cancel => exact hwake true
  | work now =>
    cases hb : p.isBusy with
    | false => exact Or.inl (by rw [next, work_of_idle hb])
    | true =>
      right
      cases hp : p.worker with
      | flushing last flush =>
        cases flush with
        | lookingUp total => simp [next, work, hp, sending]
        | sending batch sent total => exact absurd hfree.batchOut (by simp [batchOut?, hp])
        | ended result =>
          cases last <;> cases hc : p.cancelled <;> simp [next, work, hp, conclude, sending, hc]
      | delivering last flush sending' =>
        cases sending' with
        | ended r => simp [next, work, hp, sending]
        | _ => simp [isBusy, hp] at hb
      | _ => simp [isBusy, hp] at hb

end Pipeline

end LogDelivery
