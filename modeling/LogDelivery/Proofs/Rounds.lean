import LogDelivery.Proofs.Consistency

/-!
# Rounds of a courier

Every round keeps its logbook consistent, whatever the wire answers and however the rules change.
From this follow the bounds on retries, and that all posts of a batch say the same.
-/
namespace LogDelivery.Round

open Logbook

def Fresh (t : Round) : Prop := ∀ q ∈ t.log.posts, q.number < t.log.current

/-- What the phase of a delivery says about the backlog and the batch in hand: its turn comes only
when the backlog is empty, and the place of a parcel that has been taken out is kept free. -/
def Phase (t : Round) : Prop :=
  match t.sending with
  | .posting _ => t.log.shelf.items = [] ∧ t.Fresh
  | .replaying (.posting _ _) _ => t.log.shelf.isFull = false ∧ t.Fresh
  | .replaying (.pausing _) _ => t.Fresh
  | .replaying (.ended _) _ => False
  | .ended _ => True

structure Sound (t : Round) : Prop where
  shelf : t.log.shelf.map Prod.snd = t.courier.backlog.parcels
  consistent : t.log.Consistent t.courier.write t.log.shelf.capacity t.line
  phase : t.Phase

theorem start_sound (codec : Codec) (redactor : Redactor) (capacity : Nat) (pause : Duration) :
    (start codec redactor capacity pause).Sound where
  shelf := rfl
  consistent := by
    refine ⟨?_, .nil, by simp [start]⟩
    constructor <;> simp [start, line]
  phase := trivial

variable {t : Round} {payload : Payload}

theorem write_next (t : Round) (move : Move) : (t.next move).courier.write = t.courier.write := by
  cases move with
  | send rules batch =>
    simp only [next]
    split
    · exact t.courier.write_send rules batch
    · rfl
  | answer r => exact t.courier.write_answered t.sending r
  | resume => exact t.courier.write_paused t.sending

theorem write_run (t : Round) (moves : List Move) :
    (t.run moves).courier.write = t.courier.write := by
  induction moves generalizing t with
  | nil => rfl
  | cons move moves ih => exact (ih (t.next move)).trans (write_next t move)

theorem resumed_eq_of_empty {c : Courier} {l : Logbook} (count : Nat) (payload : Payload)
    (hs : l.shelf.map Prod.snd = c.backlog.parcels) (he : l.shelf.items = []) :
    resumed ⟨c, .replaying (.pausing count) payload, l⟩ = ⟨c, .posting payload, l⟩ := by
  have hp : c.backlog.parcels.popFront? = none := by
    rw [← hs, Buffer.popFront?_map, Buffer.popFront?_eq_none_iff.mpr he, Option.map_none]
  have hl : l.shelf.popFront? = none := Buffer.popFront?_eq_none_iff.mpr he
  simp [resumed, Courier.paused, Backlog.nextParcel, hp, Courier.afterReplay, Logbook.paused,
    takeNext, hl]

theorem resumed_eq_of_oldest {c : Courier} {l : Logbook} {count : Nat} {n : Nat} {parcel : Parcel}
    {rest : Buffer (Nat × Parcel)} (hs : l.shelf.map Prod.snd = c.backlog.parcels)
    (hn : l.shelf.popFront? = some ((n, parcel), rest)) :
    resumed ⟨c, .replaying (.pausing count) payload, l⟩ =
      ⟨{ c with backlog := { c.backlog with parcels := rest.map Prod.snd } },
       .replaying (.posting parcel count) payload, { l with shelf := rest, taken := n }⟩ := by
  have hp : c.backlog.parcels.popFront? = some (parcel, rest.map Prod.snd) := by
    rw [← hs, Buffer.popFront?_map, hn, Option.map_some]
  simp [resumed, Courier.paused, Backlog.nextParcel, hp, Courier.afterReplay, Logbook.paused,
    takeNext, hn]

theorem resumed_pausing_sound {c : Courier} {l : Logbook} {count : Nat}
    (h : Sound ⟨c, .replaying (.pausing count) payload, l⟩) :
    Sound (resumed ⟨c, .replaying (.pausing count) payload, l⟩) := by
  cases hp : l.shelf.popFront? with
  | none =>
    have he := Buffer.popFront?_eq_none_iff.mp hp
    rw [resumed_eq_of_empty count payload h.shelf he]
    exact ⟨h.shelf, h.consistent, he, h.phase⟩
  | some x =>
    obtain ⟨⟨n, parcel⟩, rest⟩ := x
    obtain ⟨hi, hc⟩ := Buffer.popFront?_eq_some hp
    have hroom := Buffer.room_of_popFront? hp
    rw [resumed_eq_of_oldest h.shelf hp]
    refine ⟨rfl, ?_, hroom, h.phase⟩
    have hcons := h.consistent
    simp only [line, hi, List.cons_append, ← hc] at hcons
    exact hcons.reshelve rest n

theorem resumed_sound (h : t.Sound) : t.resumed.Sound := by
  obtain ⟨c, s, l⟩ := t
  match s with
  | .replaying (.pausing count) payload => exact resumed_pausing_sound h
  | .replaying (.posting parcel count) payload => exact h
  | .replaying (.ended r) payload => exact h
  | .posting payload => exact h
  | .ended r => exact h

theorem Sound.of_ended {c : Courier} {r r' : Except Failure Unit} {l : Logbook}
    (h : Sound ⟨c, .ended r, l⟩) : Sound ⟨c, .ended r', l⟩ :=
  ⟨h.shelf, h.consistent, trivial⟩

theorem items_of_isEmpty {c : Courier} {l : Logbook} (hs : l.shelf.map Prod.snd = c.backlog.parcels)
    (he : c.backlog.isEmpty = true) : l.shelf.items = [] := by
  rw [Backlog.isEmpty, ← hs, Buffer.isEmpty_map] at he
  exact Buffer.isEmpty_iff.mp he

/-- A batch that could be written waits as if a replay had paused. -/
theorem send_eq_resumed {c : Courier} {s : Sending} {l : Logbook} {rules : RuleBook}
    {batch : Batch} (hs : l.shelf.map Prod.snd = c.backlog.parcels)
    (hw : c.write rules batch = .ok payload) :
    send ⟨c, s, l⟩ rules batch =
      resumed ⟨c, .replaying (.pausing 0) payload, l.give rules batch⟩ := by
  have hc : c.codec (c.redactor.apply rules batch) = .ok payload := hw
  cases he : c.backlog.isEmpty with
  | true =>
    have hi := items_of_isEmpty hs he
    have hl : (l.give rules batch).shelf.popFront? = none := Buffer.popFront?_eq_none_iff.mpr hi
    have hresumed := resumed_eq_of_empty (l := l.give rules batch) 0 payload hs hi
    simp [hresumed, send, Courier.send, hc, he, Logbook.sent, hw, takeNext, hl]
  | false =>
    simp [send, resumed, Courier.send, Courier.paused, hc, he, Logbook.sent, hw, Logbook.paused,
      Backlog.beginReplay]

theorem send_sound {c : Courier} {r : Except Failure Unit} {l : Logbook}
    (h : Sound ⟨c, .ended r, l⟩) (rules : RuleBook) (batch : Batch) :
    (send ⟨c, .ended r, l⟩ rules batch).Sound := by
  have hcurrent : (l.give rules batch).current = l.consignments.length := by
    simp [current, give]
  cases hw : c.write rules batch with
  | error text =>
    have hc : c.codec (c.redactor.apply rules batch) = .error text := hw
    have hsend : send ⟨c, .ended r, l⟩ rules batch =
        ⟨c, .ended (.error (.encode text)),
          (l.give rules batch).lose l.consignments.length .unwritable⟩ := by
      simp [send, Courier.send, hc, Logbook.sent, hw, hcurrent]
    rw [hsend]
    exact ⟨h.shelf, h.consistent.join_unwritable hw, trivial⟩
  | ok payload =>
    rw [send_eq_resumed h.shelf hw]
    refine resumed_pausing_sound ⟨h.shelf, ?_, ?_⟩
    · have hjoin := h.consistent.join hw
      rw [← hcurrent] at hjoin
      exact hjoin
    · intro q hq
      rw [hcurrent]
      exact h.consistent.post_lt hq

theorem current_returned (l : Logbook) (parcel : Parcel) (cause : Failure) :
    (l.returned parcel cause).current = l.current := by
  simp [current]

@[simp] theorem shelf_hold (l : Logbook) :
    (l.hold payload).shelf = (l.shelf.offer (l.current, ⟨payload, 0⟩)).1 := by
  unfold hold
  split <;> rfl

theorem hold_mirrors {l : Logbook} {b : Backlog} (hs : l.shelf.map Prod.snd = b.parcels) :
    (l.hold payload).shelf.map Prod.snd = (b.hold payload).parcels := by
  rw [shelf_hold, Buffer.map_offer, hs]
  rfl

/-- The batch in hand goes to the end of the backlog; if that is full, the oldest of the line has
to go. -/
theorem hold_consistent {write : RuleBook → Batch → Except String Payload} {l : Logbook}
    (h : l.Consistent write l.shelf.capacity (l.shelf.items ++ [(l.current, ⟨payload, 0⟩)])) :
    (l.hold payload).Consistent write (l.hold payload).shelf.capacity
      (l.hold payload).shelf.items := by
  cases hf : l.shelf.isFull with
  | false =>
    have hheld : l.hold payload =
        { l with shelf := (l.shelf.offer (l.current, ⟨payload, 0⟩)).1 } := by
      simp [hold, hf]
    rw [shelf_hold, Buffer.items_offer_of_room hf, Buffer.capacity_offer, hheld]
    exact h.reshelve _ _
  | true =>
    obtain ⟨oldest, rest, hi⟩ := List.exists_cons_of_ne_nil (Buffer.ne_nil_of_isFull hf)
    have hheld : l.hold payload =
        { l with shelf := (l.shelf.offer (l.current, ⟨payload, 0⟩)).1 }.lose oldest.1
          (.crowdedOut (l.shelf.items.map Prod.fst)) := by
      simp [hold, hf, hi]
    rw [shelf_hold, Buffer.items_offer_of_full hf, Buffer.capacity_offer, hheld, hi, List.tail_cons]
    rw [hi, List.cons_append] at h
    refine (h.reshelve _ _).crowd_out (by simp) ?_
    simp [← hi, Buffer.length_of_isFull hf]

section Answered

variable (c : Courier) (l : Logbook) (payload : Payload) {parcel : Parcel} {count : Nat}
  {cause : Failure}

theorem answered_posting_of_retryable (hr : cause.isRetryable = true) :
    answered ⟨c, .posting payload, l⟩ (.error cause) =
      ⟨{ c with backlog := c.backlog.hold payload }, .ended (.error cause),
        (l.record ⟨⟨l.current, 0, payload⟩, .error cause⟩).hold payload⟩ := by
  simp [answered, Courier.answered, Backlog.offer, Backlog.accepts, hr, Logbook.answered, underway]

theorem answered_posting_of_refused (hr : cause.isRetryable = false) :
    answered ⟨c, .posting payload, l⟩ (.error cause) =
      ⟨c, .ended (.error cause),
        (l.record ⟨⟨l.current, 0, payload⟩, .error cause⟩).lose l.current .refused⟩ := by
  simp [answered, Courier.answered, Backlog.offer, Backlog.accepts, hr, Logbook.answered, underway,
    record, lose, current]

theorem answered_replaying_last (he : c.backlog.isEmpty = true) :
    answered ⟨c, .replaying (.posting parcel count) payload, l⟩ (.ok ()) =
      ⟨c, .posting payload,
        l.record ⟨⟨l.taken, parcel.failures + 1, parcel.payload⟩, .ok ()⟩⟩ := by
  simp [answered, Courier.answered, Backlog.answered, Backlog.delivered, he, Courier.afterReplay,
    Logbook.answered, underway]

theorem answered_replaying_more (he : c.backlog.isEmpty = false) :
    answered ⟨c, .replaying (.posting parcel count) payload, l⟩ (.ok ()) =
      ⟨c, .replaying (.pausing (count + 1)) payload,
        l.record ⟨⟨l.taken, parcel.failures + 1, parcel.payload⟩, .ok ()⟩⟩ := by
  simp [answered, Courier.answered, Backlog.answered, Backlog.delivered, he, Courier.afterReplay,
    Logbook.answered, underway]

theorem answered_replaying_failed :
    answered ⟨c, .replaying (.posting parcel count) payload, l⟩ (.error cause) =
      ⟨{ c with backlog := (c.backlog.returned parcel cause).hold payload },
        .ended (.error cause),
        ((l.record ⟨⟨l.taken, parcel.failures + 1, parcel.payload⟩, .error cause⟩).returned
          parcel cause).hold payload⟩ := by
  simp [answered, Courier.answered, Backlog.answered, Courier.afterReplay, Logbook.answered,
    underway]

end Answered

theorem answered_posting_sound {c : Courier} {l : Logbook}
    (h : Sound ⟨c, .posting payload, l⟩) (r : Except Failure Unit) :
    (answered ⟨c, .posting payload, l⟩ r).Sound := by
  obtain ⟨hempty, hfresh⟩ := h.phase
  have hempty : l.shelf.items = [] := hempty
  have hline : l.Consistent c.write l.shelf.capacity [(l.current, ⟨payload, 0⟩)] := by
    have hc := h.consistent
    simpa only [line, hempty, List.nil_append] using hc
  have hpost : l.PostOf ⟨⟨l.current, 0, payload⟩, r⟩ (l.current, ⟨payload, 0⟩) :=
    ⟨rfl, rfl, Or.inl rfl, fun p hp => Or.inl (hfresh p hp)⟩
  match r with
  | .ok () =>
    refine ⟨h.shelf, ?_, trivial⟩
    have hgone := hline.deliver hpost rfl
    rw [← hempty] at hgone
    exact hgone
  | .error cause =>
    cases hr : cause.isRetryable with
    | true =>
      have hkept : (l.record ⟨⟨l.current, 0, payload⟩, .error cause⟩).Consistent c.write
          l.shelf.capacity (l.shelf.items ++ [(l.current, ⟨payload, 0⟩)]) := by
        rw [hempty]
        exact hline.keep hpost hr (Nat.succ_pos 2)
      rw [answered_posting_of_retryable c l payload hr]
      exact ⟨hold_mirrors h.shelf, hold_consistent hkept, trivial⟩
    | false =>
      rw [answered_posting_of_refused c l payload hr]
      refine ⟨h.shelf, ?_, trivial⟩
      have hgone := hline.give_up hpost rfl (justifies_refused hr)
      rw [← hempty] at hgone
      exact hgone

theorem returned_mirrors {l : Logbook} {b : Backlog} (hs : l.shelf.map Prod.snd = b.parcels)
    (parcel : Parcel) (cause : Failure) :
    (l.returned parcel cause).shelf.map Prod.snd = (b.returned parcel cause).parcels := by
  unfold Logbook.returned Backlog.returned
  cases hr : cause.isRetryable with
  | false => simpa [lose] using hs
  | true =>
    by_cases hm : Backlog.maxFailures ≤ parcel.failures + 1
    · simpa [hm, lose] using hs
    · simp [hm, Buffer.map_putBack, hs]

theorem returned_consistent {write : RuleBook → Batch → Except String Payload} {l l' : Logbook}
    {parcel : Parcel} {rest : List (Nat × Parcel)} (cause : Failure)
    (h : l.Consistent write l.shelf.capacity ((l.taken, parcel) :: (l.shelf.items ++ rest)))
    (hroom : l.shelf.isFull = false)
    (hl : l' = l.record ⟨⟨l.taken, parcel.failures + 1, parcel.payload⟩, .error cause⟩) :
    (l'.returned parcel cause).Consistent write (l'.returned parcel cause).shelf.capacity
      ((l'.returned parcel cause).shelf.items ++ rest) := by
  have hpost : l.PostOf ⟨⟨l.taken, parcel.failures + 1, parcel.payload⟩, .error cause⟩
      (l.taken, parcel) :=
    ⟨rfl, rfl, Or.inr rfl, fun p hp => h.line_permitted p hp _ (List.mem_cons_self ..)⟩
  have hshelf : l'.shelf = l.shelf ∧ l'.taken = l.taken := by rw [hl]; exact ⟨rfl, rfl⟩
  cases hr : cause.isRetryable with
  | false =>
    rw [returned_of_refused l' parcel hr, hl]
    exact h.give_up hpost rfl (justifies_refused hr)
  | true =>
    by_cases hm : Backlog.maxFailures ≤ parcel.failures + 1
    · rw [returned_of_exhausted l' parcel hr hm, hl]
      exact h.give_up hpost rfl (h.justifies_exhausted rfl rfl hm hr)
    · have hkept := h.keep hpost hr (Nat.not_le.mp hm)
      rw [returned_of_patience l' parcel hr hm, hshelf.1, hshelf.2, Buffer.capacity_putBack,
        Buffer.items_putBack_of_room hroom, List.cons_append]
      rw [← hl] at hkept
      exact hkept.reshelve _ _

theorem answered_replaying_sound {c : Courier} {l : Logbook} {parcel : Parcel} {count : Nat}
    (h : Sound ⟨c, .replaying (.posting parcel count) payload, l⟩) (r : Except Failure Unit) :
    (answered ⟨c, .replaying (.posting parcel count) payload, l⟩ r).Sound := by
  obtain ⟨hroom, hfresh⟩ := h.phase
  have hline : l.Consistent c.write l.shelf.capacity
      ((l.taken, parcel) :: (l.shelf.items ++ [(l.current, ⟨payload, 0⟩)])) := h.consistent
  match r with
  | .ok () =>
    have hpost : l.PostOf ⟨⟨l.taken, parcel.failures + 1, parcel.payload⟩, .ok ()⟩
        (l.taken, parcel) :=
      ⟨rfl, rfl, Or.inr rfl, fun p hp => hline.line_permitted p hp _ (List.mem_cons_self ..)⟩
    have hgone := hline.deliver hpost rfl
    have hstill : ∀ q ∈ (l.record ⟨⟨l.taken, parcel.failures + 1, parcel.payload⟩, .ok ()⟩).posts,
        q.number < l.current := by
      intro q hq
      rcases List.mem_append.mp hq with hq | hq
      · exact hfresh q hq
      · rw [List.mem_singleton.mp hq]
        exact hline.head_lt (List.mem_append_right _ (List.mem_singleton_self _))
    cases he : c.backlog.isEmpty with
    | true =>
      rw [answered_replaying_last c l payload he]
      exact ⟨h.shelf, hgone, items_of_isEmpty h.shelf he, hstill⟩
    | false =>
      rw [answered_replaying_more c l payload he]
      exact ⟨h.shelf, hgone, hstill⟩
  | .error cause =>
    have hback := returned_consistent cause hline hroom rfl
    rw [answered_replaying_failed]
    refine ⟨hold_mirrors (returned_mirrors (l := l.record _) h.shelf parcel cause),
      hold_consistent ?_, trivial⟩
    rw [current_returned]
    exact hback

theorem answered_sound (h : t.Sound) (r : Except Failure Unit) : (t.answered r).Sound := by
  obtain ⟨c, s, l⟩ := t
  match s with
  | .posting payload => exact answered_posting_sound h r
  | .replaying (.posting parcel count) payload => exact answered_replaying_sound h r
  | .replaying (.pausing count) payload => exact h
  | .replaying (.ended result) payload => exact h
  | .ended result => exact h

theorem next_sound (h : t.Sound) (move : Move) : (t.next move).Sound := by
  cases move with
  | send rules batch =>
    obtain ⟨c, s, l⟩ := t
    match s with
    | .ended r => exact send_sound h rules batch
    | .posting payload => exact h
    | .replaying replay payload => exact h
  | answer r => exact answered_sound h r
  | resume => exact resumed_sound h

theorem run_sound (h : t.Sound) (moves : List Move) : (t.run moves).Sound := by
  induction moves generalizing t with
  | nil => exact h
  | cons move moves ih => exact ih (next_sound h move)

end LogDelivery.Round
