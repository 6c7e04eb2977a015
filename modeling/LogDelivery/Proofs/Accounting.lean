import LogDelivery.Proofs.Chronicle
import LogDelivery.Proofs.Retries
import Mathlib.Data.List.Forall2

/-!
# Accounting for events

What a chronicle says at any moment about the places it knows: those up to the front of the outbox
have been evicted or taken out in batches, each of them once, and the lots follow one another in
the order of acceptance.
-/
namespace LogDelivery.Chronicle

/-- These are the accepted events at these places. -/
def Holds (accepted : List Event) (places : List Nat) (events : List Event) : Prop :=
  places.map (accepted[·]?) = events.map some

structure Sound (c : Chronicle) : Prop where
  round : c.round.Sound
  waiting : c.pipeline.outbox.events.items.IsSuffix c.accepted
  handed : List.Forall₂ (fun lot batch => Holds c.accepted lot batch.events) c.lots c.batches
  increasing : c.lots.flatten.Pairwise (· < ·)
  gone : (List.range c.front).Perm (c.evicted ++ c.lots.flatten)
  evictions : c.pipeline.outbox.events.evicted = c.evicted.length

variable {c : Chronicle}

theorem start_sound (s : Settings) (codec : Codec) (redactor : Redactor) (capacity : Nat)
    (pause : Duration) (identity : IdentitySource) (rules : RuleBook) :
    (start s codec redactor capacity pause identity rules).Sound where
  round := Round.start_sound codec redactor capacity pause
  waiting := List.nil_suffix
  handed := .nil
  increasing := .nil
  gone := .nil
  evictions := rfl

namespace Holds

variable {accepted events : List Event} {places : List Nat}

theorem lt (h : Holds accepted places events) {n : Nat} (hn : n ∈ places) :
    n < accepted.length := by
  have hmem : accepted[n]? ∈ events.map some := by
    rw [← h]
    exact List.mem_map_of_mem hn
  obtain ⟨e, _, he⟩ := List.mem_map.mp hmem
  exact (List.getElem?_eq_some_iff.mp he.symm).1

theorem append (h : Holds accepted places events) (e : Event) :
    Holds (accepted ++ [e]) places events := by
  have hsame : places.map ((accepted ++ [e])[·]?) = places.map (accepted[·]?) :=
    List.map_congr_left fun n hn => List.getElem?_append_left (h.lt hn)
  exact hsame.trans h

theorem of_range' (gone events rest : List Event) :
    Holds (gone ++ (events ++ rest)) (List.range' gone.length events.length) events := by
  refine List.ext_getElem (by simp) fun i hi _ => ?_
  have hb : i < events.length := by simpa using hi
  simp only [List.getElem_map, List.getElem_range', Nat.one_mul]
  rw [List.getElem?_append_right (Nat.le_add_right _ i), Nat.add_sub_cancel_left,
    List.getElem?_append_left hb, List.getElem?_eq_getElem hb]

theorem flatMap {numbers : List Nat} {lot : Nat → List Nat} {batch : Nat → List Event}
    (h : ∀ n ∈ numbers, Holds accepted (lot n) (batch n)) :
    Holds accepted (numbers.flatMap lot) (numbers.flatMap batch) := by
  induction numbers with
  | nil => rfl
  | cons n numbers ih =>
    have hn := h n (List.mem_cons_self ..)
    have hrest := ih fun m hm => h m (List.mem_cons_of_mem _ hm)
    simp only [Holds, List.flatMap_cons, List.map_append] at hn hrest ⊢
    rw [hn, hrest]

theorem sublist (h : Holds accepted places events) (hp : places.Pairwise (· < ·)) :
    events.Sublist accepted := by
  have hplaces : places.Sublist (List.range' 0 accepted.length) :=
    sublist_range' hp fun n hn => ⟨Nat.zero_le n, by simpa using h.lt hn⟩
  have hall : Holds accepted (List.range' 0 accepted.length) accepted := by
    simpa using of_range' [] accepted []
  have hsub : (events.map some).Sublist (accepted.map some) := by
    rw [← h, ← hall]
    exact hplaces.map _
  simpa using hsub.filterMap id

end Holds

theorem Sound.exists_gone (h : c.Sound) :
    ∃ gone, gone.length = c.front ∧ gone ++ c.pipeline.outbox.events.items = c.accepted := by
  obtain ⟨gone, hgone⟩ := h.waiting
  refine ⟨gone, ?_, hgone⟩
  rw [front, ← hgone, List.length_append]
  exact (Nat.add_sub_cancel ..).symm

theorem Sound.pending_le (h : c.Sound) : c.pipeline.pending ≤ c.accepted.length :=
  h.waiting.length_le

theorem Sound.front_add_pending (h : c.Sound) :
    c.front + c.pipeline.pending = c.accepted.length :=
  Nat.sub_add_cancel h.pending_le

theorem Sound.lots_lt_front (h : c.Sound) {n : Nat} (hn : n ∈ c.lots.flatten) : n < c.front := by
  have hmem := h.gone.mem_iff.mpr (List.mem_append_right c.evicted hn)
  exact List.mem_range.mp hmem

theorem Sound.proceed (h : c.Sound) {p : Pipeline} {l : Logbook}
    (hround : Round.Sound ⟨p.courier, p.sending, l⟩) (houtbox : p.outbox = c.pipeline.outbox)
    (hbatches : l.consignments.map (·.batch) ++ p.batchOut?.toList = c.batches) :
    Sound { c with pipeline := p, log := l } where
  round := hround
  waiting := by
    rw [houtbox]
    exact h.waiting
  handed := by
    have hb : batches { c with pipeline := p, log := l } = c.batches := hbatches
    rw [hb]
    exact h.handed
  increasing := h.increasing
  gone := by
    have hf : front { c with pipeline := p, log := l } = c.front := by
      simp [front, Pipeline.pending, houtbox]
    rw [hf]
    exact h.gone
  evictions := by
    rw [houtbox]
    exact h.evictions

theorem answered_sound (h : c.Sound) (r : Except Failure Unit) : (c.answered r).Sound := by
  obtain ⟨hc, hs, hb, ho⟩ := c.pipeline.answered_fields r
  refine h.proceed ?_ ho ?_
  · rw [hc, hs]
    exact Round.answered_sound h.round r
  · rw [hb, Logbook.consignments_answered]
    rfl

theorem resumed_sound (h : c.Sound) : c.resumed.Sound := by
  obtain ⟨hc, hs, hb, ho⟩ := c.pipeline.paused_fields
  refine h.proceed ?_ ho ?_
  · rw [hc, hs]
    exact Round.resumed_sound h.round
  · rw [hb, Logbook.consignments_paused]
    rfl

theorem Sound.round_free (h : c.Sound) (hfree : c.pipeline.Free) (r : Except Failure Unit) :
    Round.Sound ⟨c.pipeline.courier, .ended r, c.log⟩ := by
  obtain ⟨r', hs⟩ := hfree.sending
  have hround := h.round
  rw [Chronicle.round, hs] at hround
  exact hround.of_ended

theorem takes_out_sound (h : c.Sound) {p : Pipeline} {batch : Batch} (hfree : c.pipeline.Free)
    (hout : p.batchOut? = some batch) (hc : p.courier = c.pipeline.courier)
    (hi : c.pipeline.outbox.events.items = batch.events ++ p.outbox.events.items)
    (he : p.outbox.events.evicted = c.pipeline.outbox.events.evicted) :
    (c.follow p).Sound := by
  have hfollow : c.follow p =
      { c with pipeline := p, lots := c.lots ++ [List.range' c.front batch.size] } := by
    simp [follow, hfree.batchOut, hout]
  obtain ⟨gone, hfront, hgone⟩ := h.exists_gone
  have hpending : c.pipeline.pending = batch.size + p.pending := by
    simp [Pipeline.pending, Outbox.pending, Buffer.size, hi, Batch.size]
  have hlength := h.front_add_pending
  have hfront' : c.accepted.length - p.pending = c.front + batch.size := by omega
  rw [hi] at hgone
  rw [hfollow]
  exact {
    round := by
      have hs := Pipeline.sending_of_batchOut hout
      simp only [round, hc, hs]
      exact h.round_free hfree _
    waiting := ⟨gone ++ batch.events, by rw [List.append_assoc, hgone]⟩
    handed := by
      have hb : c.batches = c.log.consignments.map (·.batch) := by
        simp [batches, hfree.batchOut]
      have hhanded := h.handed
      rw [hb] at hhanded
      simp only [batches, hout, Option.toList_some]
      refine List.rel_append hhanded (.cons ?_ .nil)
      have hholds := Holds.of_range' gone batch.events p.outbox.events.items
      rw [hgone, hfront] at hholds
      exact hholds
    increasing := by
      rw [List.flatten_append, List.flatten_singleton]
      refine List.pairwise_append.mpr ⟨h.increasing, List.pairwise_lt_range' 1, ?_⟩
      intro n hn m hm
      exact Nat.lt_of_lt_of_le (h.lots_lt_front hn) (List.mem_range'_1.mp hm).1
    gone := by
      simp only [front, hfront', List.flatten_append, List.flatten_singleton]
      rw [List.range_add, ← List.append_assoc]
      refine h.gone.append ?_
      rw [← List.range'_eq_map_range]
    evictions := he.trans h.evictions }

theorem hands_over_sound (h : c.Sound) {p : Pipeline} {batch : Batch}
    (hout : c.pipeline.batchOut? = some batch) (hgone : p.batchOut? = none)
    (hc : p.courier = (c.pipeline.courier.send c.pipeline.rules batch).1)
    (hs : p.sending = (c.pipeline.courier.send c.pipeline.rules batch).2.1)
    (ho : p.outbox = c.pipeline.outbox) : (c.follow p).Sound := by
  have hfollow : c.follow p =
      { c with pipeline := p, log := c.log.sent c.pipeline.courier c.pipeline.rules batch } := by
    simp [follow, hout, hgone]
  rw [hfollow]
  refine h.proceed ?_ ho ?_
  · have hround := h.round
    rw [round, Pipeline.sending_of_batchOut hout] at hround
    rw [hc, hs]
    exact Round.send_sound hround c.pipeline.rules batch
  · simp [Logbook.consignments_sent, hgone, batches, hout]

theorem follow_sound (h : c.Sound) {p : Pipeline} (hw : c.pipeline.Works p) :
    (c.follow p).Sound := by
  cases hw with
  | takesOut batch free out courier items evicted =>
    exact takes_out_sound h free out courier items evicted
  | handsOver batch out gone courier sending outbox =>
    exact hands_over_sound h out gone courier sending outbox
  | clears free still courier outbox =>
    have hfollow : c.follow p = { c with pipeline := p } := by
      simp [follow, free.batchOut, still.batchOut]
    obtain ⟨r, hs⟩ := still.sending
    rw [hfollow]
    refine h.proceed ?_ outbox ?_
    · rw [courier, hs]
      exact h.round_free free r
    · simp [batches, free.batchOut, still.batchOut]
  | waits out sending courier outbox =>
    have hfollow : c.follow p = { c with pipeline := p } := by
      cases hb : c.pipeline.batchOut? <;> simp [follow, out, hb]
    rw [hfollow]
    refine h.proceed ?_ outbox ?_
    · rw [courier, sending]
      exact h.round
    · rw [out]
      rfl

theorem Sound.handed_append (h : c.Sound) (e : Event) :
    List.Forall₂ (fun lot batch => Holds (c.accepted ++ [e]) lot batch.events) c.lots c.batches :=
  h.handed.imp fun _ _ hholds => hholds.append e

theorem append_room_sound (h : c.Sound) {p : Pipeline} (e : Event)
    (hround : Round.Sound ⟨p.courier, p.sending, c.log⟩)
    (hbatch : p.batchOut? = c.pipeline.batchOut?)
    (ho : p.outbox = c.pipeline.outbox.append e)
    (hroom : c.pipeline.outbox.events.isFull = false) :
    Sound { c with pipeline := p, accepted := c.accepted ++ [e] } := by
  have hi : p.outbox.events.items = c.pipeline.outbox.events.items ++ [e] := by
    rw [ho, Outbox.append, Buffer.items_offer_of_room hroom]
  have hpending : p.pending = c.pipeline.pending + 1 := by
    simp [Pipeline.pending, Outbox.pending, Buffer.size, hi]
  have hfront : (c.accepted ++ [e]).length - p.pending = c.front := by
    simp [front, hpending]
  exact {
    round := hround
    waiting := by
      obtain ⟨gone, hgone⟩ := h.waiting
      exact ⟨gone, by rw [hi, ← hgone, List.append_assoc]⟩
    handed := by
      simp only [batches, hbatch]
      exact h.handed_append e
    increasing := h.increasing
    gone := by
      simp only [front, hfront]
      exact h.gone
    evictions := by
      rw [ho, Outbox.append, Buffer.evicted_offer, hroom]
      exact h.evictions }

theorem append_full_sound (h : c.Sound) {p : Pipeline} (e : Event)
    (hround : Round.Sound ⟨p.courier, p.sending, c.log⟩)
    (hbatch : p.batchOut? = c.pipeline.batchOut?)
    (ho : p.outbox = c.pipeline.outbox.append e)
    (hfull : c.pipeline.outbox.events.isFull = true) :
    Sound { c with
      pipeline := p, accepted := c.accepted ++ [e], evicted := c.evicted ++ [c.front] } := by
  have hi : p.outbox.events.items = c.pipeline.outbox.events.items.tail ++ [e] := by
    rw [ho, Outbox.append, Buffer.items_offer_of_full hfull]
  obtain ⟨oldest, rest, hcons⟩ := List.exists_cons_of_ne_nil (Buffer.ne_nil_of_isFull hfull)
  rw [hcons, List.tail_cons] at hi
  have hpending : p.pending = c.pipeline.pending := by
    simp [Pipeline.pending, Outbox.pending, Buffer.size, hi, hcons]
  have hlength := h.front_add_pending
  have hfront : (c.accepted ++ [e]).length - p.pending = c.front + 1 := by
    rw [List.length_append, List.length_singleton, hpending]
    omega
  exact {
    round := hround
    waiting := by
      obtain ⟨gone, hgone⟩ := h.waiting
      rw [hcons] at hgone
      exact ⟨gone ++ [oldest], by rw [hi, ← hgone]; simp⟩
    handed := by
      simp only [batches, hbatch]
      exact h.handed_append e
    increasing := h.increasing
    gone := by
      simp only [front, hfront]
      rw [List.range_succ, List.append_assoc]
      refine (h.gone.append_right [c.front]).trans ?_
      rw [List.append_assoc]
      exact List.perm_append_comm.append_left c.evicted
    evictions := by
      rw [ho, Outbox.append, Buffer.evicted_offer, hfull]
      simp [h.evictions] }

theorem append_sound (h : c.Sound) (e : Event) (now : Nat) : (c.append e now).Sound := by
  obtain ⟨hc, hs, hb, ho⟩ := c.pipeline.append_fields e now
  have hround : Round.Sound
      ⟨(c.pipeline.append e now).1.courier, (c.pipeline.append e now).1.sending, c.log⟩ := by
    rw [hc, hs]
    exact h.round
  cases hp : (c.pipeline.append e now).2 with
  | false =>
    have happend : c.append e now = { c with pipeline := (c.pipeline.append e now).1 } := by
      simp [append, hp]
    rw [happend]
    refine h.proceed hround ?_ ?_
    · simpa [hp] using ho
    · rw [hb]
      rfl
  | true =>
    simp only [hp, if_true] at ho
    cases hf : c.pipeline.outbox.events.isFull with
    | false =>
      have happend : c.append e now =
          { c with pipeline := (c.pipeline.append e now).1, accepted := c.accepted ++ [e] } := by
        simp [append, hp, hf]
      rw [happend]
      exact append_room_sound h e hround hb ho hf
    | true =>
      have happend : c.append e now =
          { c with
            pipeline := (c.pipeline.append e now).1, accepted := c.accepted ++ [e]
            evicted := c.evicted ++ [c.front] } := by
        simp [append, hp, hf]
      rw [happend]
      exact append_full_sound h e hround hb ho hf

theorem next_sound (h : c.Sound) (move : Pipeline.Move) : (c.next move).Sound := by
  cases move with
  | append e now => exact append_sound h e now
  | answer r => exact answered_sound h r
  | resume => exact resumed_sound h
  | govern rules => exact follow_sound h (c.pipeline.next_works (.govern rules))
  | wake => exact follow_sound h (c.pipeline.next_works .wake)
  | cancel => exact follow_sound h (c.pipeline.next_works .cancel)
  | work now => exact follow_sound h (c.pipeline.next_works (.work now))

theorem run_sound (h : c.Sound) (moves : List Pipeline.Move) : (c.run moves).Sound := by
  induction moves generalizing c with
  | nil => exact h
  | cons move moves ih => exact ih (next_sound h move)

end LogDelivery.Chronicle
