import LogDelivery.Proofs.Accounting
import Mathlib.Data.List.Flatten

/-!
# Order and conservation of events

What a pipeline does with the events that it accepts, in any run: none is delivered twice or
before an older one, and each is in one place at any time.
-/
namespace LogDelivery

namespace Pipeline

def Move.event? : Move → Option Event
  | .append e _ => some e
  | _ => none

theorem Works.write {p q : Pipeline} (h : p.Works q) : q.courier.write = p.courier.write := by
  cases h with
  | takesOut batch free out courier items evicted => rw [courier]
  | handsOver batch out gone courier sending outbox => rw [courier, Courier.write_send]
  | clears free still courier outbox => rw [courier]
  | waits out sending courier outbox => rw [courier]

theorem write_next (p : Pipeline) (move : Move) :
    (p.next move).courier.write = p.courier.write := by
  cases move with
  | append e now => rfl
  | answer r =>
    simp only [next]
    rw [(p.answered_fields r).1, Courier.write_answered]
  | resume =>
    simp only [next]
    rw [p.paused_fields.1, Courier.write_paused]
  | govern rules => rfl
  | wake => exact (p.next_works .wake).write
  | cancel => exact (p.next_works .cancel).write
  | work now => exact (p.next_works (.work now)).write

end Pipeline

namespace Chronicle

variable {c : Chronicle} {write : RuleBook → Batch → Except String Payload}

theorem write_run (c : Chronicle) (moves : List Pipeline.Move) :
    (c.run moves).pipeline.courier.write = c.pipeline.courier.write := by
  induction moves generalizing c with
  | nil => rfl
  | cons move moves ih =>
    refine (ih (c.next move)).trans ?_
    rw [pipeline_next, Pipeline.write_next]

section Start

variable (s : Settings) (codec : Codec) (redactor : Redactor) (capacity : Nat) (pause : Duration)
  (identity : IdentitySource) (rules : RuleBook) (moves : List Pipeline.Move)

theorem start_run_sound :
    ((start s codec redactor capacity pause identity rules).run moves).Sound :=
  run_sound (start_sound s codec redactor capacity pause identity rules) moves

theorem start_run_write :
    ((start s codec redactor capacity pause identity rules).run moves).pipeline.courier.write =
      fun rules batch => codec (redactor.apply rules batch) :=
  write_run _ moves

end Start

theorem Sound.length_lots (h : c.Sound) :
    c.lots.length = c.log.consignments.length + c.pipeline.batchOut?.toList.length := by
  simpa [batches] using h.handed.length_eq

theorem flatMap_lot (c : Chronicle) :
    (List.range c.lots.length).flatMap c.lot = c.lots.flatten := by
  have hmap : (List.range c.lots.length).map c.lot = c.lots := by
    refine List.ext_getElem (by simp) fun n hn _ => ?_
    have hn : n < c.lots.length := by simpa using hn
    simp [lot, hn]
  rw [List.flatMap_def, hmap]

theorem Sound.holds_lot (h : c.Sound) {n : Nat} {x : Consignment}
    (hx : c.log.consignments[n]? = some x) : Holds c.accepted (c.lot n) x.batch.events := by
  obtain ⟨hn, rfl⟩ := List.getElem?_eq_some_iff.mp hx
  have hlots : n < c.lots.length := Nat.lt_of_lt_of_le hn (h.length_lots ▸ Nat.le_add_right _ _)
  have hbatches : n < c.batches.length := h.handed.length_eq ▸ hlots
  have hholds := h.handed.get hlots hbatches
  simpa [lot, batches, hlots, List.getElem_append_left, hn] using hholds

/-- The batches whose fate is open, counting one that is about to be handed over. -/
theorem open_perm (c : Chronicle) :
    (c.round.line.map Prod.fst ++
      List.range' c.log.consignments.length c.pipeline.batchOut?.toList.length).Perm
      (c.kept ++ c.inHand) := by
  have hkept : ∀ payload, (c.log.shelf.items ++ [(c.log.current, (⟨payload, 0⟩ : Parcel))]).map
      Prod.fst = c.kept ++ [c.log.current] := by
    simp [kept]
  cases h : c.pipeline.worker with
  | flushing last flush =>
    cases flush <;>
      simp [round, Round.line, Pipeline.sending, Pipeline.batchOut?, inHand, kept, h]
  | delivering last flush sending =>
    cases sending with
    | replaying replay payload =>
      cases replay with
      | posting parcel count =>
        simp only [round, Round.line, Pipeline.sending, Pipeline.batchOut?, inHand, h,
          List.map_cons, hkept]
        simpa using List.perm_middle.symm
      | pausing count =>
        simp [round, Round.line, Pipeline.sending, Pipeline.batchOut?, inHand, kept, h]
      | ended r => simp [round, Round.line, Pipeline.sending, Pipeline.batchOut?, inHand, kept, h]
    | posting payload =>
      simp [round, Round.line, Pipeline.sending, Pipeline.batchOut?, inHand, kept, h]
    | ended r => simp [round, Round.line, Pipeline.sending, Pipeline.batchOut?, inHand, kept, h]
  | _ => simp [round, Round.line, Pipeline.sending, Pipeline.batchOut?, inHand, kept, h]

theorem Sound.range_lots (h : c.Sound) :
    (List.range c.lots.length).Perm (c.log.delivered ++ c.kept ++ c.log.lost ++ c.inHand) := by
  have hbalance := List.perm_iff_count.mp h.round.consistent.balance
  have hopen := List.perm_iff_count.mp c.open_perm
  have hrange : List.range c.lots.length = List.range c.log.consignments.length ++
      List.range' c.log.consignments.length c.pipeline.batchOut?.toList.length := by
    rw [h.length_lots, List.range_add, ← List.range'_eq_map_range]
  rw [hrange]
  refine List.perm_iff_count.mpr fun n => ?_
  have hb := hbalance n
  have ho := hopen n
  simp only [List.count_append] at hb ho ⊢
  have hlog : c.round.log = c.log := rfl
  rw [hlog] at hb
  omega

theorem Sound.range_accepted (h : c.Sound) :
    (List.range c.accepted.length).Perm
      (c.log.delivered.flatMap c.lot ++ c.queued ++ c.kept.flatMap c.lot ++ c.evicted ++
        c.log.lost.flatMap c.lot ++ c.inHand.flatMap c.lot) := by
  have hrange : List.range c.accepted.length = List.range c.front ++ c.queued := by
    rw [← h.front_add_pending, List.range_add, ← List.range'_eq_map_range, queued]
  have hgone := List.perm_iff_count.mp h.gone
  have hlots := List.perm_iff_count.mp (h.range_lots.flatMap_right c.lot)
  rw [hrange]
  refine List.perm_iff_count.mpr fun n => ?_
  have hg := hgone n
  have hl := hlots n
  rw [flatMap_lot] at hl
  simp only [List.flatMap_append, List.count_append] at hg hl ⊢
  omega

theorem Sound.holds_queued (h : c.Sound) :
    Holds c.accepted c.queued c.pipeline.outbox.events.items := by
  obtain ⟨gone, hfront, hgone⟩ := h.exists_gone
  have hholds := Holds.of_range' gone c.pipeline.outbox.events.items []
  rw [List.append_nil, hgone, hfront] at hholds
  exact hholds

theorem Sound.delivered_increase (h : c.Sound) : c.log.delivered.Pairwise (· < ·) := by
  have hordered := h.round.consistent.posts_ordered.filter Post.isDelivered
  refine List.pairwise_map.mpr (hordered.imp_of_mem ?_)
  intro q p hq _ hpermits
  have hd : q.isDelivered = true := (List.mem_filter.mp hq).2
  rcases hpermits with hlt | ⟨_, hr, _⟩
  · exact hlt
  · cases hres : q.result <;> simp_all [Post.isDelivered, Post.isRetryable]

theorem Sound.delivered_lt (h : c.Sound) {n : Nat} (hn : n ∈ c.log.delivered) :
    n < c.log.consignments.length := by
  obtain ⟨q, hq, rfl⟩ := List.mem_map.mp hn
  exact h.round.consistent.post_lt (List.mem_filter.mp hq).1

theorem Sound.delivered_places_increase (h : c.Sound) :
    (c.log.delivered.flatMap c.lot).Pairwise (· < ·) := by
  have hnumbers : c.log.delivered.Sublist (List.range' 0 c.lots.length) := by
    refine sublist_range' h.delivered_increase fun n hn => ⟨Nat.zero_le n, ?_⟩
    have hlt := h.delivered_lt hn
    have hl := h.length_lots
    omega
  have hplaces := hnumbers.flatMap c.lot
  rw [← List.range_eq_range', flatMap_lot] at hplaces
  exact h.increasing.sublist hplaces

theorem Sound.holds_delivered (h : c.Sound) :
    Holds c.accepted (c.log.delivered.flatMap c.lot) (c.log.delivered.flatMap c.log.events) := by
  refine Holds.flatMap fun n hn => ?_
  have hx := List.getElem?_eq_getElem (h.delivered_lt hn)
  have hholds := h.holds_lot hx
  simpa [Logbook.events, hx] using hholds

theorem accepted_next (c : Chronicle) (move : Pipeline.Move) :
    (c.next move).accepted.Sublist (c.accepted ++ move.event?.toList) := by
  have hfollow : ∀ p, (c.follow p).accepted = c.accepted := by
    intro p
    unfold follow
    split <;> rfl
  cases move with
  | append e now =>
    by_cases hp : (c.pipeline.append e now).2
    · simp [next, append, hp, Pipeline.Move.event?]
    · simp [next, append, hp, Pipeline.Move.event?]
  | answer r => simp [next, answered, Pipeline.Move.event?]
  | resume => simp [next, resumed, Pipeline.Move.event?]
  | govern rules => simp [next, hfollow, Pipeline.Move.event?]
  | wake => simp [next, hfollow, Pipeline.Move.event?]
  | cancel => simp [next, hfollow, Pipeline.Move.event?]
  | work now => simp [next, hfollow, Pipeline.Move.event?]

theorem accepted_run (c : Chronicle) (moves : List Pipeline.Move) :
    (c.run moves).accepted.Sublist (c.accepted ++ moves.filterMap Pipeline.Move.event?) := by
  induction moves generalizing c with
  | nil => simp [run]
  | cons move moves ih =>
    have hnext := (c.accepted_next move).append_right (moves.filterMap Pipeline.Move.event?)
    refine ((ih (c.next move)).trans hnext).trans ?_
    cases he : move.event? <;> simp [he]

/-- Whatever comes in, and whatever the wire answers: the pipeline runs as it does without a chronicle. What
the worker waits for is the answer to the post underway, and with it the wire has seen the batches in the
order in which they were handed over; those that it takes come one after the other and no one twice, so
that their events are delivered once and in the order of acceptance, masked and encoded. -/
theorem delivered_in_order (s : Settings) (codec : Codec) (redactor : Redactor) (capacity : Nat)
    (pause : Duration) (identity : IdentitySource) (rules : RuleBook)
    (moves : List Pipeline.Move) :
    let c := (start s codec redactor capacity pause identity rules).run moves
    c.pipeline = moves.foldl Pipeline.next
      (.start s ⟨codec, redactor, .withCapacity capacity pause⟩ identity rules) ∧
    (∀ payload, c.pipeline.wait = .answer payload ↔
      ∃ d, c.log.underway c.pipeline.sending = some d ∧ d.payload = payload) ∧
    (c.round.dispatches.map (·.number)).Pairwise (· ≤ ·) ∧
    c.log.delivered.Pairwise (· < ·) ∧
    (c.log.delivered.flatMap c.lot).Pairwise (· < ·) ∧
    Holds c.accepted (c.log.delivered.flatMap c.lot) (c.log.delivered.flatMap c.log.events) ∧
    (c.log.delivered.flatMap c.log.events).Sublist c.accepted ∧
    c.accepted.Sublist (moves.filterMap Pipeline.Move.event?) ∧
    (∀ q ∈ c.log.posts, q.isDelivered → ∃ x, c.log.consignments[q.number]? = some x ∧
      codec (redactor.apply x.rules x.batch) = .ok q.payload) := by
  intro c
  have h : c.Sound := start_run_sound s codec redactor capacity pause identity rules moves
  refine ⟨pipeline_run _ moves, fun _ => wait_eq_answer_iff, ?_, h.delivered_increase, h.delivered_places_increase,
    h.holds_delivered, ?_, ?_, ?_⟩
  · refine List.pairwise_map.mpr (h.round.dispatches_ordered.imp ?_)
    intro d e hd
    rcases hd with hlt | ⟨heq, _⟩
    · exact Nat.le_of_lt hlt
    · exact Nat.le_of_eq heq
  · exact h.holds_delivered.sublist h.delivered_places_increase
  · exact accepted_run (start s codec redactor capacity pause identity rules) moves
  · intro q hq _
    have hwrote := h.round.consistent.posts_written q hq
    change c.log.Wrote c.pipeline.courier.write q.number q.payload at hwrote
    rw [start_run_write s codec redactor capacity pause identity rules moves] at hwrote
    exact hwrote

/-- Where the accepted events are: in a delivered batch, in the outbox, in the backlog, evicted,
in a batch that was given up for a known reason, or in hand. What the worker waits for is the answer
to the post underway. While a parcel of the backlog is out to be posted, its place stays free. -/
structure Accounted (write : RuleBook → Batch → Except String Payload) (c : Chronicle) : Prop where
  places : (List.range c.accepted.length).Perm
    (c.log.delivered.flatMap c.lot ++ c.queued ++ c.kept.flatMap c.lot ++ c.evicted ++
      c.log.lost.flatMap c.lot ++ c.inHand.flatMap c.lot)
  in_hand : c.pipeline.worker = .sleeping ∨ c.pipeline.worker = .stopped → c.inHand = []
  underway : ∀ payload, c.pipeline.wait = .answer payload ↔
    ∃ d, c.log.underway c.pipeline.sending = some d ∧ d.payload = payload
  lots : ∀ n x, c.log.consignments[n]? = some x → Holds c.accepted (c.lot n) x.batch.events
  delivered : ∀ q ∈ c.log.posts, q.isDelivered → c.log.Wrote write q.number q.payload
  queued : Holds c.accepted c.queued c.pipeline.outbox.events.items
  kept : List.Forall₂ (fun n parcel => c.log.Wrote write n parcel.payload) c.kept
    c.pipeline.courier.backlog.parcels.items
  evicted : c.pipeline.outbox.events.evicted = c.evicted.length
  lost : ∀ x ∈ c.log.losses,
    c.log.Justifies write c.pipeline.courier.backlog.parcels.capacity x
  room : ∀ last flush parcel count payload,
    c.pipeline.worker = .delivering last flush (.replaying (.posting parcel count) payload) →
      c.pipeline.courier.backlog.parcels.isFull = false

theorem Sound.shelf (h : c.Sound) :
    c.log.shelf.map Prod.snd = c.pipeline.courier.backlog.parcels :=
  h.round.shelf

theorem Sound.accounted (h : c.Sound) : c.Accounted c.pipeline.courier.write where
  places := h.range_accepted
  in_hand := by
    rintro (hw | hw) <;> simp [inHand, hw]
  underway := fun _ => wait_eq_answer_iff
  lots := fun n x hx => h.holds_lot hx
  delivered := fun q hq _ => h.round.consistent.posts_written q hq
  queued := h.holds_queued
  kept := by
    rw [← h.shelf, Buffer.items_map, kept]
    refine List.forall₂_map_left_iff.mpr (List.forall₂_map_right_iff.mpr ?_)
    refine List.forall₂_same.mpr fun x hx => ?_
    exact h.round.consistent.line_written x (Round.mem_line_of_mem_shelf hx)
  evicted := h.evictions
  lost := by
    rw [← h.shelf, Buffer.capacity_map]
    exact h.round.consistent.losses_justified
  room := by
    intro last flush parcel count payload hw
    have hsending : c.round.sending = .replaying (.posting parcel count) payload := by
      simp [Chronicle.round, Pipeline.sending, hw]
    rw [← h.shelf, Buffer.isFull_map]
    exact h.round.room hsending

/-- Between flushes nothing is in hand, so that each accepted event is delivered, or waits, or is
lost for a known reason, and only one of these. -/
theorem run_accounted (s : Settings) (codec : Codec) (redactor : Redactor) (capacity : Nat)
    (pause : Duration) (identity : IdentitySource) (rules : RuleBook)
    (moves : List Pipeline.Move) :
    ((start s codec redactor capacity pause identity rules).run moves).Accounted
      fun rules batch => codec (redactor.apply rules batch) := by
  have h := start_run_sound s codec redactor capacity pause identity rules moves
  rw [← start_run_write s codec redactor capacity pause identity rules moves]
  exact h.accounted

example :
    let e := Event.ofMessage .info "text" 0
    let c := (start { queueCapacity := 1 } (Format.json.codec false) {} 4 0 .nobody []).run
      [.append e 0, .append e 0, .wake, .work 0, .work 0, .append e 0, .answer (.ok ()), .work 0,
        .work 0]
    c.evicted = [0] ∧ c.log.delivered.flatMap c.lot = [1] ∧ c.queued = [2] ∧ c.inHand = [] := by
  decide

end Chronicle
end LogDelivery
