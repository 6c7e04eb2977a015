import LogDelivery.Proofs.Rounds
import Mathlib.Data.List.Sort

/-!
# Retries

How often a batch is posted, and what its posts say. The failures counted with a parcel are those
of its replays, so that the posts of one batch carry increasing retry numbers up to
`Backlog.maxFailures`.
-/
namespace LogDelivery

theorem sublist_range' {a k : Nat} {l : List Nat} (hl : l.Pairwise (· < ·))
    (hb : ∀ n ∈ l, a ≤ n ∧ n < a + k) : l.Sublist (List.range' a k) := by
  have hsub : l.Subperm (List.range' a k) :=
    List.subperm_of_subset hl.nodup fun n hn => List.mem_range'_1.mpr (hb n hn)
  exact List.sublist_of_subperm_of_pairwise hsub (hl.imp Nat.le_of_lt)
    ((List.pairwise_lt_range' 1).imp Nat.le_of_lt)

namespace Round

open Logbook

variable {t : Round}

def dispatchesOf (t : Round) (n : Nat) : List Dispatch := t.dispatches.filter (·.number = n)

theorem mem_dispatchesOf {n : Nat} {d : Dispatch} :
    d ∈ t.dispatchesOf n ↔ d ∈ t.dispatches ∧ d.number = n := by
  simp [dispatchesOf]

theorem mem_line_of_mem_shelf {x : Nat × Parcel} (hx : x ∈ t.log.shelf.items) : x ∈ t.line := by
  obtain ⟨c, s, l⟩ := t
  match s with
  | .posting payload => exact List.mem_append_left _ hx
  | .replaying (.posting parcel count) payload =>
    exact List.mem_cons_of_mem _ (List.mem_append_left _ hx)
  | .replaying (.pausing count) payload => exact List.mem_append_left _ hx
  | .replaying (.ended r) payload => exact List.mem_append_left _ hx
  | .ended r => exact hx

/-- It is the first one of the batch in hand, or the next replay of a batch that waits. -/
theorem underway_mem_line {d : Dispatch} (h : t.log.underway t.sending = some d) :
    ∃ x ∈ t.line, d.number = x.1 ∧ d.payload = x.2.payload ∧
      (d.retry = 0 ∨ d.retry = x.2.failures + 1) := by
  obtain ⟨c, s, l⟩ := t
  match s with
  | .posting payload =>
    obtain rfl := Option.some.inj h
    exact ⟨(l.current, ⟨payload, 0⟩), List.mem_append_right _ (List.mem_singleton_self _), rfl, rfl,
      Or.inl rfl⟩
  | .replaying (.posting parcel count) payload =>
    obtain rfl := Option.some.inj h
    exact ⟨(l.taken, parcel), List.mem_cons_self .., rfl, rfl, Or.inr rfl⟩
  | .replaying (.pausing count) payload => cases h
  | .replaying (.ended r) payload => cases h
  | .ended r => cases h

theorem Sound.underway_permitted (h : t.Sound) {d : Dispatch}
    (hd : t.log.underway t.sending = some d) {q : Post} (hq : q ∈ t.log.posts) :
    q.Permits d.number d.retry := by
  obtain ⟨c, s, l⟩ := t
  match s with
  | .posting payload =>
    obtain rfl := Option.some.inj hd
    exact Or.inl (h.phase.2 q hq)
  | .replaying (.posting parcel count) payload =>
    obtain rfl := Option.some.inj hd
    exact h.consistent.line_permitted q hq (l.taken, parcel) (List.mem_cons_self ..)
  | .replaying (.pausing count) payload => cases hd
  | .replaying (.ended r) payload => cases hd
  | .ended r => cases hd

/-- While a replay's post is underway, the place of its parcel stays free. -/
theorem Sound.room (h : t.Sound) {parcel : Parcel} {count : Nat} {payload : Payload}
    (hs : t.sending = .replaying (.posting parcel count) payload) :
    t.log.shelf.isFull = false := by
  have hphase := h.phase
  rw [Phase, hs] at hphase
  exact hphase.1

theorem mem_dispatches {d : Dispatch} :
    d ∈ t.dispatches ↔
      (∃ q ∈ t.log.posts, q.toDispatch = d) ∨ t.log.underway t.sending = some d := by
  simp [dispatches]

theorem Sound.dispatch_written (h : t.Sound) {d : Dispatch} (hd : d ∈ t.dispatches) :
    t.log.Wrote t.courier.write d.number d.payload := by
  rcases mem_dispatches.mp hd with ⟨q, hq, rfl⟩ | hu
  · exact h.consistent.posts_written q hq
  · obtain ⟨x, hx, hn, hp, _⟩ := underway_mem_line hu
    rw [hn, hp]
    exact h.consistent.line_written x hx

theorem Sound.dispatch_bounded (h : t.Sound) {d : Dispatch} (hd : d ∈ t.dispatches) :
    d.retry ≤ Backlog.maxFailures := by
  rcases mem_dispatches.mp hd with ⟨q, hq, rfl⟩ | hu
  · exact h.consistent.posts_bounded q hq
  · obtain ⟨x, hx, _, _, hr⟩ := underway_mem_line hu
    have := h.consistent.patient x hx
    omega

theorem Sound.dispatches_ordered (h : t.Sound) :
    t.dispatches.Pairwise fun d e =>
      d.number < e.number ∨ (d.number = e.number ∧ d.retry < e.retry) := by
  have hpermits : ∀ {q : Post} {e : Dispatch}, q.Permits e.number e.retry →
      q.number < e.number ∨ (q.number = e.number ∧ q.retry < e.retry) :=
    fun hq => hq.imp_right fun ⟨hn, _, hr⟩ => ⟨hn, hr⟩
  refine List.pairwise_append.mpr ⟨?_, ?_, ?_⟩
  · exact List.pairwise_map.mpr (h.consistent.posts_ordered.imp hpermits)
  · cases t.log.underway t.sending <;> simp
  · intro d hd e he
    obtain ⟨q, hq, rfl⟩ := List.mem_map.mp hd
    exact hpermits (h.underway_permitted (Option.mem_toList.mp he) hq)

theorem Sound.retries_increase (h : t.Sound) (n : Nat) :
    ((t.dispatchesOf n).map (·.retry)).Pairwise (· < ·) := by
  refine List.pairwise_map.mpr ((h.dispatches_ordered.filter _).imp_of_mem ?_)
  intro d e hd he hlt
  have hd := (mem_dispatchesOf.mp hd).2
  have he := (mem_dispatchesOf.mp he).2
  omega

theorem Sound.length_dispatchesOf_le (h : t.Sound) {n first : Nat}
    (hf : ∀ d ∈ t.dispatchesOf n, first ≤ d.retry) :
    (t.dispatchesOf n).length ≤ Backlog.maxFailures + 1 - first := by
  have hsub : ((t.dispatchesOf n).map (·.retry)).Sublist
      (List.range' first (Backlog.maxFailures + 1 - first)) := by
    refine sublist_range' (h.retries_increase n) fun r hr => ?_
    obtain ⟨d, hd, rfl⟩ := List.mem_map.mp hr
    have hlow := hf d hd
    have hhigh := h.dispatch_bounded (mem_dispatchesOf.mp hd).1
    omega
  simpa using hsub.length_le

/-- If the first post of a batch is a replay, all of them are. -/
theorem Sound.replays_of_head (h : t.Sound) {n : Nat}
    (hf : ∀ d ∈ (t.dispatchesOf n).head?, 0 < d.retry) :
    ∀ d ∈ t.dispatchesOf n, 1 ≤ d.retry := by
  intro d hd
  have hinc := h.retries_increase n
  cases hof : t.dispatchesOf n with
  | nil => rw [hof] at hd; cases hd
  | cons first rest =>
    have hfirst : 0 < first.retry := hf first (by simp [hof])
    rw [hof] at hd hinc
    rcases List.mem_cons.mp hd with rfl | hd
    · exact hfirst
    · have := (List.pairwise_cons.mp hinc).1 d.retry (List.mem_map_of_mem hd)
      omega

theorem Sound.final_post (h : t.Sound) {before after : List Post} {q : Post}
    (hposts : t.log.posts = before ++ q :: after) (hq : q.isRetryable = false) :
    ∀ d ∈ after.map Post.toDispatch ++ (t.log.underway t.sending).toList, d.number ≠ q.number := by
  intro d hd heq
  have hpermit : q.Permits d.number d.retry := by
    rcases List.mem_append.mp hd with hd | hd
    · obtain ⟨p, hp, rfl⟩ := List.mem_map.mp hd
      have hord := h.consistent.posts_ordered
      rw [hposts] at hord
      exact (List.pairwise_cons.mp (List.pairwise_append.mp hord).2.1).1 p hp
    · exact h.underway_permitted (Option.mem_toList.mp hd) (by simp [hposts])
  rcases hpermit with hlt | ⟨_, hr, _⟩
  · omega
  · rw [hq] at hr
    cases hr

theorem Sound.patient (h : t.Sound) {parcel : Parcel}
    (hp : parcel ∈ t.courier.backlog.parcels.items) : parcel.failures < Backlog.maxFailures := by
  rw [← h.shelf, Buffer.items_map] at hp
  obtain ⟨x, hx, rfl⟩ := List.mem_map.mp hp
  exact h.consistent.patient x (mem_line_of_mem_shelf hx)

theorem Sound.payload_eq (h : t.Sound) {d e : Dispatch} (hd : d ∈ t.dispatches)
    (he : e ∈ t.dispatches) (hn : d.number = e.number) : d.payload = e.payload := by
  obtain ⟨x, hx, hxp⟩ := h.dispatch_written hd
  obtain ⟨y, hy, hyp⟩ := h.dispatch_written he
  have hxy : x = y := Option.some.inj (by rw [← hx, ← hy, hn])
  exact Except.ok.inj (by rw [← hxp, ← hyp, hxy])

/-- Whatever is handed over and whatever the wire answers: what the courier waits for is the answer to
the post underway; nothing in the backlog has failed three replays; a batch is posted at most four
times, and at most three times if its first post was a replay; a post that succeeded or was refused is
the last of its batch; all posts of a batch carry the encoding of what the rules left of it when it was
handed over. -/
theorem retries_bounded_and_faithful (codec : Codec) (redactor : Redactor) (capacity : Nat)
    (pause : Duration) (moves : List Move) :
    let t := (start codec redactor capacity pause).run moves
    (∀ payload, t.courier.wait t.sending = .answer payload ↔
      ∃ d, t.log.underway t.sending = some d ∧ d.payload = payload) ∧
    (∀ parcel ∈ t.courier.backlog.parcels.items, parcel.failures ≤ 2) ∧
    (∀ n, (t.dispatchesOf n).length ≤ 4) ∧
    (∀ n, (∀ d ∈ (t.dispatchesOf n).head?, 0 < d.retry) → (t.dispatchesOf n).length ≤ 3) ∧
    (∀ before q after, t.log.posts = before ++ q :: after → q.isDelivered ∨ q.isRefused →
      ∀ d ∈ after.map Post.toDispatch ++ (t.log.underway t.sending).toList, d.number ≠ q.number) ∧
    (∀ d ∈ t.dispatches, ∃ x, t.log.consignments[d.number]? = some x ∧
      codec (redactor.apply x.rules x.batch) = .ok d.payload) ∧
    (∀ d ∈ t.dispatches, ∀ e ∈ t.dispatches, d.number = e.number → d.payload = e.payload) := by
  intro t
  have hsound : t.Sound := run_sound (start_sound codec redactor capacity pause) moves
  have hwrite : t.courier.write = fun rules batch => codec (redactor.apply rules batch) :=
    write_run _ moves
  refine ⟨fun _ => wait_eq_answer_iff, ?_, ?_, ?_, ?_, ?_, ?_⟩
  · intro parcel hp
    exact Nat.le_of_lt_succ (hsound.patient hp)
  · intro n
    exact hsound.length_dispatchesOf_le fun d _ => Nat.zero_le d.retry
  · intro n hf
    exact hsound.length_dispatchesOf_le (hsound.replays_of_head hf)
  · intro before q after hposts hq
    have hr : q.isRetryable = false := by
      cases hres : q.result <;> simp_all [Post.isDelivered, Post.isRefused, Post.isRetryable]
    exact hsound.final_post hposts hr
  · intro d hd
    have hd := hsound.dispatch_written hd
    rw [hwrite] at hd
    exact hd
  · intro d hd e he hn
    exact hsound.payload_eq hd he hn

/-- All four posts may be needed. -/
example :
    let batch : Batch := ⟨⟨"app", "test", "host", "logger", "linux", none⟩, []⟩
    let fails := [Move.send [] batch, .answer (.error (.server 503))]
    let t := (start (Format.json.codec false) {} 4 0).run
      (fails ++ fails ++ fails ++ [.send [] batch])
    (t.dispatchesOf 0).map (·.retry) = [0, 1, 2, 3] := by
  decide

end Round
end LogDelivery
