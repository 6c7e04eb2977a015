import LogDelivery.Proofs.Shutdown

/-!
# The first failure of a flush

A flush posts each payload once, first those of the backlog and then one for each batch that it takes
out of the outbox, and the first post that fails is its last. This holds of a flush that begins in any
state, also in one that no pipeline comes to.
-/
namespace LogDelivery

def Buffer.numbered (b : Buffer α) : Buffer (Nat × α) where
  items := (List.range b.items.length).zip b.items
  capacity := b.capacity
  evicted := b.evicted
  capacity_pos := b.capacity_pos
  length_le := by simpa using b.length_le

theorem Buffer.map_numbered (b : Buffer α) : b.numbered.map Prod.snd = b :=
  Buffer.eq_of_fields (List.map_snd_zip (by simp)) rfl rfl

theorem Buffer.numbers_numbered (b : Buffer α) :
    b.numbered.items.map Prod.fst = List.range b.items.length :=
  List.map_fst_zip (by simp)

theorem Buffer.getElem?_of_mem_numbered {b : Buffer α} {n : Nat} {a : α}
    (h : (n, a) ∈ b.numbered.items) : b.items[n]? = some a := by
  obtain ⟨i, hi, hget⟩ := List.mem_iff_getElem.mp h
  have hlength : i < b.items.length := by simpa [numbered] using hi
  simp only [numbered, List.getElem_zip, List.getElem_range, Prod.mk.injEq] at hget
  obtain ⟨rfl, rfl⟩ := hget
  exact List.getElem?_eq_getElem hlength

namespace Logbook

variable {write : RuleBook → Batch → Except String Payload} {call l l' : Logbook} {n : Nat}
  {payload : Payload} {parcel : Parcel} {x : Nat × Parcel}

/-- The payload is that of the parcel of this number which waited when the flush was called, or it was
made of the batch of this number which has been handed over since. -/
def Carries (write : RuleBook → Batch → Except String Payload) (call l : Logbook) (n : Nat)
    (payload : Payload) : Prop :=
  (∃ parcel, (n, parcel) ∈ call.shelf.items ∧ payload = parcel.payload) ∨
    (call.consignments.length ≤ n ∧ l.Wrote write n payload)

theorem Carries.give {rules : RuleBook} {batch : Batch} (h : Carries write call l n payload) :
    Carries write call (l.give rules batch) n payload :=
  h.imp_right fun ⟨hn, hwrote⟩ => ⟨hn, hwrote.give⟩

theorem Carries.of_consignments (h : Carries write call l n payload)
    (hl : l'.consignments = l.consignments) : Carries write call l' n payload :=
  h.imp_right fun ⟨hn, x, hx, hw⟩ => ⟨hn, x, hl ▸ hx, hw⟩

theorem mem_shelf_hold (h : x ∈ (l.hold payload).shelf.items) :
    x ∈ l.shelf.items ∨ x = (l.current, ⟨payload, 0⟩) := by
  rw [Round.shelf_hold] at h
  cases hf : l.shelf.isFull with
  | true =>
    rw [Buffer.items_offer_of_full hf, List.mem_append, List.mem_singleton] at h
    exact h.imp_left List.mem_of_mem_tail
  | false => rwa [Buffer.items_offer_of_room hf, List.mem_append, List.mem_singleton] at h

theorem mem_shelf_returned {cause : Failure} (h : x ∈ (l.returned parcel cause).shelf.items) :
    x ∈ l.shelf.items ∨ x = (l.taken, { parcel with failures := parcel.failures + 1 }) := by
  cases hr : cause.isRetryable with
  | false =>
    rw [returned_of_refused l parcel hr] at h
    exact Or.inl h
  | true =>
    by_cases hm : Backlog.maxFailures ≤ parcel.failures + 1
    · rw [returned_of_exhausted l parcel hr hm] at h
      exact Or.inl h
    · rw [returned_of_patience l parcel hr hm] at h
      cases hf : l.shelf.isFull with
      | true => exact Or.inl (by simpa [Buffer.items_putBack_of_full hf] using h)
      | false =>
        rw [Buffer.items_putBack_of_room hf] at h
        exact (List.mem_cons.mp h).symm

end Logbook

namespace Round

open Logbook

variable {write : RuleBook → Batch → Except String Payload} {call : Logbook} {t : Round}
  {payload : Payload}

/-- Each post so far was delivered, and all that is still open comes after all that was posted. The
backlog holds nothing that it did not hold in the beginning. -/
structure Steady (t : Round) (write : RuleBook → Batch → Except String Payload) (call : Logbook) :
    Prop where
  mirrors : t.log.shelf.map Prod.snd = t.courier.backlog.parcels
  delivered : ∀ q ∈ t.log.posts, q.isDelivered
  ascending : (t.log.posts.map (·.number) ++ t.line.map Prod.fst).Pairwise (· < ·)
  known : ∀ n ∈ t.log.posts.map (·.number) ++ t.line.map Prod.fst,
    n < t.log.consignments.length
  carried : ∀ q ∈ t.log.posts, Carries write call t.log q.number q.payload
  lined : ∀ x ∈ t.line, Carries write call t.log x.1 x.2.payload
  shelved : ∀ x ∈ t.log.shelf.items, x ∈ call.shelf.items
  grown : call.consignments.length ≤ t.log.consignments.length
  phase : match t.sending with
    | .posting _ => t.log.shelf.items = [] ∧ call.consignments.length ≤ t.log.current
    | .replaying (.posting parcel _) _ =>
      (t.log.taken, parcel) ∈ call.shelf.items ∧ call.consignments.length ≤ t.log.current
    | .replaying (.pausing _) _ => call.consignments.length ≤ t.log.current
    | .replaying (.ended _) _ => False
    | .ended _ => True

/-- The last post has failed, with this cause, or the last batch could not be written; all posts
before were delivered. No parcel has been charged with a failure but the one of the last post. -/
structure Spent (t : Round) (write : RuleBook → Batch → Except String Payload) (call : Logbook)
    (cause : Failure) : Prop where
  mirrors : t.log.shelf.map Prod.snd = t.courier.backlog.parcels
  ascending : (t.log.posts.map (·.number)).Pairwise (· < ·)
  delivered : ∀ q ∈ t.log.posts.dropLast, q.isDelivered
  carried : ∀ q ∈ t.log.posts, Carries write call t.log q.number q.payload
  failed : (∃ q, t.log.posts.getLast? = some q ∧ q.result = .error cause) ∨
    (∃ x text, t.log.consignments.getLast? = some x ∧ write x.rules x.batch = .error text ∧
      cause = .encode text) ∧ ∀ q ∈ t.log.posts, q.isDelivered
  charged : ∀ x ∈ t.log.shelf.items, x ∈ call.shelf.items ∨
    (call.consignments.length ≤ x.1 ∧ x.2.failures = 0) ∨
    ∃ q parcel, t.log.posts.getLast? = some q ∧ q.result = .error cause ∧ q.number = x.1 ∧
      (x.1, parcel) ∈ call.shelf.items ∧
      x.2 = { parcel with failures := parcel.failures + 1 }

def Orderly (t : Round) (write : RuleBook → Batch → Except String Payload) (call : Logbook) :
    Prop :=
  match t.sending with
  | .ended (.error cause) => t.Spent write call cause
  | _ => t.Steady write call

theorem Spent.of_log {s : Sending} {cause : Failure} (h : t.Spent write call cause) :
    Spent ⟨t.courier, s, t.log⟩ write call cause :=
  ⟨h.mirrors, h.ascending, h.delivered, h.carried, h.failed, h.charged⟩

/-- Of all posts only the last one can have failed, with the failure of the flush. -/
theorem Spent.last_of_failed {cause other : Failure} {q : Post} (h : t.Spent write call cause)
    (hq : q ∈ t.log.posts) (hf : q.result = .error other) :
    t.log.posts.getLast? = some q ∧ cause = other := by
  have hfailed : q.isDelivered = false := by simp [Post.isDelivered, hf]
  rcases h.failed with ⟨q', hlast, hcause⟩ | ⟨-, hall⟩
  · have hmem : q ∈ t.log.posts.dropLast ++ [q'] :=
      (List.dropLast_append_getLast? q' hlast).symm ▸ hq
    rcases List.mem_append.mp hmem with hbefore | hself
    · exact absurd (h.delivered q hbefore) (by simp [hfailed])
    · obtain rfl := List.mem_singleton.mp hself
      exact ⟨hlast, Except.error.inj (hcause.symm.trans hf)⟩
  · exact absurd (hall q hq) (by simp [hfailed])

theorem Steady.underway_carried (h : t.Steady write call) {d : Dispatch}
    (hu : t.log.underway t.sending = some d) : Carries write call t.log d.number d.payload := by
  obtain ⟨x, hx, hn, hp, -⟩ := underway_mem_line hu
  rw [hn, hp]
  exact h.lined x hx

/-- The post underway is among those that have their answer when it has come. -/
theorem Steady.answered_carried (h : t.Steady write call) (r : Except Failure Unit) :
    ∀ q ∈ (t.answered r).log.posts, Carries write call (t.answered r).log q.number q.payload := by
  have hlog : (t.answered r).log = t.log.answered t.sending r := rfl
  have hsame : (t.answered r).log.consignments = t.log.consignments := by
    rw [hlog, consignments_answered]
  intro q hq
  rw [hlog, posts_answered] at hq
  rcases List.mem_append.mp hq with hq | hq
  · exact (h.carried q hq).of_consignments hsame
  · obtain ⟨d, hd, rfl⟩ := List.mem_map.mp hq
    exact (h.underway_carried (Option.mem_toList.mp hd)).of_consignments hsame

theorem Steady.pausing {c : Courier} {l : Logbook} {count : Nat}
    (h : Steady ⟨c, .replaying (.pausing count) payload, l⟩ write call) :
    (resumed ⟨c, .replaying (.pausing count) payload, l⟩).Orderly write call := by
  cases hp : l.shelf.popFront? with
  | none =>
    have he := Buffer.popFront?_eq_none_iff.mp hp
    rw [resumed_eq_of_empty count payload h.mirrors he]
    exact ⟨h.mirrors, h.delivered, h.ascending, h.known, h.carried, h.lined, h.shelved, h.grown, he,
      h.phase⟩
  | some x =>
    obtain ⟨⟨n, parcel⟩, rest⟩ := x
    obtain ⟨hi, -⟩ := Buffer.popFront?_eq_some hp
    have hline : line ⟨c, .replaying (.pausing count) payload, l⟩ =
        (n, parcel) :: (rest.items ++ [(l.current, ⟨payload, 0⟩)]) := by
      simp [line, hi]
    have hascending := h.ascending
    have hknown := h.known
    have hlined := h.lined
    rw [hline] at hascending hknown hlined
    rw [resumed_eq_of_oldest h.mirrors hp]
    refine ⟨rfl, h.delivered, hascending, hknown, h.carried, hlined, fun x hx => ?_, h.grown, ?_,
      h.phase⟩
    · exact h.shelved x (hi ▸ List.mem_cons_of_mem _ hx)
    · exact h.shelved (n, parcel) (hi ▸ List.mem_cons_self ..)

theorem resumed_orderly (h : t.Orderly write call) : t.resumed.Orderly write call := by
  obtain ⟨c, s, l⟩ := t
  match s with
  | .replaying (.pausing count) payload => exact Steady.pausing h
  | .replaying (.posting parcel count) payload => exact h
  | .replaying (.ended r) payload => exact h
  | .posting payload => exact h
  | .ended r => exact h

theorem send_orderly (h : t.Steady write call) {r : Except Failure Unit} (hs : t.sending = .ended r)
    (hwrite : t.courier.write = write) (rules : RuleBook) (batch : Batch) :
    (t.send rules batch).Orderly write call := by
  obtain ⟨c, s, l⟩ := t
  obtain rfl : s = .ended r := hs
  have hwrite : c.write = write := hwrite
  cases hw : c.write rules batch with
  | error text =>
    have hc : c.codec (c.redactor.apply rules batch) = .error text := hw
    have hsend : send ⟨c, .ended r, l⟩ rules batch =
        ⟨c, .ended (.error (.encode text)),
          (l.give rules batch).lose l.consignments.length .unwritable⟩ := by
      simp [send, Courier.send, hc, Logbook.sent, hw, current, give]
    rw [hsend]
    refine ⟨h.mirrors, (List.pairwise_append.mp h.ascending).1,
      fun q hq => h.delivered q (List.dropLast_subset _ hq), fun q hq => (h.carried q hq).give,
      Or.inr ⟨?_, h.delivered⟩, ?_⟩
    · exact ⟨⟨rules, batch⟩, text, List.getLast?_concat .., hwrite ▸ hw, rfl⟩
    · exact fun x hx => Or.inl (h.shelved x hx)
  | ok payload =>
    have hcurrent : (l.give rules batch).current = l.consignments.length := by
      simp [current, give]
    have hlength : (l.give rules batch).consignments.length = l.consignments.length + 1 := by
      simp [give]
    have hline : line ⟨c, .replaying (.pausing 0) payload, l.give rules batch⟩ =
        l.shelf.items ++ [((l.give rules batch).current, ⟨payload, 0⟩)] := rfl
    have hnumbers : l.posts.map (·.number) ++
          (line ⟨c, .replaying (.pausing 0) payload, l.give rules batch⟩).map Prod.fst =
        l.posts.map (·.number) ++ l.shelf.items.map Prod.fst ++ [l.consignments.length] := by
      rw [hline, hcurrent, List.map_append, List.append_assoc]
      rfl
    rw [send_eq_resumed h.mirrors hw]
    refine Steady.pausing ⟨h.mirrors, h.delivered, ?_, ?_, fun q hq => (h.carried q hq).give, ?_,
      h.shelved, ?_, ?_⟩
    · refine hnumbers ▸ List.pairwise_append.mpr ⟨h.ascending, List.pairwise_singleton .., ?_⟩
      intro n hn m hm
      rw [List.mem_singleton.mp hm]
      exact h.known n hn
    · intro n hn
      rw [hlength]
      rcases List.mem_append.mp (hnumbers ▸ hn) with hn | hn
      · exact Nat.lt_succ_of_lt (h.known n hn)
      · rw [List.mem_singleton.mp hn]
        exact Nat.lt_succ_self _
    · intro x hx
      rw [hline, hcurrent] at hx
      rcases List.mem_append.mp hx with hx | hx
      · exact (h.lined x hx).give
      · rw [List.mem_singleton.mp hx]
        exact Or.inr ⟨h.grown, wrote_given (hwrite ▸ hw)⟩
    · rw [hlength]
      exact Nat.le_succ_of_le h.grown
    · change call.consignments.length ≤ (l.give rules batch).current
      rw [hcurrent]
      exact h.grown

theorem Steady.spent (h : t.Steady write call) {d : Dispatch} (cause : Failure)
    (hu : t.log.underway t.sending = some d)
    (hmirrors : (t.answered (.error cause)).log.shelf.map Prod.snd =
      (t.answered (.error cause)).courier.backlog.parcels)
    (hcharged : ∀ x ∈ (t.answered (.error cause)).log.shelf.items,
      x ∈ call.shelf.items ∨ (call.consignments.length ≤ x.1 ∧ x.2.failures = 0) ∨
      ∃ parcel, d.number = x.1 ∧ (x.1, parcel) ∈ call.shelf.items ∧
        x.2 = { parcel with failures := parcel.failures + 1 }) :
    (t.answered (.error cause)).Spent write call cause := by
  have hposts : (t.answered (.error cause)).log.posts = t.log.posts ++ [⟨d, .error cause⟩] := by
    change (t.log.answered t.sending (.error cause)).posts = _
    rw [posts_answered, hu]
    rfl
  have hlast : (t.answered (.error cause)).log.posts.getLast? = some ⟨d, .error cause⟩ := by
    rw [hposts]
    exact List.getLast?_concat ..
  obtain ⟨x, hx, hn, -⟩ := underway_mem_line hu
  have hnext : d.number ∈ t.line.map Prod.fst := hn ▸ List.mem_map_of_mem hx
  refine ⟨hmirrors, ?_, ?_, h.answered_carried _, Or.inl ⟨_, hlast, rfl⟩, fun x hx => ?_⟩
  · rw [hposts, List.map_append]
    exact h.ascending.sublist ((List.singleton_sublist.mpr hnext).append_left _)
  · rw [hposts, List.dropLast_concat]
    exact h.delivered
  · rcases hcharged x hx with hold | hnew | ⟨parcel, hnumber, hmem, hfailures⟩
    · exact Or.inl hold
    · exact Or.inr (Or.inl hnew)
    · exact Or.inr (Or.inr ⟨_, parcel, hlast, rfl, hnumber, hmem, hfailures⟩)

theorem Steady.posting {c : Courier} {l : Logbook} (h : Steady ⟨c, .posting payload, l⟩ write call)
    (r : Except Failure Unit) : (answered ⟨c, .posting payload, l⟩ r).Orderly write call := by
  obtain ⟨hempty, hnew⟩ : l.shelf.items = [] ∧ call.consignments.length ≤ l.current := h.phase
  match r with
  | .ok () =>
    have hnumbers : (l.record ⟨⟨l.current, 0, payload⟩, .ok ()⟩).posts.map (·.number) ++
          l.shelf.items.map Prod.fst =
        l.posts.map (·.number) ++ (line ⟨c, .posting payload, l⟩).map Prod.fst := by
      simp [record, line, hempty]
    refine ⟨h.mirrors, ?_, hnumbers ▸ h.ascending, hnumbers ▸ h.known, h.answered_carried (.ok ()),
      fun x hx => h.lined x (List.mem_append_left _ hx), h.shelved, h.grown, trivial⟩
    exact List.forall_mem_append.mpr ⟨h.delivered, List.forall_mem_singleton.mpr rfl⟩
  | .error cause =>
    cases hr : cause.isRetryable with
    | true =>
      refine h.spent cause rfl ?_ fun x hx => ?_
      · rw [answered_posting_of_retryable c l payload hr]
        exact hold_mirrors (l := l.record _) h.mirrors
      · rw [answered_posting_of_retryable c l payload hr] at hx
        rcases mem_shelf_hold (l := l.record _) hx with hx | rfl
        · exact Or.inl (h.shelved x hx)
        · exact Or.inr (Or.inl ⟨hnew, rfl⟩)
    | false =>
      refine h.spent cause rfl ?_ fun x hx => ?_
      · rw [answered_posting_of_refused c l payload hr]
        exact h.mirrors
      · rw [answered_posting_of_refused c l payload hr] at hx
        exact Or.inl (h.shelved x hx)

theorem Steady.replaying {c : Courier} {l : Logbook} {parcel : Parcel} {count : Nat}
    (h : Steady ⟨c, .replaying (.posting parcel count) payload, l⟩ write call)
    (r : Except Failure Unit) :
    (answered ⟨c, .replaying (.posting parcel count) payload, l⟩ r).Orderly write call := by
  obtain ⟨hmem, hnew⟩ : (l.taken, parcel) ∈ call.shelf.items ∧
    call.consignments.length ≤ l.current := h.phase
  match r with
  | .ok () =>
    have hnumbers : (l.record ⟨⟨l.taken, parcel.failures + 1, parcel.payload⟩, .ok ()⟩).posts.map
          (·.number) ++ (l.shelf.items ++ [(l.current, (⟨payload, 0⟩ : Parcel))]).map Prod.fst =
        l.posts.map (·.number) ++
          (line ⟨c, .replaying (.posting parcel count) payload, l⟩).map Prod.fst := by
      simp [record, line]
    have hdelivered : ∀ q ∈ (l.record
        ⟨⟨l.taken, parcel.failures + 1, parcel.payload⟩, .ok ()⟩).posts, q.isDelivered :=
      List.forall_mem_append.mpr ⟨h.delivered, List.forall_mem_singleton.mpr rfl⟩
    have hcarried := h.answered_carried (.ok ())
    have hlined := fun x hx => h.lined x (List.mem_cons_of_mem _ hx)
    cases he : c.backlog.isEmpty with
    | true =>
      rw [answered_replaying_last c l payload he]
      exact ⟨h.mirrors, hdelivered, hnumbers ▸ h.ascending, hnumbers ▸ h.known, hcarried, hlined,
        h.shelved, h.grown, items_of_isEmpty h.mirrors he, hnew⟩
    | false =>
      rw [answered_replaying_more c l payload he]
      exact ⟨h.mirrors, hdelivered, hnumbers ▸ h.ascending, hnumbers ▸ h.known, hcarried, hlined,
        h.shelved, h.grown, hnew⟩
  | .error cause =>
    refine h.spent cause rfl ?_ fun x hx => ?_
    · exact hold_mirrors (returned_mirrors (l := l.record _) h.mirrors parcel cause)
    rcases mem_shelf_hold hx with hx | rfl
    · rcases mem_shelf_returned hx with hx | rfl
      · exact Or.inl (h.shelved x hx)
      · exact Or.inr (Or.inr ⟨parcel, rfl, hmem, rfl⟩)
    · refine Or.inr (Or.inl ⟨?_, rfl⟩)
      rw [current_returned]
      exact hnew

theorem answered_orderly (h : t.Orderly write call) (r : Except Failure Unit) :
    (t.answered r).Orderly write call := by
  obtain ⟨c, s, l⟩ := t
  match s with
  | .posting payload => exact Steady.posting h r
  | .replaying (.posting parcel count) payload => exact Steady.replaying h r
  | .replaying (.pausing count) payload => exact h
  | .replaying (.ended r') payload => exact h
  | .ended r' => exact h

theorem Steady.dispatches_ascending (h : t.Steady write call) :
    (t.dispatches.map (·.number)).Pairwise (· < ·) := by
  rw [dispatches, List.map_append, List.map_map]
  refine h.ascending.sublist (List.Sublist.append_left ?_ _)
  cases hu : t.log.underway t.sending with
  | none => exact List.nil_sublist _
  | some d =>
    obtain ⟨x, hx, hn, -⟩ := underway_mem_line hu
    have hnext : d.number ∈ t.line.map Prod.fst := hn ▸ List.mem_map_of_mem hx
    exact List.singleton_sublist.mpr hnext

theorem Steady.dispatches_carried (h : t.Steady write call) :
    ∀ d ∈ t.dispatches, Carries write call t.log d.number d.payload := by
  intro d hd
  rcases mem_dispatches.mp hd with ⟨q, hq, rfl⟩ | hu
  · exact h.carried q hq
  · exact h.underway_carried hu

end Round

def Pipeline.flushResult? (p : Pipeline) : Option (Except Failure Nat) :=
  match p.worker with
  | .flushing _ (.ended result) => some result
  | _ => none

theorem Outbox.nextBatch_flush (o : Outbox) (identity : Option Identity) (sent total : Nat) :
    (∃ batch, (o.nextBatch identity sent total).2.1 = .sending batch sent total) ∨
      (o.nextBatch identity sent total).2.1 = .ended (.ok sent) := by
  unfold nextBatch
  by_cases he : (o.events.takeFront (min maxBatch (total - sent))).1.isEmpty
  · exact Or.inr (by simp [he])
  · exact Or.inl ⟨_, by simp only [he]; rfl⟩

namespace Chronicle

variable {c c' : Chronicle} {write : RuleBook → Batch → Except String Payload} {call : Logbook}

/-- A flush is about to begin. The parcels in the backlog are those of earlier batches, of which
nothing need be known. -/
def opening (p : Pipeline) (last : Bool) (earlier : Nat → Consignment) : Chronicle where
  pipeline := { p with worker := .flushing last p.outbox.beginFlush }
  accepted := p.outbox.events.items
  log := {
    consignments := (List.range p.courier.backlog.parcels.items.length).map earlier
    shelf := p.courier.backlog.parcels.numbered }

theorem opening_carries (p : Pipeline) (last : Bool) (earlier : Nat → Consignment) {l : Logbook} {n : Nat}
    {payload : Payload} (h : Logbook.Carries write (opening p last earlier).log l n payload) :
    let waiting := p.courier.backlog.parcels.items
    (∃ parcel, waiting[n]? = some parcel ∧ payload = parcel.payload) ∨
      (waiting.length ≤ n ∧ l.Wrote write n payload) := by
  intro waiting
  rcases h with ⟨parcel, hmem, hpayload⟩ | ⟨hle, hwrote⟩
  · exact Or.inl ⟨parcel, Buffer.getElem?_of_mem_numbered hmem, hpayload⟩
  · exact Or.inr ⟨by simpa [opening] using hle, hwrote⟩

/-- Moves are made for as long as the flush has not ended. -/
def flushNext (c : Chronicle) (move : Pipeline.Move) : Chronicle :=
  if c.pipeline.flushResult?.isSome then c else c.next move

def flush (c : Chronicle) (moves : List Pipeline.Move) : Chronicle := moves.foldl flushNext c

def InOrder (c : Chronicle) (write : RuleBook → Batch → Except String Payload) (call : Logbook) :
    Prop :=
  match c.pipeline.worker with
  | .flushing _ (.ended (.error cause)) => c.round.Spent write call cause
  | .flushing .. => c.round.Steady write call
  | .delivering _ (.sending ..) _ => c.round.Orderly write call
  | _ => False

theorem opening_inOrder (p : Pipeline) (last : Bool) (earlier : Nat → Consignment) :
    (opening p last earlier).InOrder write (opening p last earlier).log := by
  have hnumbers := p.courier.backlog.parcels.numbers_numbered
  have hsteady : (opening p last earlier).round.Steady write (opening p last earlier).log := by
    refine ⟨Buffer.map_numbered _, by simp [opening, Chronicle.round], ?_, ?_,
      by simp [opening, Chronicle.round], fun x hx => Or.inl ⟨x.2, hx, rfl⟩, fun x hx => hx,
      Nat.le_refl _, trivial⟩
    · change (p.courier.backlog.parcels.numbered.items.map Prod.fst).Pairwise (· < ·)
      rw [hnumbers]
      exact List.pairwise_lt_range
    · intro n hn
      have hmem : n ∈ p.courier.backlog.parcels.numbered.items.map Prod.fst := hn
      rw [hnumbers, List.mem_range] at hmem
      simpa [opening, Chronicle.round] using hmem
  cases he : p.outbox.events.isEmpty with
  | true => simpa [InOrder, opening, Outbox.beginFlush, he] using hsteady
  | false => simpa [InOrder, opening, Outbox.beginFlush, he] using hsteady

theorem InOrder.same (h : c.InOrder write call) (hw : c'.pipeline.worker = c.pipeline.worker)
    (hc : c'.pipeline.courier = c.pipeline.courier) (hl : c'.log = c.log) :
    c'.InOrder write call := by
  have hround : c'.round = c.round := by
    simp only [Chronicle.round, Pipeline.sending, hw, hc, hl]
  unfold InOrder
  rw [hw, hround]
  exact h

theorem log_follow {p : Pipeline} (h : p.batchOut? = none → c.pipeline.batchOut? = none) :
    (c.follow p).log = c.log := by
  unfold follow
  split
  · rfl
  · next hc hp => exact absurd (h hp) (by simp [hc])
  · rfl

theorem InOrder.awake (h : c.InOrder write call) : c.pipeline.worker ≠ .sleeping := by
  intro hs
  simp [InOrder, hs] at h

theorem InOrder.unnoticed (h : c.InOrder write call) {p : Pipeline}
    (hw : p.worker = c.pipeline.worker) (hc : p.courier = c.pipeline.courier) :
    (c.follow p).InOrder write call := by
  refine h.same (by rw [pipeline_follow, hw]) (by rw [pipeline_follow, hc]) (log_follow ?_)
  simp [Pipeline.batchOut?, hw]

theorem InOrder.proceed (h : c.InOrder write call)
    (hw : (∃ last flush sending sending', c.pipeline.worker = .delivering last flush sending ∧
        c'.pipeline.worker = .delivering last flush sending') ∨
      c'.pipeline.worker = c.pipeline.worker)
    (ho : c.round.Orderly write call → c'.round.Orderly write call)
    (hs : c.round.sending = .ended (.ok ()) → c'.round = c.round) : c'.InOrder write call := by
  rcases hw with ⟨last, flush, sending, sending', hw, hw'⟩ | hw
  · cases flush with
    | sending batch sent total =>
      have horderly : c.round.Orderly write call := by simpa [InOrder, hw] using h
      simpa [InOrder, hw'] using ho horderly
    | _ => simp [InOrder, hw] at h
  · cases hf : c.pipeline.worker with
    | flushing last flush =>
      have hround : c'.round = c.round := hs (by simp [Chronicle.round, Pipeline.sending, hf])
      exact h.same hw (congrArg Round.courier hround) (congrArg Round.log hround)
    | delivering last flush sending =>
      cases flush with
      | sending batch sent total =>
        have horderly : c.round.Orderly write call := by simpa [InOrder, hf] using h
        simpa [InOrder, hw, hf] using ho horderly
      | _ => simp [InOrder, hf] at h
    | _ => simp [InOrder, hf] at h

/-- The worker takes out the next batch, or the flush has come to its end. -/
theorem goes_on_inOrder {last : Bool} {identity : Option Identity} {sent total : Nat}
    (h : Round.Steady ⟨c.pipeline.courier, .ended (.ok ()), c.log⟩ write call)
    (hout : c.pipeline.batchOut? = none) {p : Pipeline} (hc : p.courier = c.pipeline.courier)
    (hw : p.worker = .flushing last (c.pipeline.outbox.nextBatch identity sent total).2.1) :
    (c.follow p).InOrder write call := by
  have hlog : (c.follow p).log = c.log := log_follow fun _ => hout
  unfold InOrder
  rw [pipeline_follow, hw]
  rcases c.pipeline.outbox.nextBatch_flush identity sent total with ⟨batch, hf⟩ | hf
  · have hround : (c.follow p).round = ⟨c.pipeline.courier, .ended (.ok ()), c.log⟩ := by
      simp only [Chronicle.round, Pipeline.sending, pipeline_follow, hw, hf, hc, hlog]
    rw [hf, hround]
    exact h
  · have hround : (c.follow p).round = ⟨c.pipeline.courier, .ended (.ok ()), c.log⟩ := by
      simp only [Chronicle.round, Pipeline.sending, pipeline_follow, hw, hf, hc, hlog]
    rw [hf, hround]
    exact h

theorem work_inOrder (h : c.InOrder write call) (hgo : c.pipeline.flushResult? = none)
    (hwrite : c.pipeline.courier.write = write) (now : Nat) :
    (c.next (.work now)).InOrder write call := by
  change (c.follow (c.pipeline.work now).1).InOrder write call
  cases hw : c.pipeline.worker with
  | flushing last flush =>
    have hround : c.round = ⟨c.pipeline.courier, .ended (.ok ()), c.log⟩ := by
      simp only [Chronicle.round, Pipeline.sending, hw]
    cases flush with
    | lookingUp total =>
      have hsteady : c.round.Steady write call := by simpa [InOrder, hw] using h
      exact goes_on_inOrder (hround ▸ hsteady) (by simp [Pipeline.batchOut?, hw])
        (by simp [Pipeline.work, hw]) (by simp only [Pipeline.work, hw]; rfl)
    | sending batch sent total =>
      have hsteady : c.round.Steady write call := by simpa [InOrder, hw] using h
      have hsent : (c.follow (c.pipeline.work now).1).round =
          c.round.send c.pipeline.rules batch := by
        simp only [follow, Pipeline.work, Pipeline.batchOut?, hw, Chronicle.round,
          Pipeline.sending, Round.send]
      have horderly := Round.send_orderly hsteady (congrArg Round.sending hround) hwrite
        c.pipeline.rules batch
      rw [← hsent] at horderly
      simpa [InOrder, pipeline_follow, Pipeline.work, hw] using horderly
    | ended result => simp [Pipeline.flushResult?, hw] at hgo
  | delivering last flush sending =>
    cases sending with
    | ended result =>
      cases flush with
      | sending batch sent total =>
        have hround : c.round = ⟨c.pipeline.courier, .ended result, c.log⟩ := by
          simp only [Chronicle.round, Pipeline.sending, hw]
        have horderly : c.round.Orderly write call := by simpa [InOrder, hw] using h
        rw [hround] at horderly
        cases result with
        | ok =>
          exact goes_on_inOrder horderly (by simp [Pipeline.batchOut?, hw])
            (by simp [Pipeline.work, hw]) (by simp only [Pipeline.work, hw]; rfl)
        | error cause =>
          have hlog : (c.follow (c.pipeline.work now).1).log = c.log :=
            log_follow fun _ => by simp [Pipeline.batchOut?, hw]
          have hspent : Round.Spent ⟨c.pipeline.courier, .ended (.error cause), c.log⟩ write call
            cause := horderly
          have hround' : (c.follow (c.pipeline.work now).1).round =
              ⟨c.pipeline.courier, .ended (.ok ()), c.log⟩ := by
            rw [Chronicle.round, hlog, pipeline_follow]
            simp [Pipeline.sending, Pipeline.work, hw]
          unfold InOrder
          rw [hround', pipeline_follow]
          simp only [Pipeline.work, hw, Outbox.settled]
          exact hspent.of_log
      | lookingUp total => simp [InOrder, hw] at h
      | ended result => simp [InOrder, hw] at h
    | posting payload =>
      exact h.unnoticed (by simp [Pipeline.work, hw]) (by simp [Pipeline.work, hw])
    | replaying replay payload =>
      exact h.unnoticed (by simp [Pipeline.work, hw]) (by simp [Pipeline.work, hw])
  | _ => simp [InOrder, hw] at h

theorem next_inOrder (h : c.InOrder write call) (hgo : c.pipeline.flushResult? = none)
    (hwrite : c.pipeline.courier.write = write) (move : Pipeline.Move) :
    (c.next move).InOrder write call := by
  cases move with
  | append e now =>
    refine h.same ?_ ?_ (c.log_append e now)
    · rw [pipeline_next]
      rfl
    · rw [pipeline_next]
      rfl
  | govern rules => exact h.unnoticed rfl rfl
  | wake =>
    have hsame : c.pipeline.wake = c.pipeline := Pipeline.wake_of_awake h.awake
    exact h.unnoticed (congrArg _ hsame) (congrArg _ hsame)
  | cancel =>
    have hsame : c.pipeline.cancel = { c.pipeline with cancelled := true } :=
      Pipeline.wake_of_awake h.awake
    exact h.unnoticed (p := c.pipeline.cancel) (by rw [hsame]) (by rw [hsame])
  | work now => exact work_inOrder h hgo hwrite now
  | answer r =>
    have hround := c.round_answer r
    refine h.proceed ?_ (fun h => hround ▸ Round.answered_orderly h r) ?_
    · cases hw : c.pipeline.worker <;> simp [Pipeline.answered, hw, next, answered]
    · intro hs
      rw [hround, Round.answered_of_no_post (by rw [hs]; rfl)]
  | resume =>
    have hround := c.round_resume
    refine h.proceed ?_ (fun h => hround ▸ Round.resumed_orderly h) ?_
    · cases hw : c.pipeline.worker <;> simp [Pipeline.paused, hw, next, resumed]
    · intro hs
      rw [hround, Round.resumed_of_ended hs]

theorem flush_inOrder (h : c.InOrder write call) (hwrite : c.pipeline.courier.write = write)
    (moves : List Pipeline.Move) : (c.flush moves).InOrder write call := by
  induction moves generalizing c with
  | nil => exact h
  | cons move moves ih =>
    change ((c.flushNext move).flush moves).InOrder write call
    cases hf : c.pipeline.flushResult? with
    | some result =>
      have hsame : c.flushNext move = c := by simp [flushNext, hf]
      rw [hsame]
      exact ih h hwrite
    | none =>
      have hnext : c.flushNext move = c.next move := by simp [flushNext, hf]
      rw [hnext]
      refine ih (next_inOrder h hf hwrite move) ?_
      rw [pipeline_next, Pipeline.write_next, hwrite]

/-- The events that have left the outbox since the first `k` batches were handed over, and then those
that wait in it. -/
def outflow (c : Chronicle) (k : Nat) : List Event :=
  (c.log.consignments.drop k).flatMap (·.batch.events) ++
    (c.pipeline.batchOut?.toList.flatMap (·.events) ++ c.pipeline.outbox.events.items)

/-- They have been accepted, each once and in this order. -/
structure Supplied (c : Chronicle) (k : Nat) : Prop where
  handed : k ≤ c.log.consignments.length
  events : (c.outflow k).Sublist c.accepted

variable {k : Nat} {p : Pipeline}

theorem opening_supplied (p : Pipeline) (last : Bool) (earlier : Nat → Consignment) :
    (opening p last earlier).Supplied p.courier.backlog.parcels.items.length := by
  have hnone : (opening p last earlier).pipeline.batchOut? = none :=
    (Pipeline.beginFlush_free last rfl).batchOut
  refine ⟨by simp [opening], ?_⟩
  rw [outflow, hnone, List.drop_eq_nil_of_le (by simp [opening])]
  exact List.Sublist.refl _

theorem outflow_follow (hk : k ≤ c.log.consignments.length) (hw : c.pipeline.Works p) :
    (c.follow p).outflow k = c.outflow k := by
  cases hw with
  | takesOut batch free out courier items evicted =>
    simp [outflow, follow, free.batchOut, out, items]
  | handsOver batch out gone courier sending outbox =>
    simp [outflow, follow, out, gone, outbox, Logbook.consignments_sent,
      List.drop_append_of_le_length hk]
  | clears free still courier outbox =>
    simp [outflow, follow, free.batchOut, still.batchOut, outbox]
  | waits out sending courier outbox =>
    cases hb : c.pipeline.batchOut? <;> simp [outflow, follow, out, hb, outbox]

theorem outflow_append (c : Chronicle) (e : Event) (now : Nat) (k : Nat) :
    (c.append e now).accepted = c.accepted ∧ (c.append e now).outflow k = c.outflow k ∨
      (c.append e now).accepted = c.accepted ++ [e] ∧
        ((c.append e now).outflow k).Sublist (c.outflow k ++ [e]) := by
  obtain ⟨-, -, hb, ho⟩ := c.pipeline.append_fields e now
  have hflow : (c.append e now).outflow k =
      (c.log.consignments.drop k).flatMap (·.batch.events) ++
        (c.pipeline.batchOut?.toList.flatMap (·.events) ++
          (c.pipeline.append e now).1.outbox.events.items) := by
    rw [outflow, pipeline_append, c.log_append e now, hb]
  cases hp : (c.pipeline.append e now).2 with
  | false =>
    rw [hp] at ho
    rw [hflow, ho]
    exact Or.inl ⟨by simp [append, hp], rfl⟩
  | true =>
    have hitems : (c.pipeline.outbox.append e).events.items.Sublist
        (c.pipeline.outbox.events.items ++ [e]) := by
      cases hf : c.pipeline.outbox.events.isFull with
      | false => rw [Outbox.append, Buffer.items_offer_of_room hf]
      | true =>
        rw [Outbox.append, Buffer.items_offer_of_full hf]
        exact (List.tail_sublist _).append_right _
    rw [hp, if_pos rfl] at ho
    refine Or.inr ⟨by simp [append, hp], ?_⟩
    rw [hflow, ho, outflow, List.append_assoc, List.append_assoc]
    exact (hitems.append_left _).append_left _

theorem next_supplied (h : c.Supplied k) (move : Pipeline.Move) : (c.next move).Supplied k := by
  have hfollow : ∀ p, c.pipeline.Works p → ((c.follow p).outflow k).Sublist (c.follow p).accepted := by
    intro p hw
    have haccepted : (c.follow p).accepted = c.accepted := by
      unfold follow
      split <;> rfl
    rw [outflow_follow h.handed hw, haccepted]
    exact h.events
  refine ⟨Nat.le_trans h.handed (c.next_continues move).log_grows.2.length_le, ?_⟩
  cases move with
  | append e now =>
    change ((c.append e now).outflow k).Sublist (c.append e now).accepted
    rcases c.outflow_append e now k with ⟨ha, hflow⟩ | ⟨ha, hflow⟩
    · rw [ha, hflow]
      exact h.events
    · rw [ha]
      exact hflow.trans (h.events.append_right _)
  | answer r =>
    obtain ⟨-, -, hb, ho⟩ := c.pipeline.answered_fields r
    have hflow : (c.answered r).outflow k = c.outflow k := by
      simp only [outflow, answered, Logbook.consignments_answered, hb, ho]
    exact hflow.symm ▸ h.events
  | resume =>
    obtain ⟨-, -, hb, ho⟩ := c.pipeline.paused_fields
    have hflow : c.resumed.outflow k = c.outflow k := by
      simp only [outflow, resumed, Logbook.consignments_paused, hb, ho]
    exact hflow.symm ▸ h.events
  | govern rules => exact hfollow _ (c.pipeline.next_works (.govern rules))
  | wake => exact hfollow _ (c.pipeline.next_works .wake)
  | cancel => exact hfollow _ (c.pipeline.next_works .cancel)
  | work now => exact hfollow _ (c.pipeline.next_works (.work now))

theorem flush_supplied (h : c.Supplied k) (moves : List Pipeline.Move) :
    (c.flush moves).Supplied k ∧
      (c.flush moves).accepted.Sublist (c.accepted ++ moves.filterMap Pipeline.Move.event?) := by
  induction moves generalizing c with
  | nil => exact ⟨h, by simp [flush]⟩
  | cons move moves ih =>
    have hnext : (c.flushNext move).Supplied k ∧
        (c.flushNext move).accepted.Sublist (c.accepted ++ move.event?.toList) := by
      unfold flushNext
      split
      · exact ⟨h, List.sublist_append_left ..⟩
      · exact ⟨next_supplied h move, c.accepted_next move⟩
    obtain ⟨hsupplied, haccepted⟩ := ih hnext.1
    refine ⟨hsupplied, (haccepted.trans (hnext.2.append_right _)).trans ?_⟩
    cases he : move.event? <;> simp [he]

/-- Until something fails all goes well; after that nothing is posted, and the flush ends with that
failure as soon as the worker moves. -/
theorem InOrder.steady_or_spent (h : c.InOrder write call) :
    (c.round.Steady write call ∧ ∀ cause, c.pipeline.flushResult? ≠ some (.error cause)) ∨
    ∃ cause, c.round.Spent write call cause ∧ c.log.underway c.pipeline.sending = none ∧
      (∀ other, c.pipeline.flushResult? = some (.error other) → other = cause) ∧
      ∀ now, (c.flushNext (.work now)).pipeline.flushResult? = some (.error cause) := by
  cases hw : c.pipeline.worker with
  | flushing last flush =>
    cases flush with
    | ended result =>
      cases result with
      | ok sent => exact Or.inl ⟨by simpa [InOrder, hw] using h, by simp [Pipeline.flushResult?, hw]⟩
      | error cause =>
        refine Or.inr ⟨cause, by simpa [InOrder, hw] using h, ?_, ?_, fun now => ?_⟩
        · simp [Pipeline.sending, hw, Logbook.underway]
        · intro other ho
          simpa [Pipeline.flushResult?, hw] using ho.symm
        · simp [flushNext, Pipeline.flushResult?, hw]
    | _ => exact Or.inl ⟨by simpa [InOrder, hw] using h, by simp [Pipeline.flushResult?, hw]⟩
  | delivering last flush sending =>
    cases flush with
    | sending batch sent total =>
      have horderly : c.round.Orderly write call := by simpa [InOrder, hw] using h
      have hsending : c.round.sending = sending := by
        simp [Chronicle.round, Pipeline.sending, hw]
      unfold Round.Orderly at horderly
      rw [hsending] at horderly
      split at horderly
      · next cause =>
        refine Or.inr ⟨cause, horderly, ?_, ?_, fun now => ?_⟩
        · simp [Pipeline.sending, hw, Logbook.underway]
        · simp [Pipeline.flushResult?, hw]
        · have hgo : c.pipeline.flushResult? = none := by simp [Pipeline.flushResult?, hw]
          have hnext : (c.flushNext (.work now)).pipeline = (c.pipeline.work now).1 := by
            simp only [flushNext, hgo, Option.isSome_none, Bool.false_eq_true, if_false,
              pipeline_next]
            rfl
          simp [hnext, Pipeline.work, hw, Outbox.settled, Pipeline.flushResult?]
      · exact Or.inl ⟨horderly, by simp [Pipeline.flushResult?, hw]⟩
    | _ => simp [InOrder, hw] at h
  | _ => simp [InOrder, hw] at h

/-- Whatever there is in the outbox and in the backlog when a flush begins, and whatever comes in and
is answered. Posts are numbered in ascending order: the numbers of the parcels that waited come first,
and their payloads are posted; after them come the batches that the flush hands over, whose events have
come out of the outbox, each once. So nothing is posted twice. Only the last post can have failed; then
nothing more is posted, and the flush ends with that failure. If it fails without such a post, its last
batch could not be written, and all posts were delivered. No parcel of the backlog is charged with a
failure but the one of the last post, with one. -/
theorem first_failure_is_last (p : Pipeline) (last : Bool) (earlier : Nat → Consignment)
    (moves : List Pipeline.Move) :
    let call := opening p last earlier
    let c := call.flush moves
    let waiting := p.courier.backlog.parcels.items
    (c.round.dispatches.map (·.number)).Pairwise (· < ·) ∧
    (∀ d ∈ c.round.dispatches,
      (∃ parcel, waiting[d.number]? = some parcel ∧ d.payload = parcel.payload) ∨
      (waiting.length ≤ d.number ∧ ∃ x, c.log.consignments[d.number]? = some x ∧
        p.courier.codec (p.courier.redactor.apply x.rules x.batch) = .ok d.payload)) ∧
    ((c.log.consignments.drop waiting.length).flatMap (·.batch.events)).Sublist c.accepted ∧
    c.accepted.Sublist (p.outbox.events.items ++ moves.filterMap Pipeline.Move.event?) ∧
    (∀ payload, c.pipeline.wait = .answer payload ↔
      ∃ d, c.log.underway c.pipeline.sending = some d ∧ d.payload = payload) ∧
    (∀ q ∈ c.log.posts.dropLast, q.isDelivered) ∧
    (∀ q ∈ c.log.posts, ∀ cause, q.result = .error cause →
      c.log.posts.getLast? = some q ∧ c.round.dispatches = c.log.posts.map Post.toDispatch ∧
      ∀ now, (c.flushNext (.work now)).pipeline.flushResult? = some (.error cause)) ∧
    (∀ cause, c.pipeline.flushResult? = some (.error cause) →
      (∃ q, c.log.posts.getLast? = some q ∧ q.result = .error cause) ∨
      (∃ x text, c.log.consignments.getLast? = some x ∧
        p.courier.codec (p.courier.redactor.apply x.rules x.batch) = .error text ∧
        cause = .encode text) ∧ ∀ q ∈ c.log.posts, q.isDelivered) ∧
    c.log.shelf.map Prod.snd = c.pipeline.courier.backlog.parcels ∧
    ∀ x ∈ c.log.shelf.items, x ∈ call.log.shelf.items ∨
      (call.log.consignments.length ≤ x.1 ∧ x.2.failures = 0) ∨
      ∃ q parcel, c.log.posts.getLast? = some q ∧ q.isDelivered = false ∧ q.number = x.1 ∧
        (x.1, parcel) ∈ call.log.shelf.items ∧
        x.2 = { parcel with failures := parcel.failures + 1 } := by
  intro call c waiting
  have h : c.InOrder p.courier.write call.log :=
    flush_inOrder (opening_inOrder p last earlier) rfl moves
  obtain ⟨hsupplied, haccepted⟩ := flush_supplied (opening_supplied p last earlier) moves
  have htaken : ((c.log.consignments.drop waiting.length).flatMap (·.batch.events)).Sublist
      c.accepted := (List.sublist_append_left ..).trans hsupplied.events
  rcases h.steady_or_spent with ⟨hsteady, hgoing⟩ | ⟨cause, hspent, hnone, hresult, hends⟩
  · refine ⟨hsteady.dispatches_ascending, ?_, htaken, haccepted, fun _ => wait_eq_answer_iff, ?_, ?_,
      fun cause hf => absurd hf (hgoing cause), hsteady.mirrors,
      fun x hx => Or.inl (hsteady.shelved x hx)⟩
    · exact fun d hd => opening_carries p last earlier (hsteady.dispatches_carried d hd)
    · exact fun q hq => hsteady.delivered q (List.dropLast_subset _ hq)
    · intro q hq cause hf
      have hd := hsteady.delivered q hq
      simp [Post.isDelivered, hf] at hd
  · have hdispatches : c.round.dispatches = c.log.posts.map Post.toDispatch := by
      have hunderway : c.round.log.underway c.round.sending = none := hnone
      rw [Round.dispatches, hunderway]
      exact List.append_nil _
    refine ⟨?_, ?_, htaken, haccepted, fun _ => wait_eq_answer_iff, hspent.delivered, ?_, ?_,
      hspent.mirrors, fun x hx => ?_⟩
    · rw [hdispatches, List.map_map]
      exact hspent.ascending
    · intro d hd
      rw [hdispatches] at hd
      obtain ⟨q, hq, rfl⟩ := List.mem_map.mp hd
      exact opening_carries p last earlier (hspent.carried q hq)
    · intro q hq other hf
      obtain ⟨hlast, rfl⟩ := hspent.last_of_failed hq hf
      exact ⟨hlast, hdispatches, hends⟩
    · intro other hf
      obtain rfl := hresult other hf
      exact hspent.failed
    · rcases hspent.charged x hx with hold | hnew | ⟨q, parcel, hlast, hfailed, hcharged⟩
      · exact Or.inl hold
      · exact Or.inr (Or.inl hnew)
      · exact Or.inr (Or.inr ⟨q, parcel, hlast, by simp [Post.isDelivered, hfailed], hcharged⟩)

example :
    let p := ((start {} (Format.json.codec false) {} 20 0 .nobody []).run
      (failing ++ [.append (.ofMessage .info "more" 0) 0])).pipeline
    let c := (opening p false fun _ => ⟨[], ⟨p.outbox.context, []⟩⟩).flush
      [.work 0, .work 0, .answer (.ok ()), .answer (.error (.server 503)), .work 0]
    c.log.posts.map (fun q => (q.number, q.isDelivered)) = [(0, true), (1, false)] ∧
      c.pipeline.flushResult? matches some (.error (.server 503)) := by
  decide

end Chronicle
end LogDelivery
