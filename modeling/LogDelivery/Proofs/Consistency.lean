import LogDelivery.Proofs.Logbook
import Mathlib.Data.List.Perm.Basic

/-!
# Consistency of a logbook

What a logbook says at any moment, next to the line of batches whose fate is open. Posts only ever
concern the head of the line, so that a few entries are all that can happen to it: a batch joins
at the end, its head is posted and leaves or stays, or its head is crowded out.
-/
namespace LogDelivery

/-- After this post, a batch may be posted as such a retry: it is a younger one, or this post
failed, may be repeated and came before that retry. -/
def Post.Permits (q : Post) (number retry : Nat) : Prop :=
  q.number < number ∨ (q.number = number ∧ q.isRetryable ∧ q.retry < retry)

namespace Logbook

def delivered (l : Logbook) : List Nat := (l.posts.filter Post.isDelivered).map (·.number)

def lost (l : Logbook) : List Nat := l.losses.map Prod.fst

variable (write : RuleBook → Batch → Except String Payload)

def Wrote (l : Logbook) (number : Nat) (payload : Payload) : Prop :=
  ∃ x, l.consignments[number]? = some x ∧ write x.rules x.batch = .ok payload

/-- What must have happened for a batch to be lost for a reason. -/
def Justifies (capacity : Nat) (l : Logbook) : Nat × Loss → Prop
  | (n, .unwritable) =>
    ∃ x text, l.consignments[n]? = some x ∧ write x.rules x.batch = .error text
  | (n, .refused) => ∃ q ∈ l.posts, q.number = n ∧ q.isRefused
  | (n, .exhausted) =>
    ∀ j, 0 < j → j ≤ Backlog.maxFailures → ∃ q ∈ l.posts, q.number = n ∧ q.retry = j ∧ q.isRetryable
  | (n, .crowdedOut waiting) => waiting.head? = some n ∧ waiting.length = capacity

/-- The posts that have been made, against those that may still be made. -/
structure Posted (l : Logbook) (line : List (Nat × Parcel)) : Prop where
  increasing : line.Pairwise fun x y => x.1 < y.1
  patient : ∀ x ∈ line, x.2.failures < Backlog.maxFailures
  line_written : ∀ x ∈ line, l.Wrote write x.1 x.2.payload
  line_counted : ∀ x ∈ line, ∀ j, 0 < j → j ≤ x.2.failures →
    ∃ q ∈ l.posts, q.number = x.1 ∧ q.retry = j
  line_permitted : ∀ q ∈ l.posts, ∀ x ∈ line, q.Permits x.1 (x.2.failures + 1)
  posts_written : ∀ q ∈ l.posts, l.Wrote write q.number q.payload
  posts_bounded : ∀ q ∈ l.posts, q.retry ≤ Backlog.maxFailures
  posts_ordered : l.posts.Pairwise fun q p => q.Permits p.number p.retry

/-- Each batch is delivered, in the line or lost, and each loss has its reason. -/
structure Consistent (capacity : Nat) (l : Logbook) (line : List (Nat × Parcel)) : Prop
    extends l.Posted write line where
  balance : (List.range l.consignments.length).Perm
    (l.delivered ++ line.map Prod.fst ++ l.lost)
  losses_justified : ∀ x ∈ l.losses, l.Justifies write capacity x

variable {write} {capacity : Nat} {l : Logbook} {line rest : List (Nat × Parcel)}
  {rules : RuleBook} {batch : Batch} {x : Nat × Parcel} {q : Post}

theorem Wrote.lt {n : Nat} {payload : Payload} (h : l.Wrote write n payload) :
    n < l.consignments.length := by
  obtain ⟨x, hx, _⟩ := h
  exact (List.getElem?_eq_some_iff.mp hx).1

theorem getElem?_give {n : Nat} {c : Consignment} (h : l.consignments[n]? = some c) :
    (l.give rules batch).consignments[n]? = some c := by
  have hn := (List.getElem?_eq_some_iff.mp h).1
  simpa [give, List.getElem?_append_left hn] using h

theorem Wrote.give {n : Nat} {payload : Payload} (h : l.Wrote write n payload) :
    (l.give rules batch).Wrote write n payload := by
  obtain ⟨c, hc, hw⟩ := h
  exact ⟨c, getElem?_give hc, hw⟩

theorem wrote_given {payload : Payload} (h : write rules batch = .ok payload) :
    (l.give rules batch).Wrote write l.consignments.length payload :=
  ⟨⟨rules, batch⟩, by simp [Logbook.give], h⟩

theorem Justifies.give {y : Nat × Loss} (h : l.Justifies write capacity y) :
    (l.give rules batch).Justifies write capacity y := by
  obtain ⟨n, why⟩ := y
  cases why with
  | unwritable =>
    obtain ⟨c, text, hc, hw⟩ := h
    exact ⟨c, text, getElem?_give hc, hw⟩
  | refused => exact h
  | exhausted => exact h
  | crowdedOut waiting => exact h

theorem Justifies.record {y : Nat × Loss} (h : l.Justifies write capacity y) (q : Post) :
    (l.record q).Justifies write capacity y := by
  obtain ⟨n, why⟩ := y
  cases why with
  | unwritable => exact h
  | refused =>
    obtain ⟨p, hp, hn, hr⟩ := h
    exact ⟨p, List.mem_append_left _ hp, hn, hr⟩
  | exhausted =>
    intro j hj hm
    obtain ⟨p, hp, hn⟩ := h j hj hm
    exact ⟨p, List.mem_append_left _ hp, hn⟩
  | crowdedOut waiting => exact h

theorem mem_record (l : Logbook) (q : Post) : q ∈ (l.record q).posts :=
  List.mem_append_right _ (List.mem_singleton_self q)

theorem justifies_refused {d : Dispatch} {cause : Failure}
    (hr : cause.isRetryable = false) :
    (l.record ⟨d, .error cause⟩).Justifies write capacity (d.number, .refused) :=
  ⟨_, mem_record l _, rfl, by simp [Post.isRefused, hr]⟩

theorem justifies_lose {n : Nat} {why : Loss} {y : Nat × Loss} :
    (l.lose n why).Justifies write capacity y ↔ l.Justifies write capacity y := by
  obtain ⟨m, reason⟩ := y
  cases reason <;> exact Iff.rfl

theorem Consistent.reshelve (h : Consistent write capacity l line)
    (shelf : Buffer (Nat × Parcel)) (taken : Nat) :
    Consistent write capacity { l with shelf, taken } line :=
  ⟨⟨h.increasing, h.patient, h.line_written, h.line_counted, h.line_permitted, h.posts_written,
    h.posts_bounded, h.posts_ordered⟩, h.balance, h.losses_justified⟩

/-- Posts are judged without regard to losses. -/
theorem Posted.lose (h : l.Posted write line) (n : Nat) (why : Loss) :
    (l.lose n why).Posted write line :=
  ⟨h.increasing, h.patient, h.line_written, h.line_counted, h.line_permitted, h.posts_written,
    h.posts_bounded, h.posts_ordered⟩

theorem justified_lose {n : Nat} {why : Loss} (h : ∀ y ∈ l.losses, l.Justifies write capacity y)
    (hj : l.Justifies write capacity (n, why)) :
    ∀ y ∈ (l.lose n why).losses, (l.lose n why).Justifies write capacity y := by
  intro y hy
  rcases List.mem_append.mp hy with hy | hy
  · exact justifies_lose.mpr (h y hy)
  · rw [List.mem_singleton.mp hy]
    exact justifies_lose.mpr hj

theorem Posted.post_lt (h : l.Posted write line) (hq : q ∈ l.posts) :
    q.number < l.consignments.length :=
  (h.posts_written q hq).lt

theorem range_give : List.range (l.give rules batch).consignments.length =
    List.range l.consignments.length ++ [l.consignments.length] := by
  simp [give, List.range_succ]

theorem Posted.give (h : l.Posted write line) : (l.give rules batch).Posted write line where
  increasing := h.increasing
  patient := h.patient
  line_written := fun x hx => (h.line_written x hx).give
  line_counted := h.line_counted
  line_permitted := h.line_permitted
  posts_written := fun q hq => (h.posts_written q hq).give
  posts_bounded := h.posts_bounded
  posts_ordered := h.posts_ordered

theorem Posted.join {payload : Payload} (h : l.Posted write line)
    (hw : write rules batch = .ok payload) :
    (l.give rules batch).Posted write (line ++ [(l.consignments.length, ⟨payload, 0⟩)]) where
  increasing := by
    refine List.pairwise_append.mpr ⟨h.increasing, by simp, ?_⟩
    intro x hx y hy
    rw [List.mem_singleton.mp hy]
    exact (h.line_written x hx).lt
  patient := by
    intro x hx
    rcases List.mem_append.mp hx with hx | hx
    · exact h.patient x hx
    · rw [List.mem_singleton.mp hx]
      exact Nat.succ_pos 2
  line_written := by
    intro x hx
    rcases List.mem_append.mp hx with hx | hx
    · exact (h.line_written x hx).give
    · rw [List.mem_singleton.mp hx]
      exact wrote_given hw
  line_counted := by
    intro x hx j hj hf
    rcases List.mem_append.mp hx with hx | hx
    · exact h.line_counted x hx j hj hf
    · rw [List.mem_singleton.mp hx] at hf
      exact absurd hj (Nat.not_lt.mpr hf)
  line_permitted := by
    intro q hq x hx
    rcases List.mem_append.mp hx with hx | hx
    · exact h.line_permitted q hq x hx
    · rw [List.mem_singleton.mp hx]
      exact Or.inl (h.post_lt hq)
  posts_written := h.give.posts_written
  posts_bounded := h.posts_bounded
  posts_ordered := h.posts_ordered

theorem Consistent.join {payload : Payload} (h : Consistent write capacity l line)
    (hw : write rules batch = .ok payload) :
    Consistent write capacity (l.give rules batch)
      (line ++ [(l.consignments.length, ⟨payload, 0⟩)]) where
  toPosted := h.toPosted.join hw
  balance := by
    rw [range_give]
    refine List.perm_iff_count.mpr fun n => ?_
    have hb := List.perm_iff_count.mp h.balance n
    simp only [delivered, lost, give, List.map_append, List.map_cons, List.map_nil,
      List.count_append] at hb ⊢
    omega
  losses_justified := fun y hy => (h.losses_justified y hy).give

theorem Consistent.join_unwritable {text : String} (h : Consistent write capacity l line)
    (hw : write rules batch = .error text) :
    Consistent write capacity ((l.give rules batch).lose l.consignments.length .unwritable)
      line where
  toPosted := h.toPosted.give.lose _ _
  balance := by
    change (List.range (l.give rules batch).consignments.length).Perm _
    rw [range_give]
    refine List.perm_iff_count.mpr fun n => ?_
    have hb := List.perm_iff_count.mp h.balance n
    simp only [delivered, lost, lose, give, List.map_append, List.map_cons, List.map_nil,
      List.count_append] at hb ⊢
    omega
  losses_justified := by
    refine justified_lose (fun y hy => (h.losses_justified y hy).give) ?_
    exact ⟨⟨rules, batch⟩, text, by simp [give], hw⟩

/-- A post of this batch that may be made now. -/
structure PostOf (l : Logbook) (q : Post) (x : Nat × Parcel) : Prop where
  number : q.number = x.1
  payload : q.payload = x.2.payload
  retry : q.retry = 0 ∨ q.retry = x.2.failures + 1
  permitted : ∀ p ∈ l.posts, p.Permits q.number q.retry

theorem Posted.head_lt (h : l.Posted write (x :: rest)) {y : Nat × Parcel} (hy : y ∈ rest) :
    x.1 < y.1 :=
  (List.pairwise_cons.mp h.increasing).1 y hy

theorem Posted.tail (h : l.Posted write (x :: rest)) : l.Posted write rest where
  increasing := (List.pairwise_cons.mp h.increasing).2
  patient := fun y hy => h.patient y (List.mem_cons_of_mem _ hy)
  line_written := fun y hy => h.line_written y (List.mem_cons_of_mem _ hy)
  line_counted := fun y hy => h.line_counted y (List.mem_cons_of_mem _ hy)
  line_permitted := fun p hp y hy => h.line_permitted p hp y (List.mem_cons_of_mem _ hy)
  posts_written := h.posts_written
  posts_bounded := h.posts_bounded
  posts_ordered := h.posts_ordered

theorem Posted.record (h : l.Posted write (x :: rest)) (hq : l.PostOf q x) :
    (l.record q).Posted write rest where
  increasing := h.tail.increasing
  patient := h.tail.patient
  line_written := h.tail.line_written
  line_counted := by
    intro y hy j hj hf
    obtain ⟨p, hp, hn⟩ := h.tail.line_counted y hy j hj hf
    exact ⟨p, List.mem_append_left _ hp, hn⟩
  line_permitted := by
    intro p hp y hy
    rcases List.mem_append.mp hp with hp | hp
    · exact h.tail.line_permitted p hp y hy
    · rw [List.mem_singleton.mp hp]
      exact Or.inl (hq.number ▸ h.head_lt hy)
  posts_written := by
    intro p hp
    rcases List.mem_append.mp hp with hp | hp
    · exact h.posts_written p hp
    · rw [List.mem_singleton.mp hp, hq.number, hq.payload]
      exact h.line_written x (List.mem_cons_self ..)
  posts_bounded := by
    intro p hp
    rcases List.mem_append.mp hp with hp | hp
    · exact h.posts_bounded p hp
    · rw [List.mem_singleton.mp hp]
      have hm := h.patient x (List.mem_cons_self ..)
      rcases hq.retry with hr | hr <;> omega
  posts_ordered := by
    refine List.pairwise_append.mpr ⟨h.posts_ordered, by simp, ?_⟩
    intro p hp p' hp'
    rw [List.mem_singleton.mp hp']
    exact hq.permitted p hp

/-- The head stays after a failure that may be repeated, with one more failed replay if it was
one. -/
theorem Posted.keep (h : l.Posted write (x :: rest)) (hq : l.PostOf q x)
    (hr : q.isRetryable = true) (hm : q.retry < Backlog.maxFailures) :
    (l.record q).Posted write ((x.1, { x.2 with failures := q.retry }) :: rest) where
  increasing := List.pairwise_cons.mpr (List.pairwise_cons.mp h.increasing)
  patient := by
    intro y hy
    rcases List.mem_cons.mp hy with rfl | hy
    · exact hm
    · exact (h.record hq).patient y hy
  line_written := by
    intro y hy
    rcases List.mem_cons.mp hy with rfl | hy
    · exact h.line_written x (List.mem_cons_self ..)
    · exact (h.record hq).line_written y hy
  line_counted := by
    intro y hy j hj hf
    rcases List.mem_cons.mp hy with rfl | hy
    · change j ≤ q.retry at hf
      rcases Nat.lt_or_eq_of_le hf with hlt | rfl
      · have hold : j ≤ x.2.failures := by rcases hq.retry with hr | hr <;> omega
        obtain ⟨p, hp, hn⟩ := h.line_counted x (List.mem_cons_self ..) j hj hold
        exact ⟨p, List.mem_append_left _ hp, hn⟩
      · exact ⟨q, mem_record l q, hq.number, rfl⟩
    · exact (h.record hq).line_counted y hy j hj hf
  line_permitted := by
    intro p hp y hy
    rcases List.mem_cons.mp hy with rfl | hy
    · rcases List.mem_append.mp hp with hp | hp
      · have hold := hq.permitted p hp
        rw [hq.number] at hold
        exact hold.imp_right fun ⟨hn, hf, hlt⟩ => ⟨hn, hf, Nat.lt_succ_of_lt hlt⟩
      · rw [List.mem_singleton.mp hp]
        exact Or.inr ⟨hq.number, hr, Nat.lt_succ_self _⟩
    · exact (h.record hq).line_permitted p hp y hy
  posts_written := (h.record hq).posts_written
  posts_bounded := (h.record hq).posts_bounded
  posts_ordered := (h.record hq).posts_ordered

theorem delivered_record_of_failed (l : Logbook) (hd : q.isDelivered = false) :
    (l.record q).delivered = l.delivered := by
  simp [delivered, record, List.filter_append, hd]

theorem Consistent.deliver (h : Consistent write capacity l (x :: rest)) (hq : l.PostOf q x)
    (hd : q.isDelivered = true) : Consistent write capacity (l.record q) rest where
  toPosted := h.toPosted.record hq
  balance := by
    refine List.perm_iff_count.mpr fun n => (List.perm_iff_count.mp h.balance n).trans ?_
    simp only [delivered, lost, record, List.filter_append, List.filter_cons_of_pos hd,
      List.filter_nil, List.map_append, List.map_cons, List.map_nil, List.count_append,
      List.count_cons, List.count_nil, hq.number]
    omega
  losses_justified := fun y hy => (h.losses_justified y hy).record q

theorem Consistent.keep (h : Consistent write capacity l (x :: rest)) (hq : l.PostOf q x)
    (hr : q.isRetryable = true) (hm : q.retry < Backlog.maxFailures) :
    Consistent write capacity (l.record q)
      ((x.1, { x.2 with failures := q.retry }) :: rest) where
  toPosted := h.toPosted.keep hq hr hm
  balance := by
    have hd : q.isDelivered = false := by
      cases hres : q.result <;> simp_all [Post.isRetryable, Post.isDelivered]
    rw [delivered_record_of_failed l hd]
    exact h.balance
  losses_justified := fun y hy => (h.losses_justified y hy).record q

theorem balance_lose {l l' : Logbook} {why : Loss}
    (h : (List.range l.consignments.length).Perm
      (l.delivered ++ (x :: rest).map Prod.fst ++ l.lost))
    (hc : l'.consignments = l.consignments) (hd : l'.delivered = l.delivered)
    (hl : l'.lost = l.lost) :
    (List.range (l'.lose x.1 why).consignments.length).Perm
      ((l'.lose x.1 why).delivered ++ rest.map Prod.fst ++ (l'.lose x.1 why).lost) := by
  have hd' : (l'.lose x.1 why).delivered = l.delivered := hd
  have hl' : (l'.lose x.1 why).lost = l.lost ++ [x.1] := by
    rw [← hl]
    simp [lost, lose]
  have hc' : (l'.lose x.1 why).consignments = l.consignments := hc
  rw [hd', hl', hc']
  refine h.trans (List.perm_iff_count.mpr fun n => ?_)
  simp only [List.map_cons, List.count_append, List.count_cons, List.count_nil]
  omega

theorem Consistent.give_up {why : Loss} (h : Consistent write capacity l (x :: rest))
    (hq : l.PostOf q x) (hd : q.isDelivered = false)
    (hj : (l.record q).Justifies write capacity (x.1, why)) :
    Consistent write capacity ((l.record q).lose x.1 why) rest where
  toPosted := (h.toPosted.record hq).lose _ _
  balance := balance_lose h.balance rfl (delivered_record_of_failed l hd) rfl
  losses_justified := justified_lose (fun y hy => (h.losses_justified y hy).record q) hj

theorem Consistent.crowd_out {waiting : List Nat} (h : Consistent write capacity l (x :: rest))
    (hw : waiting.head? = some x.1) (hc : waiting.length = capacity) :
    Consistent write capacity (l.lose x.1 (.crowdedOut waiting)) rest where
  toPosted := h.toPosted.tail.lose _ _
  balance := balance_lose h.balance rfl rfl rfl
  losses_justified := justified_lose h.losses_justified ⟨hw, hc⟩

/-- The third failed replay comes after the first and the second. -/
theorem Posted.justifies_exhausted {d : Dispatch} {cause : Failure}
    (h : l.Posted write (x :: rest)) (hn : d.number = x.1)
    (hd : d.retry = x.2.failures + 1) (hm : Backlog.maxFailures ≤ d.retry)
    (hr : cause.isRetryable = true) :
    (l.record ⟨d, .error cause⟩).Justifies write capacity (x.1, .exhausted) := by
  intro j hj hle
  rcases Nat.lt_or_eq_of_le (Nat.le_trans hle hm) with hlt | heq
  · obtain ⟨p, hp, hpn, hpr⟩ := h.line_counted x (List.mem_cons_self ..) j hj (by omega)
    refine ⟨p, List.mem_append_left _ hp, hpn, hpr, ?_⟩
    rcases h.line_permitted p hp x (List.mem_cons_self ..) with hlt | ⟨_, hf, _⟩
    · omega
    · exact hf
  · exact ⟨_, mem_record l _, hn, heq.symm, hr⟩

end Logbook
end LogDelivery
