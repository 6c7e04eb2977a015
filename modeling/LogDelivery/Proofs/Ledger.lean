import LogDelivery.Proofs.Buffer
import Mathlib.Data.List.Sort

/-!
# The ledger of a buffer

What becomes of the items of a buffer, whatever is done with it. A ledger lists what has been
offered, what has been taken out and what has been evicted; the buffer never reads it.
-/
namespace LogDelivery

universe u
variable {α : Type u}

/-- What is done with a buffer. An item can be put back if it was taken out alone, and nothing has
been taken out since. -/
inductive Buffer.Use (α : Type u) where
  | offer (a : α)
  | takeFront (n : Nat)
  | popFront
  | putBack

def Buffer.Use.offered? : Buffer.Use α → Option α
  | .offer a => some a
  | _ => none

structure Ledger (α : Type u) where
  buffer : Buffer α
  offered : List α := []
  taken : List α := []
  evicted : List α := []
  inHand : Option α := none

namespace Ledger

def start (capacity : Nat) : Ledger α := { buffer := .withCapacity capacity }

def out (l : Ledger α) : List α := l.inHand.toList ++ l.taken

def offer (l : Ledger α) (a : α) : Ledger α :=
  { l with
    buffer := (l.buffer.offer a).1
    offered := l.offered ++ [a]
    evicted := if l.buffer.isFull then l.evicted ++ l.buffer.items.take 1 else l.evicted }

def takeFront (l : Ledger α) (n : Nat) : Ledger α :=
  let (items, buffer) := l.buffer.takeFront n
  if items.isEmpty then l else { l with buffer, taken := l.out ++ items, inHand := none }

def popFront (l : Ledger α) : Ledger α :=
  match l.buffer.popFront? with
  | some (a, buffer) => { l with buffer, taken := l.out, inHand := some a }
  | none => l

def putBack (l : Ledger α) : Ledger α :=
  match l.inHand with
  | some a =>
    { l with
      buffer := (l.buffer.putBack a).1
      inHand := none
      evicted := if l.buffer.isFull then l.evicted ++ [a] else l.evicted }
  | none => l

def next (l : Ledger α) : Buffer.Use α → Ledger α
  | .offer a => l.offer a
  | .takeFront n => l.takeFront n
  | .popFront => l.popFront
  | .putBack => l.putBack

def run (l : Ledger α) (uses : List (Buffer.Use α)) : Ledger α := uses.foldl next l

/-- Whether a use answers that it costs an item. -/
def reports (l : Ledger α) : Buffer.Use α → Bool
  | .offer a => (l.buffer.offer a).2
  | .putBack => l.inHand.any fun a => !(l.buffer.putBack a).2
  | _ => false

/-- Each item has one whereabouts, and what is in the buffer is in the order of the numbers, with
the item in hand as the oldest. -/
structure Sound (number : α → Nat) (l : Ledger α) : Prop where
  balance : (l.buffer.items ++ l.out ++ l.evicted).Perm l.offered
  ordered : ((l.inHand.toList ++ l.buffer.items).map number).Pairwise (· < ·)
  evictions : l.buffer.evicted = l.evicted.length

variable {number : α → Nat} {l : Ledger α}

theorem start_sound (capacity : Nat) : (start capacity).Sound number :=
  ⟨.nil, .nil, rfl⟩

theorem Sound.mem_offered (h : l.Sound number) {a : α} (ha : a ∈ l.buffer.items) :
    a ∈ l.offered := by
  refine h.balance.mem_iff.mp ?_
  exact List.mem_append_left _ (List.mem_append_left _ ha)

theorem Sound.in_order (h : l.Sound number) : (l.buffer.items.map number).Pairwise (· < ·) :=
  h.ordered.sublist ((List.sublist_append_right _ _).map number)

theorem offered_next (l : Ledger α) (use : Buffer.Use α) :
    (l.next use).offered = l.offered ++ use.offered?.toList := by
  cases use with
  | offer a => rfl
  | takeFront n =>
    simp only [next, takeFront]
    split <;> simp [Buffer.Use.offered?]
  | popFront =>
    simp only [next, popFront]
    split <;> simp [Buffer.Use.offered?]
  | putBack =>
    simp only [next, putBack]
    split <;> simp [Buffer.Use.offered?]

theorem capacity_next (l : Ledger α) (use : Buffer.Use α) :
    (l.next use).buffer.capacity = l.buffer.capacity := by
  cases use with
  | offer a => exact Buffer.capacity_offer ..
  | takeFront n =>
    simp only [next, takeFront]
    split <;> rfl
  | popFront =>
    simp only [next, popFront]
    split
    · next hp => exact (Buffer.popFront?_eq_some hp).2
    · rfl
  | putBack =>
    simp only [next, putBack]
    split
    · exact Buffer.capacity_putBack ..
    · rfl

theorem offer_of_full (h : l.buffer.isFull = true) (a : α) :
    ∃ oldest rest, l.buffer.items = oldest :: rest ∧
      (l.offer a).buffer.items = rest ++ [a] ∧ (l.offer a).evicted = l.evicted ++ [oldest] := by
  obtain ⟨oldest, rest, hi⟩ := List.exists_cons_of_ne_nil (Buffer.ne_nil_of_isFull h)
  refine ⟨oldest, rest, hi, ?_, ?_⟩
  · rw [offer, Buffer.items_offer_of_full h, hi, List.tail_cons]
  · simp [offer, h, hi]

theorem offer_sound (h : l.Sound number) {a : α} (ha : ∀ b ∈ l.offered, number b < number a) :
    (l.offer a).Sound number := by
  have hold : ∀ b ∈ l.inHand.toList ++ l.buffer.items, number b < number a := by
    intro b hb
    refine ha b (h.balance.mem_iff.mp ?_)
    rcases List.mem_append.mp hb with hb | hb
    · exact List.mem_append_left _ (List.mem_append_right _ (List.mem_append_left _ hb))
    · exact List.mem_append_left _ (List.mem_append_left _ hb)
  have hordered : ((l.inHand.toList ++ l.buffer.items ++ [a]).map number).Pairwise (· < ·) := by
    rw [List.map_append]
    refine List.pairwise_append.mpr ⟨h.ordered, List.pairwise_singleton .., ?_⟩
    intro m hm k hk
    obtain ⟨b, hb, rfl⟩ := List.mem_map.mp hm
    obtain rfl := List.mem_singleton.mp hk
    exact hold b hb
  classical
  cases hf : l.buffer.isFull with
  | false =>
    have hi : (l.offer a).buffer.items = l.buffer.items ++ [a] := Buffer.items_offer_of_room hf a
    have he : (l.offer a).evicted = l.evicted := by simp [offer, hf]
    refine ⟨List.perm_iff_count.mpr fun x => ?_, ?_, ?_⟩
    · have hb := List.perm_iff_count.mp h.balance x
      rw [hi, he]
      simp only [offer, out, List.count_append] at hb ⊢
      omega
    · rw [hi, ← List.append_assoc]
      exact hordered
    · rw [he, offer, Buffer.evicted_offer, hf, h.evictions]
      rfl
  | true =>
    obtain ⟨oldest, rest, hcons, hi, he⟩ := offer_of_full hf a
    refine ⟨List.perm_iff_count.mpr fun x => ?_, ?_, ?_⟩
    · have hb := List.perm_iff_count.mp h.balance x
      rw [hcons] at hb
      rw [hi, he]
      simp only [offer, out, List.count_append, List.count_cons, List.count_nil] at hb ⊢
      omega
    · rw [hcons, List.append_assoc, List.cons_append] at hordered
      rw [hi]
      exact hordered.sublist (((List.sublist_cons_self ..).append_left _).map number)
    · rw [he, offer, Buffer.evicted_offer, hf, h.evictions]
      simp

theorem takeFront_sound (h : l.Sound number) (n : Nat) : (l.takeFront n).Sound number := by
  classical
  by_cases he : (l.buffer.items.take n).isEmpty
  · have hsame : l.takeFront n = l := by simp [takeFront, Buffer.takeFront, he]
    rw [hsame]
    exact h
  · have htaken : l.takeFront n = { l with
        buffer := (l.buffer.takeFront n).2
        taken := l.out ++ l.buffer.items.take n
        inHand := none } := by
      simp [takeFront, Buffer.takeFront, he]
    have hitems : (l.buffer.takeFront n).2.items = l.buffer.items.drop n := rfl
    rw [htaken]
    refine ⟨List.perm_iff_count.mpr fun x => ?_, ?_, h.evictions⟩
    · have hb := List.perm_iff_count.mp h.balance x
      have hsplit := congrArg (List.count x) (List.take_append_drop n l.buffer.items)
      simp only [hitems, out, Option.toList_none, List.count_append, List.count_nil] at hb hsplit ⊢
      omega
    · exact h.in_order.sublist ((List.drop_sublist n _).map number)

theorem popFront_sound (h : l.Sound number) : l.popFront.Sound number := by
  cases hp : l.buffer.popFront? with
  | none =>
    have hsame : l.popFront = l := by simp [popFront, hp]
    rw [hsame]
    exact h
  | some x =>
    classical
    obtain ⟨a, rest⟩ := x
    obtain ⟨hi, -⟩ := Buffer.popFront?_eq_some hp
    have htaken : l.popFront = { l with buffer := rest, taken := l.out, inHand := some a } := by
      simp [popFront, hp]
    rw [htaken]
    refine ⟨List.perm_iff_count.mpr fun x => ?_, ?_, ?_⟩
    · have hb := List.perm_iff_count.mp h.balance x
      rw [hi] at hb
      simp only [out, Option.toList_some, List.count_append, List.count_cons, List.count_nil]
        at hb ⊢
      omega
    · have ho := h.in_order
      rw [hi] at ho
      exact ho
    · exact (Buffer.evicted_of_popFront? hp).trans h.evictions

theorem putBack_sound (h : l.Sound number) : l.putBack.Sound number := by
  cases hh : l.inHand with
  | none =>
    have hsame : l.putBack = l := by simp [putBack, hh]
    rw [hsame]
    exact h
  | some a =>
    classical
    have ho := h.ordered
    rw [hh] at ho
    cases hf : l.buffer.isFull with
    | false =>
      have hback : l.putBack = { l with buffer := (l.buffer.putBack a).1, inHand := none } := by
        simp [putBack, hh, hf]
      have hi := Buffer.items_putBack_of_room hf a
      rw [hback]
      refine ⟨List.perm_iff_count.mpr fun x => ?_, ?_, ?_⟩
      · have hb := List.perm_iff_count.mp h.balance x
        simp only [hi, out, hh, Option.toList_some, Option.toList_none, List.count_append,
          List.count_cons, List.count_nil] at hb ⊢
        omega
      · simpa [hi] using ho
      · simp [Buffer.evicted_putBack, hf, h.evictions]
    | true =>
      have hback : l.putBack = { l with
          buffer := (l.buffer.putBack a).1
          inHand := none
          evicted := l.evicted ++ [a] } := by
        simp [putBack, hh, hf]
      have hi := Buffer.items_putBack_of_full hf a
      rw [hback]
      refine ⟨List.perm_iff_count.mpr fun x => ?_, ?_, ?_⟩
      · have hb := List.perm_iff_count.mp h.balance x
        simp only [hi, out, hh, Option.toList_some, Option.toList_none, List.count_append,
          List.count_cons, List.count_nil] at hb ⊢
        omega
      · simpa [hi] using h.in_order
      · simp [Buffer.evicted_putBack, hf, h.evictions]

theorem next_sound (h : l.Sound number) {use : Buffer.Use α}
    (hnew : ∀ a, use.offered? = some a → ∀ b ∈ l.offered, number b < number a) :
    (l.next use).Sound number := by
  cases use with
  | offer a => exact offer_sound h (hnew a rfl)
  | takeFront n => exact takeFront_sound h n
  | popFront => exact popFront_sound h
  | putBack => exact putBack_sound h

/-- What a use costs: as many items as it reports, and only of a full buffer; what is lost is older
than all that stays. -/
structure Costs (number : α → Nat) (l : Ledger α) (use : Buffer.Use α) (lost : List α) : Prop where
  evicted : (l.next use).evicted = l.evicted ++ lost
  reported : lost.length = if l.reports use then 1 else 0
  full : lost ≠ [] → l.buffer.isFull
  oldest : ∀ a ∈ lost, ∀ b ∈ (l.next use).buffer.items, number a < number b

theorem next_costs (h : l.Sound number) {use : Buffer.Use α}
    (hnew : ∀ a, use.offered? = some a → ∀ b ∈ l.offered, number b < number a) :
    ∃ lost, Costs number l use lost := by
  have hnext := next_sound h hnew
  cases use with
  | offer a =>
    cases hf : l.buffer.isFull with
    | false => exact ⟨[], by simp [next, offer, hf], by simp [reports, hf], by simp, by simp⟩
    | true =>
      obtain ⟨oldest, rest, hcons, hi, he⟩ := offer_of_full hf a
      refine ⟨[oldest], he, by simp [reports, hf], fun _ => hf, ?_⟩
      intro b hb c hc
      obtain rfl := List.mem_singleton.mp hb
      have hmem : b ∈ l.buffer.items := hcons ▸ List.mem_cons_self ..
      rcases List.mem_append.mp (hi ▸ hc : c ∈ rest ++ [a]) with hc | hc
      · have ho := h.in_order
        rw [hcons, List.map_cons] at ho
        exact (List.pairwise_cons.mp ho).1 _ (List.mem_map_of_mem hc)
      · obtain rfl := List.mem_singleton.mp hc
        exact hnew c rfl b (h.mem_offered hmem)
  | takeFront n =>
    refine ⟨[], ?_, rfl, by simp, by simp⟩
    simp only [next, takeFront, List.append_nil]
    split <;> rfl
  | popFront =>
    refine ⟨[], ?_, rfl, by simp, by simp⟩
    simp only [next, popFront, List.append_nil]
    split <;> rfl
  | putBack =>
    cases hh : l.inHand with
    | none => exact ⟨[], by simp [next, putBack, hh], by simp [reports, hh], by simp, by simp⟩
    | some a =>
      cases hf : l.buffer.isFull with
      | false =>
        exact ⟨[], by simp [next, putBack, hh, hf], by simp [reports, hf], by simp, by simp⟩
      | true =>
        refine ⟨[a], by simp [next, putBack, hh, hf], by simp [reports, hh, hf], fun _ => hf, ?_⟩
        intro b hb c hc
        obtain rfl := List.mem_singleton.mp hb
        have hi : (l.next .putBack).buffer.items = l.buffer.items := by
          simp [next, putBack, hh, Buffer.items_putBack_of_full hf]
        have ho := h.ordered
        rw [hh, Option.toList_some, List.singleton_append, List.map_cons] at ho
        exact (List.pairwise_cons.mp ho).1 _ (List.mem_map_of_mem (hi ▸ hc))

theorem offered_run (l : Ledger α) (uses : List (Buffer.Use α)) :
    (l.run uses).offered = l.offered ++ uses.filterMap Buffer.Use.offered? := by
  induction uses generalizing l with
  | nil => simp [run]
  | cons use uses ih =>
    refine (ih (l.next use)).trans ?_
    rw [offered_next]
    cases ho : use.offered? <;> simp [ho]

theorem capacity_run (l : Ledger α) (uses : List (Buffer.Use α)) :
    (l.run uses).buffer.capacity = l.buffer.capacity := by
  induction uses generalizing l with
  | nil => rfl
  | cons use uses ih => exact (ih (l.next use)).trans (l.capacity_next use)

theorem newer_of_increasing {offered : List α} {use : Buffer.Use α} {uses : List (Buffer.Use α)}
    (h : ((offered ++ (use :: uses).filterMap Buffer.Use.offered?).map number).Pairwise (· < ·)) :
    ∀ a, use.offered? = some a → ∀ b ∈ offered, number b < number a := by
  intro a ha b hb
  rw [List.filterMap_cons_some ha, List.map_append] at h
  refine (List.pairwise_append.mp h).2.2 _ (List.mem_map_of_mem hb) _ ?_
  exact List.mem_map_of_mem (List.mem_cons_self ..)

theorem run_sound (h : l.Sound number) {uses : List (Buffer.Use α)}
    (hnew : ((l.offered ++ uses.filterMap Buffer.Use.offered?).map number).Pairwise (· < ·)) :
    (l.run uses).Sound number := by
  induction uses generalizing l with
  | nil => exact h
  | cons use uses ih =>
    refine ih (l := l.next use) (next_sound h (newer_of_increasing hnew)) ?_
    rw [offered_next, List.append_assoc]
    cases ho : use.offered? with
    | none => simpa [List.filterMap_cons, ho] using hnew
    | some a => simpa [List.filterMap_cons, ho] using hnew

theorem buffer_run_offers (l : Ledger α) (offers : List α) :
    (l.run (offers.map .offer)).buffer = l.buffer.offerAll offers := by
  induction offers generalizing l with
  | nil => rfl
  | cons a offers ih => exact ih (l.offer a)

theorem items_run_offers (capacity : Nat) (offers : List α) :
    ((start capacity).run (offers.map .offer)).buffer.items =
      offers.drop (offers.length - max capacity 1) := by
  have hcapacity : (start capacity : Ledger α).buffer.capacity = max capacity 1 :=
    capacity_run (start capacity) []
  rw [buffer_run_offers, Buffer.items_offerAll, hcapacity]
  simp [start]

/-- Whatever is done with a buffer, if what is offered is numbered in ascending order: it holds no
more than it may, in order; each item is in the buffer, out of it or evicted, and in one of these
only; what is evicted was reported, at a moment when the buffer was full, and was older than what
stayed. -/
theorem every_item_accounted (capacity : Nat) (number : α → Nat) (uses : List (Buffer.Use α))
    (hnew : ((uses.filterMap Buffer.Use.offered?).map number).Pairwise (· < ·)) :
    let l := (start capacity).run uses
    l.buffer.items.length ≤ max capacity 1 ∧
    (l.buffer.items.map number).Pairwise (· < ·) ∧
    l.offered = uses.filterMap Buffer.Use.offered? ∧ l.offered.Nodup ∧
    (l.buffer.items ++ l.out ++ l.evicted).Perm l.offered ∧
    l.buffer.evicted = l.evicted.length ∧
    (∀ before use after, uses = before ++ use :: after →
      ∃ lost, Costs number ((start capacity).run before) use lost) ∧
    ∀ offers : List α, ((start capacity).run (offers.map .offer)).buffer.items =
      offers.drop (offers.length - max capacity 1) := by
  intro l
  have h : l.Sound number := run_sound (start_sound capacity) hnew
  have hoffered : l.offered = uses.filterMap Buffer.Use.offered? := offered_run _ uses
  have hcapacity : l.buffer.capacity = max capacity 1 := capacity_run _ uses
  refine ⟨hcapacity ▸ l.buffer.length_le, h.in_order, hoffered, ?_, h.balance, h.evictions, ?_,
    items_run_offers capacity⟩
  · rw [hoffered]
    exact hnew.nodup.of_map number
  · rintro before use after rfl
    have hbefore : ((start capacity : Ledger α).run before).offered =
        before.filterMap Buffer.Use.offered? := offered_run _ before
    rw [List.filterMap_append] at hnew
    have hsound : ((start capacity).run before).Sound number := by
      refine run_sound (start_sound capacity) (hnew.sublist ?_)
      exact (List.sublist_append_left ..).map number
    rw [← hbefore] at hnew
    exact next_costs hsound (newer_of_increasing hnew)

/-- An item that goes back in front of a full buffer is lost. -/
theorem accounted_in_two_places :
    let uses : List (Buffer.Use Nat) :=
      [.offer 3, .offer 5, .popFront, .offer 6, .offer 8, .putBack, .takeFront 1]
    let l := (start 2).run uses
    ((uses.filterMap Buffer.Use.offered?).map id).Pairwise (· < ·) ∧
      (l.buffer.items ++ l.out ++ l.evicted).Perm [3, 5, 6, 8] ∧ l.evicted = [5, 3] := by
  have haccounted := every_item_accounted 2 id
    [.offer 3, .offer 5, .popFront, .offer 6, .offer 8, .putBack, .takeFront 1] (by decide)
  exact ⟨by decide, haccounted.2.2.2.2.1, by decide⟩

end Ledger
end LogDelivery
