import LogDelivery.Proofs.Flushing

/-!
# Latecomers

A flush counts the events that wait when it begins and takes out as many. An event that arrives when
the outbox is full costs the oldest one that still waits, and then the flush makes up the number with
latecomers.
-/
namespace LogDelivery.FlushRun

open Outbox (maxBatch)

variable {s : FlushRun}

def sent (s : FlushRun) : List Batch := s.flush.1.batches.drop s.batches.length

def arrived (s : FlushRun) (k : Nat) : Nat := ((s.script.take k).flatMap (·.arriving)).length

/-- The numbers of the events of a batch. Events are numbered as they come; those that wait when the
flush begins come first. -/
def lot (s : FlushRun) (k : Nat) : List Nat := List.range' (s.gone k) (s.lotSize k)

theorem length_come (s : FlushRun) (k : Nat) :
    (s.come k).length = s.outbox.pending + s.arrived k := by
  rw [come, List.length_append]
  rfl

theorem events_batch (s : FlushRun) (k : Nat) :
    (s.batch k).events.map some = (s.lot k).map fun number => (s.come k)[number]? := by
  have hleft := s.gone_le k
  refine List.ext_getElem? fun i => ?_
  rw [batch, lot, List.getElem?_map, List.getElem?_map, List.getElem?_take, List.getElem?_drop]
  by_cases hi : i < s.lotSize k
  · have hlt : s.gone k + i < (s.come k).length := by
      unfold lotSize at hi
      omega
    simp [hi, List.getElem?_eq_getElem hlt]
  · simp [hi]

/-- How far the front of the outbox has moved: the batches before have been taken out, and since each
delivery the events have had to fit. -/
theorem gone_add_le_iff {k d bound : Nat} : s.gone k + d ≤ bound ↔ s.handed k + d ≤ bound ∧
    ∀ i, 0 < i → i ≤ k →
      (s.come i).length - s.outbox.events.capacity + (s.handed k - s.handed i) + d ≤ bound := by
  induction k generalizing d with
  | zero =>
    have hnone : s.handed 0 = 0 := by simp [handed]
    rw [gone, hnone]
    exact ⟨fun h => ⟨h, fun i hpos hi => by omega⟩, And.left⟩
  | succ k ih =>
    have hstep : s.gone (k + 1) + d ≤ bound ↔ s.gone k + (s.lotSize k + d) ≤ bound ∧
        (s.come (k + 1)).length - s.outbox.events.capacity + d ≤ bound := by
      rw [gone]
      omega
    rw [hstep, ih, handed_succ]
    constructor
    · rintro ⟨⟨hhanded, hbefore⟩, hlast⟩
      refine ⟨by omega, fun i hpos hi => ?_⟩
      rcases Nat.lt_or_eq_of_le hi with hi | rfl
      · have hi' := hbefore i hpos (Nat.le_of_lt_succ hi)
        have hle := s.handed_mono (Nat.le_of_lt_succ hi)
        omega
      · rw [handed_succ]
        omega
    · rintro ⟨hhanded, hall⟩
      refine ⟨⟨by omega, fun i hpos hi => ?_⟩, ?_⟩
      · have hi' := hall i hpos (by omega)
        have hle := s.handed_mono hi
        omega
      · have hlast := hall (k + 1) (by omega) (by omega)
        omega

theorem exists_sent (s : FlushRun) : ∃ n ≤ s.lots,
    s.sent = (List.range n).map s.batch ∧
    s.flush.1.outbox.events.evicted + s.handed n = s.outbox.events.evicted + s.gone n := by
  by_cases h : s.outbox.events.items = []
  · refine ⟨0, Nat.zero_le _, ?_⟩
    simp [sent, flush_of_isEmpty h, handed, gone]
  · obtain ⟨n, hsent, hend⟩ := flush_ends h
    refine ⟨n, ?_, ?_, hsent.evicted⟩
    · cases hr : s.flush.2 with
      | ok total =>
        rw [hr] at hend
        exact Nat.le_of_eq hend.2.1
      | error cause =>
        rw [hr] at hend
        obtain ⟨last, rfl, hlast, -⟩ := hend
        exact hlast
    · rw [sent, hsent.batches, List.drop_left]

theorem length_batches (s : FlushRun) (n : Nat) :
    (((List.range n).map s.batch).flatMap (·.events)).length = s.handed n := by
  induction n with
  | zero => simp [handed]
  | succ n ih =>
    have hsize : (s.batch n).events.length = s.lotSize n := s.size_batch n
    rw [List.range_succ, List.map_append, List.flatMap_append, List.length_append, ih, handed_succ]
    simp [hsize]

theorem lot_waiting_iff {k : Nat} (hk : k < s.lots) :
    (∀ number ∈ s.lot k, number < s.outbox.pending) ↔
      s.gone k + s.lotSize k ≤ s.outbox.pending := by
  have hsome : 0 < s.lotSize k := by
    have hpos := lt_lots_iff.mp hk
    unfold lotSize maxBatch at *
    omega
  simp only [lot, List.mem_range'_1]
  constructor
  · intro h
    have hlast := h (s.gone k + s.lotSize k - 1) (by omega)
    omega
  · intro h number hnumber
    omega

theorem lots_waiting_iff {n : Nat} (hn : n ≤ s.lots) :
    (∀ k < n, ∀ number ∈ s.lot k, number < s.outbox.pending) ↔
      ∀ k, 0 < k → k < n →
        s.handed n + s.arrived k ≤ s.outbox.events.capacity + maxBatch * k := by
  have hfull : ∀ k < n, s.handed k = maxBatch * k := fun k hk =>
    handed_of_lt_lots (Nat.lt_of_lt_of_le hk hn)
  have hall : s.handed n ≤ s.outbox.pending := Nat.min_le_left ..
  constructor
  · intro h k hpos hk
    obtain ⟨last, rfl⟩ : ∃ last, n = last + 1 := ⟨n - 1, by omega⟩
    have hlast := (lot_waiting_iff (by omega)).mp (h last (by omega))
    have hfits := (gone_add_le_iff.mp hlast).2 k hpos (by omega)
    rw [length_come, hfull k hk] at hfits
    rw [handed_succ] at hall ⊢
    omega
  · intro h k hk
    have hle := s.handed_mono (Nat.succ_le_of_lt hk)
    rw [handed_succ, hfull k hk] at hle
    refine (lot_waiting_iff (by omega)).mpr (gone_add_le_iff.mpr ⟨?_, fun i hpos hi => ?_⟩)
    · rw [hfull k hk]
      omega
    · have hfits := h i hpos (by omega)
      have hmul := Nat.mul_le_mul_left maxBatch hi
      rw [length_come, hfull i (by omega), hfull k hk]
      omega

/-- Which events a flush hands over: they leave the outbox at its front, where others have been evicted
in the meantime. So all of them waited when the flush began exactly if, after each delivery but the
last, the events that the flush still hands over and those that have arrived so far fit into the
outbox together. -/
theorem hands_over_waiting_iff (s : FlushRun) :
    let n := s.sent.length
    let total := (s.sent.flatMap (·.events)).length
    (∀ k batch, s.sent[k]? = some batch →
      batch.events.map some = (s.lot k).map fun number => (s.come k)[number]?) ∧
    s.outbox.events.evicted + s.gone n = s.flush.1.outbox.events.evicted + total ∧
    ((∀ k < n, ∀ number ∈ s.lot k, number < s.outbox.pending) ↔
      ∀ k, 0 < k → k < n → total + s.arrived k ≤ s.outbox.events.capacity + maxBatch * k) := by
  obtain ⟨n, hn, hsent, hgone⟩ := s.exists_sent
  rw [hsent, length_batches, List.length_map, List.length_range]
  refine ⟨fun k batch hk => ?_, hgone.symm, lots_waiting_iff hn⟩
  rw [List.getElem?_map] at hk
  obtain ⟨i, hi, rfl⟩ := Option.map_eq_some_iff.mp hk
  obtain ⟨_, rfl⟩ := List.getElem?_eq_some_iff.mp hi
  rw [List.getElem_range]
  exact s.events_batch k

def crowded (waiting late : Event) : FlushRun :=
  ({ outbox := .withCapacity 101 ⟨"app", "test", "host", "logger", "linux", none⟩
     identity := .nobody
     script := [⟨List.replicate 101 late, .ok ()⟩] } : FlushRun).append (List.replicate 101 waiting)

/-- The last one that waits is evicted, and the first that has arrived goes out in its place. -/
theorem hands_over_latecomer :
    let waiting := Event.ofMessage .info "waiting" 0
    let late := Event.ofMessage .info "late" 0
    (crowded waiting late).sent.map (·.events) = [List.replicate 100 waiting, [late]] ∧
    ¬ ∀ s : FlushRun, ∀ batch ∈ s.sent, ∀ e ∈ batch.events, e ∈ s.outbox.events.items := by
  intro waiting late
  have hsent : (crowded waiting late).sent.map (·.events) =
      [List.replicate 100 waiting, [late]] := by decide +kernel
  refine ⟨hsent, fun h => ?_⟩
  have hlast : [late] ∈ (crowded waiting late).sent.map (·.events) := by simp [hsent]
  obtain ⟨batch, hbatch, hevents⟩ := List.mem_map.mp hlast
  have hmem := h _ batch hbatch late (by simp [hevents])
  exact absurd hmem (by decide +kernel)

end LogDelivery.FlushRun
