import LogDelivery.Proofs.Buffer
import LogDelivery.Rehearsal.Delivery

/-!
# Flushes

A flush asks for the identity once and then takes out as many events as waited when it began, a
hundred at a time, until a delivery fails. Events may arrive during each delivery. They are counted as
they come, those that wait first; what leaves the outbox leaves it at its front, so a batch is known
by how many events have gone before it.
-/
namespace LogDelivery.FlushRun

open Outbox (maxBatch)

variable {s t : FlushRun} {k : Nat}

/-- The events that have come by the end of so many deliveries: those that waited, then those that
arrived. -/
def come (s : FlushRun) (k : Nat) : List Event :=
  s.outbox.events.items ++ (s.script.take k).flatMap (·.arriving)

def lotSize (s : FlushRun) (k : Nat) : Nat := min maxBatch (s.outbox.pending - maxBatch * k)

/-- The number of events that have left the outbox before a batch is taken out: those of the batches
before, and those for which there was no room any more. -/
def gone (s : FlushRun) : (k : Nat) → Nat
  | 0 => 0
  | k + 1 => max (s.gone k + s.lotSize k) ((s.come (k + 1)).length - s.outbox.events.capacity)

def lookup (s : FlushRun) : Option Identity × IdentitySource :=
  let (found, source, _) := s.identity.resolve s.outbox.context.appName 0
  (found, source)

/-- A batch, if the flush comes so far. -/
def batch (s : FlushRun) (k : Nat) : Batch where
  context := { s.outbox.context with identity := s.lookup.1 }
  events := ((s.come k).drop (s.gone k)).take (s.lotSize k)

def answer (s : FlushRun) (k : Nat) : Except Failure Unit := (s.script[k]?.getD {}).result

def lots (s : FlushRun) : Nat := (s.outbox.pending + maxBatch - 1) / maxBatch

def handed (s : FlushRun) (k : Nat) : Nat := min s.outbox.pending (maxBatch * k)

theorem handed_succ (s : FlushRun) (k : Nat) : s.handed (k + 1) = s.handed k + s.lotSize k := by
  unfold handed lotSize maxBatch
  omega

theorem handed_lots (s : FlushRun) : s.handed s.lots = s.outbox.pending := by
  unfold handed lots maxBatch
  omega

theorem lt_lots_iff : k < s.lots ↔ maxBatch * k < s.outbox.pending := by
  unfold lots maxBatch
  omega

theorem handed_of_lt_lots (h : k < s.lots) : s.handed k = maxBatch * k :=
  Nat.min_eq_right (Nat.le_of_lt (lt_lots_iff.mp h))

theorem handed_mono (s : FlushRun) {i k : Nat} (h : i ≤ k) : s.handed i ≤ s.handed k := by
  have hmul := Nat.mul_le_mul_left maxBatch h
  unfold handed
  omega

theorem come_succ (s : FlushRun) (k : Nat) :
    s.come (k + 1) = s.come k ++ (s.script[k]?.getD {}).arriving := by
  rw [come, come, List.take_add_one, List.flatMap_append, List.append_assoc]
  cases s.script[k]? <;> simp

/-- What waited when the flush began and has not been handed over is never more than what waits. -/
theorem gone_le (s : FlushRun) (k : Nat) :
    s.gone k + (s.outbox.pending - maxBatch * k) ≤ (s.come k).length := by
  have hroom : s.outbox.pending ≤ s.outbox.events.capacity := s.outbox.events.length_le
  have hwaiting : ∀ k, s.outbox.pending ≤ (s.come k).length := by
    intro k
    simp [come, Outbox.pending, Buffer.size]
  induction k with
  | zero => simpa [gone] using hwaiting 0
  | succ k ih =>
    have hmore : (s.come k).length ≤ (s.come (k + 1)).length := by simp [come_succ]
    have hall := hwaiting (k + 1)
    simp only [gone, lotSize, maxBatch] at ih ⊢
    omega

theorem size_batch (s : FlushRun) (k : Nat) : (s.batch k).size = s.lotSize k := by
  have hleft := s.gone_le k
  rw [Batch.size, batch, List.length_take, List.length_drop]
  unfold lotSize at hleft ⊢
  omega

theorem append_eq (s : FlushRun) (events : List Event) :
    ∃ notices, s.append events =
      { s with
        outbox := { s.outbox with events := s.outbox.events.offerAll events }
        notices } := by
  induction events generalizing s with
  | nil => exact ⟨s.notices, rfl⟩
  | cons e events ih => exact ih _

/-- The run while a batch of `n` events is on its way: what arrives takes its place behind the
others. -/
def handOver (s : FlushRun) (batch : Batch) (n : Nat) : FlushRun :=
  ({ s with
    outbox := { s.outbox with events := (s.outbox.events.takeFront n).2 }
    script := s.script.tail
    batches := s.batches ++ [batch] } : FlushRun).append (s.script.headD {}).arriving

/-- So many batches have been handed over, and their deliveries are over. -/
structure Sent (s : FlushRun) (k : Nat) (t : FlushRun) : Prop where
  items : t.outbox.events.items = (s.come k).drop (s.gone k)
  capacity : t.outbox.events.capacity = s.outbox.events.capacity
  evicted : t.outbox.events.evicted + s.handed k = s.outbox.events.evicted + s.gone k
  context : t.outbox.context = s.outbox.context
  identity : t.identity = s.lookup.2
  script : t.script = s.script.drop k
  batches : t.batches = s.batches ++ (List.range k).map s.batch

def goOn (s : FlushRun) (fuel : Nat) (identity : Option Identity) (sent total : Nat) :
    FlushRun × Except Failure Nat :=
  let (outbox, flush, notices) := s.outbox.nextBatch identity sent total
  run fuel { s with outbox, notices := s.notices ++ notices } flush

theorem Sent.congr (h : Sent s k t) {notices : List Notice} :
    Sent s k { t with notices } :=
  ⟨h.items, h.capacity, h.evicted, h.context, h.identity, h.script, h.batches⟩

theorem Sent.batch_eq (h : Sent s k t) : s.batch k =
    ⟨{ t.outbox.context with identity := s.lookup.1 }, t.outbox.events.items.take (s.lotSize k)⟩ := by
  rw [h.items, h.context]
  rfl

theorem Sent.nextBatch (h : Sent s k t) (hk : k < s.lots) :
    t.outbox.nextBatch s.lookup.1 (s.handed k) s.outbox.pending =
      ({ t.outbox with events := (t.outbox.events.takeFront (s.lotSize k)).2 },
        .sending (s.batch k) (s.handed k) s.outbox.pending, []) := by
  have hpos := lt_lots_iff.mp hk
  have hsize : min maxBatch (s.outbox.pending - s.handed k) = s.lotSize k := by
    unfold handed lotSize
    omega
  have htaken : (t.outbox.events.items.take (s.lotSize k)).isEmpty = false := by
    have hbatch := congrArg Batch.size h.batch_eq
    rw [size_batch, Batch.size] at hbatch
    rw [List.isEmpty_eq_false_iff, Ne, ← List.length_eq_zero_iff, ← hbatch, lotSize, maxBatch]
    unfold maxBatch at hpos
    omega
  simp only [Outbox.nextBatch, Buffer.takeFront, hsize, htaken, Bool.false_eq_true, if_false,
    h.batch_eq]

theorem Sent.handOver (h : Sent s k t) :
    Sent s (k + 1) (t.handOver (s.batch k) (s.lotSize k)) := by
  have hscript : t.script.headD {} = s.script[k]?.getD {} := by
    rw [h.script, List.headD_eq_head?_getD, List.head?_drop]
  obtain ⟨notices, heq⟩ := append_eq
    { t with
      outbox := { t.outbox with events := (t.outbox.events.takeFront (s.lotSize k)).2 }
      script := t.script.tail
      batches := t.batches ++ [s.batch k] } (t.script.headD {}).arriving
  rw [FlushRun.handOver, heq, hscript]
  have htaken : s.gone k + s.lotSize k ≤ (s.come k).length := by
    have hleft := s.gone_le k
    unfold lotSize
    omega
  have hrest : (t.outbox.events.takeFront (s.lotSize k)).2.items =
      (s.come k).drop (s.gone k + s.lotSize k) := by
    rw [← List.drop_drop, ← h.items]
    rfl
  have hcapacity : (t.outbox.events.takeFront (s.lotSize k)).2.capacity =
      s.outbox.events.capacity := h.capacity
  have hlength : (t.outbox.events.takeFront (s.lotSize k)).2.items.length +
      (s.script[k]?.getD {}).arriving.length =
      (s.come (k + 1)).length - (s.gone k + s.lotSize k) := by
    rw [hrest, ← List.length_append, ← List.drop_append_of_le_length htaken, ← come_succ,
      List.length_drop]
  have hgone : s.gone (k + 1) = s.gone k + s.lotSize k +
      ((s.come (k + 1)).length - (s.gone k + s.lotSize k) - s.outbox.events.capacity) := by
    have hmore : (s.come k).length ≤ (s.come (k + 1)).length := by simp [come_succ]
    rw [gone]
    omega
  constructor
  case items =>
    rw [Buffer.items_offerAll, hlength, hcapacity, hrest,
      ← List.drop_append_of_le_length htaken, ← come_succ, List.drop_drop, hgone]
  case evicted =>
    have hevicted : (t.outbox.events.takeFront (s.lotSize k)).2.evicted + s.handed k =
        s.outbox.events.evicted + s.gone k := h.evicted
    simp only [Buffer.evicted_offerAll, hlength, hcapacity, handed_succ, hgone]
    omega
  case capacity => exact (Buffer.capacity_offerAll ..).trans h.capacity
  case context => exact h.context
  case identity => exact h.identity
  case script => simp [h.script]
  case batches => simp [h.batches, List.range_succ]

theorem Sent.goOn (h : Sent s k t) (hk : k < s.lots) (fuel : Nat) :
    t.goOn (fuel + 1) s.lookup.1 (s.handed k) s.outbox.pending =
      let u := t.handOver (s.batch k) (s.lotSize k)
      match s.answer k with
      | .ok () => u.goOn fuel s.lookup.1 (s.handed (k + 1)) s.outbox.pending
      | .error cause => run fuel u (.ended (.error cause)) := by
  have hscript : (t.script.headD {}).result = s.answer k := by
    rw [h.script, List.headD_eq_head?_getD, List.head?_drop, answer]
  simp only [FlushRun.goOn, h.nextBatch hk, List.append_nil, run, hscript, handed_succ,
    ← size_batch]
  cases s.answer k with
  | ok => rfl
  | error cause => simp [Outbox.settled, FlushRun.handOver, size_batch]

theorem goOn_lots (s t : FlushRun) (fuel : Nat) :
    ∃ notices, t.goOn (fuel + 1) s.lookup.1 (s.handed s.lots) s.outbox.pending =
      ({ t with notices }, .ok s.outbox.pending) := by
  simp [goOn, handed_lots, Outbox.nextBatch, Buffer.takeFront, run]

def EndsWith (s : FlushRun) (n : Nat) : Except Failure Nat → Prop
  | .ok total => total = s.outbox.pending ∧ n = s.lots ∧ ∀ k < n, s.answer k = .ok ()
  | .error cause =>
    ∃ last, n = last + 1 ∧ last < s.lots ∧ (∀ k < last, s.answer k = .ok ()) ∧
      s.answer last = .error cause

theorem EndsWith.eq_ok {n : Nat} {result : Except Failure Nat} (h : s.EndsWith n result)
    (hok : ∀ k < s.lots, s.answer k = .ok ()) : result = .ok s.outbox.pending ∧ n = s.lots := by
  cases result with
  | ok total =>
    obtain ⟨rfl, rfl, -⟩ := h
    exact ⟨rfl, rfl⟩
  | error cause =>
    obtain ⟨last, rfl, hlast, -, hfail⟩ := h
    rw [hok last hlast] at hfail
    cases hfail

theorem EndsWith.eq_error {n j : Nat} {result : Except Failure Nat} {cause : Failure}
    (h : s.EndsWith n result) (hj : j < s.lots) (hok : ∀ k < j, s.answer k = .ok ())
    (hfail : s.answer j = .error cause) : result = .error cause ∧ n = j + 1 := by
  cases result with
  | ok total =>
    obtain ⟨rfl, rfl, hall⟩ := h
    rw [hall j hj] at hfail
    cases hfail
  | error cause' =>
    obtain ⟨last, rfl, hlast, hbefore, hfail'⟩ := h
    obtain rfl : j = last := by
      rcases Nat.lt_trichotomy j last with hlt | heq | hlt
      · exact absurd (hfail.symm.trans (hbefore j hlt)) (by simp)
      · exact heq
      · exact absurd (hfail'.symm.trans (hok last hlt)) (by simp)
    rw [hfail] at hfail'
    exact ⟨congrArg Except.error (Except.error.inj hfail').symm, rfl⟩

theorem Sent.goOn_ends {fuel : Nat} (h : Sent s k t) (hk : k ≤ s.lots)
    (hok : ∀ i < k, s.answer i = .ok ()) (hfuel : s.lots + 2 ≤ fuel + k) :
    ∃ n, Sent s n (t.goOn fuel s.lookup.1 (s.handed k) s.outbox.pending).1 ∧
      s.EndsWith n (t.goOn fuel s.lookup.1 (s.handed k) s.outbox.pending).2 := by
  induction fuel generalizing k t with
  | zero => omega
  | succ fuel ih =>
    rcases Nat.eq_or_lt_of_le hk with rfl | hlt
    · obtain ⟨notices, hend⟩ := goOn_lots s t fuel
      rw [hend]
      exact ⟨s.lots, h.congr, rfl, rfl, hok⟩
    · rw [h.goOn hlt]
      cases ha : s.answer k with
      | ok =>
        refine ih h.handOver hlt (fun i hi => ?_) (by omega)
        rcases Nat.lt_succ_iff_lt_or_eq.mp hi with hi | rfl
        · exact hok i hi
        · exact ha
      | error cause =>
        obtain ⟨fuel, rfl⟩ : ∃ f, fuel = f + 1 := ⟨fuel - 1, by omega⟩
        exact ⟨k + 1, h.handOver, k, rfl, hlt, hok, ha⟩

theorem flush_of_isEmpty (h : s.outbox.events.items = []) : s.flush = (s, .ok 0) := by
  simp [flush, Outbox.beginFlush, Buffer.isEmpty_iff.mpr h, run]

/-- A flush hands over some of the batches that are to be expected, and its result says which. -/
theorem flush_ends (h : s.outbox.events.items ≠ []) :
    ∃ n, Sent s n s.flush.1 ∧ s.EndsWith n s.flush.2 := by
  have hsome : s.outbox.events.isEmpty = false :=
    Bool.eq_false_iff.mpr fun he => h (Buffer.isEmpty_iff.mp he)
  obtain ⟨notices, hflush⟩ : ∃ notices, s.flush = ({ s with identity := s.lookup.2, notices } :
      FlushRun).goOn (s.outbox.pending + 2) s.lookup.1 (s.handed 0) s.outbox.pending := by
    refine ⟨s.notices ++ (s.identity.resolve s.outbox.context.appName 0).2.2, ?_⟩
    simp [flush, Outbox.beginFlush, hsome, run, goOn, Outbox.identified, lookup, handed]
  rw [hflush]
  refine Sent.goOn_ends ⟨?_, rfl, ?_, rfl, rfl, rfl, ?_⟩ (Nat.zero_le _) (by simp) ?_
  · simp [come, gone]
  · simp [handed, gone]
  · simp
  · have hpos := List.length_pos_iff.mpr h
    simp only [lots, maxBatch, Outbox.pending, Buffer.size]
    omega

def quiet (s : FlushRun) (answers : List (Except Failure Unit)) : FlushRun :=
  { s with script := answers.map fun result => { result } }

section Quiet

variable {answers : List (Except Failure Unit)}

theorem come_quiet (k : Nat) : (s.quiet answers).come k = s.outbox.events.items := by
  have hnone : ((answers.map fun result => ({ result } : BatchResult)).take k).flatMap
      (·.arriving) = [] := by
    rw [← List.map_take, List.flatMap_map, List.flatMap_eq_nil_iff]
    intro result _
    rfl
  rw [come, quiet, hnone, List.append_nil]

theorem gone_quiet (k : Nat) : (s.quiet answers).gone k = (s.quiet answers).handed k := by
  have hroom := s.outbox.events.length_le
  induction k with
  | zero => simp [gone, handed]
  | succ k ih =>
    rw [gone, ih, ← handed_succ, come_quiet]
    exact Nat.max_eq_left (by simp only [quiet]; omega)

theorem batch_quiet (k : Nat) : (s.quiet answers).batch k =
    ⟨{ s.outbox.context with identity := s.lookup.1 },
      (s.outbox.events.items.drop (maxBatch * k)).take maxBatch⟩ := by
  have hpending : (s.quiet answers).outbox.pending = s.outbox.events.items.length := rfl
  rw [batch, come_quiet, gone_quiet, lotSize, handed, hpending, Nat.min_comm _ (maxBatch * k),
    ← List.drop_eq_drop_min, ← List.length_drop, ← List.take_eq_take_min]
  rfl

theorem answer_quiet (k : Nat) : (s.quiet answers).answer k = answers.getD k (.ok ()) := by
  rw [answer, quiet, List.getElem?_map, List.getD_eq_getElem?_getD]
  cases answers[k]? <;> rfl

end Quiet

theorem flatMap_lots {α : Type u} (l : List α) {size lots : Nat} (h : l.length ≤ size * lots) :
    ((List.range lots).flatMap fun k => (l.drop (size * k)).take size) = l := by
  have hfirst : ∀ n, ((List.range n).flatMap fun k => (l.drop (size * k)).take size) =
      l.take (size * n) := by
    intro n
    induction n with
    | zero => simp
    | succ n ih =>
      rw [List.range_succ, List.flatMap_append, ih, Nat.mul_succ, List.take_add]
      simp
  rw [hfirst, List.take_of_length_le h]

/-- A flush during which nothing arrives. When nothing waits, nobody is asked and nothing is sent.
Otherwise the identity is asked for once, and what waits goes out in order, in lots of a hundred of
which only the last may be smaller, under the context with that identity: all of it, unless a
delivery fails. That one is the last; its failure is the result, and what comes behind its lot still
waits. -/
theorem flush_partition (s : FlushRun) (answers : List (Except Failure Unit)) :
    let waiting := s.outbox.events.items
    let lots := (waiting.length + maxBatch - 1) / maxBatch
    let lot := fun k => (waiting.drop (maxBatch * k)).take maxBatch
    let batch := fun k => (⟨{ s.outbox.context with identity := s.lookup.1 }, lot k⟩ : Batch)
    let answer := fun k => answers.getD k (.ok ())
    let s := s.quiet answers
    ((List.range lots).flatMap lot = waiting ∧ ∀ k, k + 1 < lots → (lot k).length = maxBatch) ∧
    (waiting = [] → s.flush = (s, .ok 0)) ∧
    (waiting ≠ [] → s.flush.1.identity = s.lookup.2 ∧
      ((∀ k < lots, answer k = .ok ()) →
        s.flush.2 = .ok waiting.length ∧ s.flush.1.outbox.events.items = [] ∧
        s.flush.1.batches = s.batches ++ (List.range lots).map batch) ∧
      ∀ j < lots, ∀ cause, (∀ k < j, answer k = .ok ()) → answer j = .error cause →
        s.flush.2 = .error cause ∧
        s.flush.1.outbox.events.items = waiting.drop (maxBatch * (j + 1)) ∧
        s.flush.1.batches = s.batches ++ (List.range (j + 1)).map batch) := by
  intro waiting lots lot batch answer s'
  have hanswer : s'.answer = answer := funext answer_quiet
  have hbatch : s'.batch = batch := funext batch_quiet
  refine ⟨⟨flatMap_lots _ ?_, fun k hk => ?_⟩, fun hnone => flush_of_isEmpty hnone,
    fun hsome => ?_⟩
  · simp only [lots, maxBatch]
    omega
  · simp only [lot, lots, maxBatch, List.length_take, List.length_drop] at hk ⊢
    omega
  obtain ⟨n, hsent, hend⟩ := flush_ends (s := s') hsome
  have hitems : s'.flush.1.outbox.events.items = waiting.drop (s'.handed n) := by
    rw [hsent.items, gone_quiet, come_quiet]
  have hbatches := hsent.batches
  rw [hbatch] at hbatches
  rw [← hanswer]
  refine ⟨hsent.identity, fun hok => ?_, fun j hj cause hok hfail => ?_⟩
  · obtain ⟨hresult, rfl⟩ := hend.eq_ok hok
    refine ⟨hresult, ?_, hbatches⟩
    rw [hitems, handed_lots]
    exact List.drop_length
  · obtain ⟨hresult, rfl⟩ := hend.eq_error hj hok hfail
    refine ⟨hresult, ?_, hbatches⟩
    rw [hitems, handed, Nat.min_comm]
    exact List.drop_eq_drop_min.symm

end LogDelivery.FlushRun
