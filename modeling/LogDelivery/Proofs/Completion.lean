import LogDelivery.Proofs.WorkerLoop

/-!
# The end of the worker

A pipeline that has been told to end comes to its end, whatever the wire answers and whatever else happens
in the meantime, as long as the worker gets on. The moves that it still has to make are
bounded by the room in the backlog and in the outbox, so that events that come in do not keep it
from its end.
-/
namespace LogDelivery

namespace Courier

variable {c : Courier}

/-- A replay that has ended gives way to the next step at once. -/
def IsLive : Sending → Prop
  | .replaying (.ended _) _ => False
  | _ => True

def perBatch (c : Courier) : Nat := 2 * c.backlog.parcels.capacity + 5

/-- The moves of a delivery up to its end, and the one that takes note of that. -/
def toGo (c : Courier) : Sending → Nat
  | .ended _ => 1
  | .posting _ => 2
  | .replaying (.posting _ _) _ => 2 * c.backlog.size + 4
  | .replaying (.pausing _) _ => 2 * c.backlog.size + 3
  | .replaying (.ended _) _ => 0

structure GoesOn (c : Courier) (moves : Nat) (r : Courier × Sending × List Notice) : Prop where
  live : IsLive r.2.1
  perBatch : r.1.perBatch = c.perBatch
  toGo : r.1.toGo r.2.1 < moves

theorem capacity_hold (b : Backlog) (p : Payload) :
    (b.hold p).parcels.capacity = b.parcels.capacity := Buffer.capacity_offer _ _

theorem capacity_offer (b : Backlog) (p : Payload) (cause : Failure) :
    (b.offer p cause).1.parcels.capacity = b.parcels.capacity := by
  unfold Backlog.offer
  split
  · exact capacity_hold b p
  · rfl

theorem capacity_returned (b : Backlog) (parcel : Parcel) (cause : Failure) :
    (b.returned parcel cause).parcels.capacity = b.parcels.capacity := by
  unfold Backlog.returned
  dsimp only
  split
  · rfl
  · exact Buffer.capacity_putBack _ _

theorem nextParcel_goesOn (c : Courier) (count : Nat) (payload : Payload) :
    c.GoesOn (2 * c.backlog.size + 3)
      (c.afterReplay (c.backlog.nextParcel count).1 (c.backlog.nextParcel count).2 payload) := by
  unfold Backlog.nextParcel
  cases hp : c.backlog.parcels.popFront? with
  | none => exact ⟨trivial, rfl, by simp [afterReplay, toGo]⟩
  | some found =>
    obtain ⟨parcel, parcels⟩ := found
    obtain ⟨hitems, hcapacity⟩ := Buffer.popFront?_eq_some hp
    have hsize : c.backlog.parcels.size = parcels.size + 1 := by simp [Buffer.size, hitems]
    refine ⟨trivial, by simp [afterReplay, perBatch, hcapacity], ?_⟩
    simp only [afterReplay, toGo, Backlog.size, hsize]
    omega

theorem send_goesOn (c : Courier) (book : RuleBook) (batch : Batch) :
    c.GoesOn c.perBatch (c.send book batch) := by
  have hsize : c.backlog.size ≤ c.backlog.parcels.capacity := c.backlog.parcels.length_le
  unfold send
  split
  · exact ⟨trivial, rfl, by simp [toGo, perBatch]⟩
  · split
    · exact ⟨trivial, rfl, by simp [toGo, perBatch]⟩
    · next payload _ _ =>
      obtain ⟨hlive, hsame, hfewer⟩ := c.nextParcel_goesOn 0 payload
      refine ⟨hlive, hsame, Nat.lt_of_lt_of_le hfewer ?_⟩
      unfold perBatch
      omega

theorem answered_posting_goesOn (c : Courier) (payload : Payload) (r : Except Failure Unit) :
    c.GoesOn 2 (c.answered (.posting payload) r) := by
  cases r with
  | ok => exact ⟨trivial, rfl, Nat.lt_succ_self 1⟩
  | error cause =>
    refine ⟨trivial, ?_, Nat.lt_succ_self 1⟩
    simp [answered, perBatch, capacity_offer]

theorem answered_replaying_goesOn (c : Courier) (parcel : Parcel) (count : Nat) (payload : Payload)
    (r : Except Failure Unit) :
    c.GoesOn (2 * c.backlog.size + 4)
      (c.answered (.replaying (.posting parcel count) payload) r) := by
  cases r with
  | ok =>
    by_cases he : c.backlog.isEmpty
    · simp only [answered, Backlog.answered, Backlog.delivered, he, if_true, afterReplay]
      exact ⟨trivial, rfl, by simp [toGo]⟩
    · simp only [answered, Backlog.answered, Backlog.delivered, he, afterReplay]
      exact ⟨trivial, rfl, Nat.lt_succ_self _⟩
  | error cause =>
    refine ⟨trivial, ?_, by simp [answered, Backlog.answered, afterReplay, toGo]⟩
    simp [answered, Backlog.answered, afterReplay, perBatch, capacity_hold, capacity_returned]

theorem answered_goesOn {s : Sending} {payload : Payload} (h : c.wait s = .answer payload)
    (r : Except Failure Unit) : c.GoesOn (c.toGo s) (c.answered s r) := by
  cases s with
  | posting payload => exact c.answered_posting_goesOn payload r
  | ended result => cases h
  | replaying replay payload =>
    cases replay with
    | posting parcel count => exact c.answered_replaying_goesOn parcel count payload r
    | pausing count => cases h
    | ended result => cases h

theorem paused_goesOn {s : Sending} {length : Duration} (h : c.wait s = .pause length) :
    c.GoesOn (c.toGo s) (c.paused s) := by
  cases s with
  | posting payload => cases h
  | ended result => cases h
  | replaying replay payload =>
    cases replay with
    | posting parcel count => cases h
    | pausing count => exact c.nextParcel_goesOn count payload
    | ended result => cases h

theorem answered_of_not_waiting {s : Sending} (h : ∀ payload, c.wait s ≠ .answer payload)
    (r : Except Failure Unit) : c.answered s r = (c, s, []) := by
  cases s with
  | posting payload => exact absurd rfl (h payload)
  | ended result => rfl
  | replaying replay payload =>
    cases replay with
    | posting parcel count => exact absurd rfl (h parcel.payload)
    | pausing count => rfl
    | ended result => rfl

theorem paused_of_not_waiting {s : Sending} (h : ∀ length, c.wait s ≠ .pause length) :
    c.paused s = (c, s, []) := by
  cases s with
  | posting payload => rfl
  | ended result => rfl
  | replaying replay payload =>
    cases replay with
    | posting parcel count => rfl
    | pausing count => exact absurd rfl (h c.backlog.pause)
    | ended result => rfl

theorem wait_of_live {s : Sending} (h : IsLive s) :
    (∃ result, s = .ended result) ∨ (∃ payload, c.wait s = .answer payload) ∨
      ∃ length, c.wait s = .pause length := by
  cases s with
  | ended result => exact Or.inl ⟨result, rfl⟩
  | posting payload => exact Or.inr (Or.inl ⟨payload, rfl⟩)
  | replaying replay payload =>
    cases replay with
    | posting parcel count => exact Or.inr (Or.inl ⟨parcel.payload, rfl⟩)
    | pausing count => exact Or.inr (Or.inr ⟨c.backlog.pause, rfl⟩)
    | ended result => exact h.elim

end Courier

namespace Flush

def toGo (perBatch : Nat) : Flush → Nat
  | .lookingUp total => total * perBatch + 2
  | .sending batch sent total => (total - (sent + batch.size)) * perBatch + 1
  | .ended _ => 1

def inHand (perBatch : Nat) : Flush → Nat
  | .sending .. => perBatch
  | _ => 0

variable (perBatch : Nat)

@[simp] theorem toGo_lookingUp (total : Nat) :
    (lookingUp total).toGo perBatch = total * perBatch + 2 := rfl

@[simp] theorem toGo_ended (result : Except Failure Nat) : (ended result).toGo perBatch = 1 := rfl

@[simp] theorem inHand_lookingUp (total : Nat) : (lookingUp total).inHand perBatch = 0 := rfl

@[simp] theorem inHand_sending (batch : Batch) (sent total : Nat) :
    (sending batch sent total).inHand perBatch = perBatch := rfl

@[simp] theorem inHand_ended (result : Except Failure Nat) :
    (ended result).inHand perBatch = 0 := rfl

theorem toGo_pos (flush : Flush) : 0 < flush.toGo perBatch := by
  cases flush <;> simp [toGo]

/-- Each batch takes an event at least off the total. -/
theorem nextBatch_toGo (o : Outbox) (identity : Option Identity) (sent total : Nat) :
    (o.nextBatch identity sent total).2.1.inHand perBatch +
      (o.nextBatch identity sent total).2.1.toGo perBatch ≤ (total - sent) * perBatch + 1 := by
  unfold Outbox.nextBatch
  dsimp only
  split
  · simp [inHand, toGo]
  · next hne =>
    simp only [inHand, toGo, Buffer.takeFront, Batch.size] at hne ⊢
    have htaken : (o.events.items.take (min Outbox.maxBatch (total - sent))).length ≤
        total - sent := Nat.le_trans (List.length_take_le _ _) (Nat.min_le_right _ _)
    have hpos : 0 < (o.events.items.take (min Outbox.maxBatch (total - sent))).length :=
      List.length_pos_iff.mpr (by simpa using hne)
    have hless : total - (sent + (o.events.items.take
        (min Outbox.maxBatch (total - sent))).length) + 1 ≤ total - sent := by omega
    have hmul := Nat.mul_le_mul_right perBatch hless
    rw [Nat.add_mul] at hmul
    omega

theorem settled_toGo (o : Outbox) (r : Except Failure Unit) (flush : Flush) :
    (o.settled r flush).2.1.inHand perBatch + (o.settled r flush).2.1.toGo perBatch ≤
      flush.toGo perBatch := by
  cases flush with
  | sending batch sent total =>
    cases r with
    | ok => exact nextBatch_toGo perBatch o batch.context.identity (sent + batch.size) total
    | error cause => simp [Outbox.settled, inHand, toGo]
  | lookingUp total => simp [Outbox.settled, inHand]
  | ended result => simp [Outbox.settled, inHand]

theorem beginFlush_toGo (o : Outbox) :
    o.beginFlush.inHand perBatch + o.beginFlush.toGo perBatch ≤
      o.events.capacity * perBatch + 2 := by
  have hle := Nat.mul_le_mul_right perBatch o.events.length_le
  unfold Outbox.beginFlush
  split
  · simp [inHand, toGo]
  · simpa [inHand, toGo, Outbox.pending, Buffer.size] using hle

theorem capacity_nextBatch (o : Outbox) (identity : Option Identity) (sent total : Nat) :
    (o.nextBatch identity sent total).1.events.capacity = o.events.capacity := by
  unfold Outbox.nextBatch
  dsimp only
  split <;> rfl

theorem capacity_settled (o : Outbox) (r : Except Failure Unit) (flush : Flush) :
    (o.settled r flush).1.events.capacity = o.events.capacity := by
  cases flush with
  | sending batch sent total =>
    cases r with
    | ok => exact capacity_nextBatch o batch.context.identity (sent + batch.size) total
    | error cause => rfl
  | lookingUp total => rfl
  | ended result => rfl

end Flush

namespace Pipeline

variable {p : Pipeline}

def lastToGo (p : Pipeline) (last : Bool) : Nat :=
  if last then 0 else p.outbox.events.capacity * p.courier.perBatch + 2

/-- No less than the moves that the worker makes until it sleeps or comes to its end. -/
def toGo (p : Pipeline) : Nat :=
  match p.worker with
  | .flushing last flush =>
    flush.inHand p.courier.perBatch + flush.toGo p.courier.perBatch + p.lastToGo last
  | .delivering last flush sending =>
    p.courier.toGo sending + flush.toGo p.courier.perBatch + p.lastToGo last
  | _ => 0

def IsLive (p : Pipeline) : Prop := Courier.IsLive p.sending

structure GoesOn (p q : Pipeline) : Prop where
  live : q.IsLive
  toGo : q.toGo < p.toGo

theorem toGo_flushing {last : Bool} {flush : Flush} (hw : p.worker = .flushing last flush) :
    p.toGo = flush.inHand p.courier.perBatch + flush.toGo p.courier.perBatch + p.lastToGo last := by
  simp only [toGo, hw]

theorem toGo_delivering {last : Bool} {flush : Flush} {sending : Sending}
    (hw : p.worker = .delivering last flush sending) :
    p.toGo = p.courier.toGo sending + flush.toGo p.courier.perBatch + p.lastToGo last := by
  simp only [toGo, hw]

theorem toGo_pos {last : Bool} (h : p.phase = .inFlush last) : 0 < p.toGo := by
  unfold phase at h
  split at h
  · cases h
  · next last flush hw =>
    have hpos := flush.toGo_pos p.courier.perBatch
    rw [toGo_flushing hw]
    omega
  · next last flush sending hw =>
    have hpos := flush.toGo_pos p.courier.perBatch
    rw [toGo_delivering hw]
    omega
  all_goals cases h

theorem toGo_of_phase (h : ∀ last, p.phase ≠ .inFlush last) : p.toGo = 0 := by
  unfold toGo
  split
  · next last flush hw => exact absurd (by simp [phase, hw]) (h last)
  · next last flush sending hw => exact absurd (by simp [phase, hw]) (h last)
  · rfl

theorem conclude_goesOn {last : Bool} {result : Except Failure Nat}
    (hw : p.worker = .flushing last (.ended result)) (now : Nat) :
    p.GoesOn (p.conclude last result now).1 := by
  have hphase : p.phase = .inFlush last := by simp [phase, hw]
  have hpos := toGo_pos hphase
  cases last with
  | true => exact ⟨trivial, by simpa [conclude, toGo] using hpos⟩
  | false =>
    cases hc : p.cancelled with
    | true =>
      have hbegin := Flush.beginFlush_toGo p.courier.perBatch p.outbox
      refine ⟨by simp [conclude, hc, IsLive, sending, Courier.IsLive], ?_⟩
      rw [toGo_flushing hw]
      simp only [conclude, hc, if_true, Bool.false_eq_true, if_false]
      rw [toGo_flushing rfl]
      simp only [lastToGo, Flush.toGo_ended, Flush.inHand_ended, Bool.false_eq_true, if_true,
        if_false]
      omega
    | false =>
      refine ⟨by simp [conclude, hc, IsLive, sending, Courier.IsLive], ?_⟩
      simpa [conclude, hc, toGo] using hpos

theorem goesOn_of_courier {moves : Nat} {last : Bool} {flush : Flush}
    {r : Courier × Sending × List Notice} (h : p.courier.GoesOn moves r)
    (hgo : moves + flush.toGo p.courier.perBatch + p.lastToGo last = p.toGo) :
    p.GoesOn { p with courier := r.1, worker := .delivering last flush r.2.1 } := by
  refine ⟨h.live, ?_⟩
  have hfewer := h.toGo
  have hsame := h.perBatch
  rw [← hgo, toGo_delivering rfl]
  simp only [lastToGo, hsame]
  omega

theorem goesOn_of_outbox {moves : Nat} {last : Bool} {r : Outbox × Flush × List Notice}
    (hroom : r.1.events.capacity = p.outbox.events.capacity)
    (hfewer : r.2.1.inHand p.courier.perBatch + r.2.1.toGo p.courier.perBatch < moves)
    (hgo : moves + p.lastToGo last = p.toGo) (identity : IdentitySource) :
    p.GoesOn { p with identity, outbox := r.1, worker := .flushing last r.2.1 } := by
  refine ⟨trivial, ?_⟩
  rw [← hgo, toGo_flushing rfl]
  simp only [lastToGo, hroom]
  omega

theorem work_goesOn (h : p.isBusy = true) (now : Nat) : p.GoesOn (p.work now).1 := by
  cases hw : p.worker with
  | flushing last flush =>
    have hgo := toGo_flushing hw
    cases flush with
    | lookingUp total =>
      simp only [work, hw, Outbox.identified]
      generalize (p.identity.resolve p.outbox.context.appName (.ofMillis now)).1 = found
      have hnext := Flush.nextBatch_toGo p.courier.perBatch p.outbox found 0 total
      apply goesOn_of_outbox (Flush.capacity_nextBatch p.outbox found 0 total)
        (Nat.lt_succ_of_le hnext)
      rw [hgo, Nat.sub_zero, Flush.inHand_lookingUp, Flush.toGo_lookingUp, Nat.zero_add]
    | sending batch sent total =>
      simp only [work, hw]
      apply goesOn_of_courier (p.courier.send_goesOn p.rules batch)
      rw [hgo, Flush.inHand_sending]
    | ended result =>
      simp only [work, hw]
      exact conclude_goesOn hw now
  | delivering last flush sending =>
    cases sending with
    | ended result =>
      simp only [work, hw]
      have hsettled := Flush.settled_toGo p.courier.perBatch p.outbox result flush
      apply goesOn_of_outbox (Flush.capacity_settled p.outbox result flush)
        (Nat.lt_succ_of_le hsettled)
      rw [toGo_delivering hw, Courier.toGo]
      omega
    | posting payload => simp [isBusy, hw] at h
    | replaying replay payload => simp [isBusy, hw] at h
  | _ => simp [isBusy, hw] at h

theorem answered_goesOn {payload : Payload} (h : p.wait = .answer payload)
    (r : Except Failure Unit) : p.GoesOn (p.answered r).1 := by
  unfold wait at h
  split at h
  · next last flush sending hw =>
    simp only [answered, hw]
    exact goesOn_of_courier (Courier.answered_goesOn h r) (toGo_delivering hw).symm
  · cases h

theorem paused_goesOn {length : Duration} (h : p.wait = .pause length) :
    p.GoesOn p.paused.1 := by
  unfold wait at h
  split at h
  · next last flush sending hw =>
    simp only [paused, hw]
    exact goesOn_of_courier (Courier.paused_goesOn h) (toGo_delivering hw).symm
  · cases h

def onward (p : Pipeline) (now : Nat) (r : Except Failure Unit) : Move :=
  match p.wait with
  | .answer _ => .answer r
  | .pause _ => .resume
  | .nothing => .work now

theorem onward_goesOn {last : Bool} (h : p.phase = .inFlush last) (hlive : p.IsLive) (now : Nat)
    (r : Except Failure Unit) : p.GoesOn (p.next (p.onward now r)) := by
  unfold onward
  cases hwait : p.wait with
  | answer payload => exact answered_goesOn hwait r
  | pause length => exact paused_goesOn hwait
  | nothing =>
    apply work_goesOn
    cases hw : p.worker with
    | flushing last flush => simp [isBusy, hw]
    | delivering last flush sending =>
      simp only [IsLive, Pipeline.sending, hw] at hlive
      simp only [wait, hw] at hwait
      rcases Courier.wait_of_live (c := p.courier) hlive with ⟨result, rfl⟩ | ⟨_, h⟩ | ⟨_, h⟩
      · simp [isBusy, hw]
      · rw [h] at hwait
        cases hwait
      · rw [h] at hwait
        cases hwait
    | _ => simp [phase, hw] at h

theorem answered_of_not_waiting (h : ∀ payload, p.wait ≠ .answer payload)
    (r : Except Failure Unit) : (p.answered r).1 = p := by
  unfold answered
  split
  · next last flush sending hw =>
    simp only [wait, hw] at h
    simp only [Courier.answered_of_not_waiting h r, ← hw]
  · rfl

theorem paused_of_not_waiting (h : ∀ length, p.wait ≠ .pause length) : p.paused.1 = p := by
  unfold paused
  split
  · next last flush sending hw =>
    simp only [wait, hw] at h
    simp only [Courier.paused_of_not_waiting h, ← hw]
  · rfl

theorem work_goesOn_or_eq (p : Pipeline) (now : Nat) :
    p.GoesOn (p.work now).1 ∨ (p.work now).1 = p := by
  by_cases h : p.isBusy = true
  · exact Or.inl (work_goesOn h now)
  · exact Or.inr (work_of_idle (Bool.not_eq_true _ ▸ h) now)

theorem answered_goesOn_or_eq (p : Pipeline) (r : Except Failure Unit) :
    p.GoesOn (p.answered r).1 ∨ (p.answered r).1 = p := by
  by_cases h : ∃ payload, p.wait = .answer payload
  · obtain ⟨payload, hwait⟩ := h
    exact Or.inl (answered_goesOn hwait r)
  · exact Or.inr (answered_of_not_waiting (not_exists.mp h) r)

theorem paused_goesOn_or_eq (p : Pipeline) : p.GoesOn p.paused.1 ∨ p.paused.1 = p := by
  by_cases h : ∃ length, p.wait = .pause length
  · obtain ⟨length, hwait⟩ := h
    exact Or.inl (paused_goesOn hwait)
  · exact Or.inr (paused_of_not_waiting (not_exists.mp h))

theorem wake_isLive (h : p.IsLive) : p.wake.IsLive := by
  by_cases hw : p.worker = .sleeping
  · simp [wake, hw, IsLive, sending, Courier.IsLive]
  · rw [wake_of_awake hw]
    exact h

theorem next_isLive (h : p.IsLive) (move : Move) : (p.next move).IsLive := by
  have hkept : ∀ q : Pipeline, p.GoesOn q ∨ q = p → q.IsLive := by
    rintro q (hgo | rfl)
    · exact hgo.live
    · exact h
  cases move with
  | append e now => exact h
  | govern rules => exact h
  | wake => exact wake_isLive h
  | cancel => exact wake_isLive h
  | work now => exact hkept _ (p.work_goesOn_or_eq now)
  | answer r => exact hkept _ (p.answered_goesOn_or_eq r)
  | resume => exact hkept _ p.paused_goesOn_or_eq

theorem toGo_append (p : Pipeline) (e : Event) (now : Nat) : (p.append e now).1.toGo = p.toGo := by
  have hroom : (p.append e now).1.outbox.events.capacity = p.outbox.events.capacity := by
    simp only [append]
    split
    · exact Buffer.capacity_offer _ _
    · rfl
  unfold toGo lastToGo
  rw [hroom]
  rfl

theorem toGo_next_le (h : p.worker ≠ .sleeping) (move : Move) : (p.next move).toGo ≤ p.toGo := by
  have hkept : ∀ q : Pipeline, p.GoesOn q ∨ q = p → q.toGo ≤ p.toGo := by
    rintro q (hgo | rfl)
    · exact Nat.le_of_lt hgo.toGo
    · exact Nat.le_refl _
  cases move with
  | append e now => exact Nat.le_of_eq (p.toGo_append e now)
  | govern rules => exact Nat.le_refl _
  | wake => exact Nat.le_of_eq (congrArg toGo (wake_of_awake h))
  | cancel =>
    rw [next, cancel_of_awake h]
    exact Nat.le_refl _
  | work now => exact hkept _ (p.work_goesOn_or_eq now)
  | answer r => exact hkept _ (p.answered_goesOn_or_eq r)
  | resume => exact hkept _ p.paused_goesOn_or_eq

end Pipeline

namespace Timetable

variable {limits : PaceLimits} {t : Timetable}

theorem next_isLive (h : t.pipeline.IsLive) (move : Move) : (t.next move).pipeline.IsLive := by
  rcases t.pipeline_next move with hsame | ⟨m, hm⟩ | ⟨-, hcrash⟩ | ⟨-, habort⟩
  · rw [hsame]
    exact h
  · rw [hm]
    exact Pipeline.next_isLive h m
  · rw [hcrash]
    trivial
  · rw [habort]
    trivial

theorem run_isLive (h : t.pipeline.IsLive) (moves : List Move) :
    (t.run moves).pipeline.IsLive := by
  induction moves generalizing t with
  | nil => exact h
  | cons move moves ih => exact ih (next_isLive h move)

theorem toGo_next_le (h : t.pipeline.worker ≠ .sleeping) (move : Move) :
    (t.next move).pipeline.toGo ≤ t.pipeline.toGo := by
  rcases t.pipeline_next move with hsame | ⟨m, hm⟩ | ⟨-, hcrash⟩ | ⟨-, habort⟩
  · exact Nat.le_of_eq (congrArg Pipeline.toGo hsame)
  · rw [hm]
    exact Pipeline.toGo_next_le h m
  · rw [hcrash]
    exact Nat.zero_le _
  · rw [habort]
    exact Nat.zero_le _

theorem toGo_run_le (h : t.Sound limits) {n : Nat} (htold : t.toldAfter = some n)
    (moves : List Move) : (t.run moves).pipeline.toGo ≤ t.pipeline.toGo := by
  induction moves generalizing t with
  | nil => exact Nat.le_refl _
  | cons move moves ih =>
    have hawake := h.awake (by simp [htold])
    have hw : t.pipeline.worker ≠ .sleeping := Pipeline.phase_eq_asleep_iff.ne.mp hawake
    exact Nat.le_trans (ih (next_sound h move) (toldAfter_next htold move)) (toGo_next_le hw move)

def onward (t : Timetable) (now : Nat) (r : Except Failure Unit) : Timetable :=
  t.next (.ofPipeline (t.pipeline.onward now r))

def rounds (t : Timetable) : List (List Move × Nat × Except Failure Unit) → Timetable
  | [] => t
  | (moves, now, r) :: rest => ((t.run moves).onward now r).rounds rest

theorem onward_pipeline (t : Timetable) (now : Nat) (r : Except Failure Unit) :
    (t.onward now r).pipeline = t.pipeline.next (t.pipeline.onward now r) := by
  unfold onward Pipeline.onward
  cases t.pipeline.wait with
  | answer payload => rfl
  | pause length => rfl
  | nothing =>
    simp only [next, worked]
    split
    · rw [entered_pipeline]
      rfl
    · rfl

theorem onward_toGo (hlive : t.pipeline.IsLive) (hawake : t.pipeline.phase ≠ .asleep) (now : Nat)
    (r : Except Failure Unit) : (t.onward now r).pipeline.toGo ≤ t.pipeline.toGo - 1 := by
  rw [onward_pipeline]
  by_cases hp : ∃ last, t.pipeline.phase = .inFlush last
  · obtain ⟨last, hp⟩ := hp
    have hgo := Pipeline.onward_goesOn hp hlive now r
    exact Nat.le_sub_one_of_lt hgo.toGo
  · have hw : t.pipeline.worker ≠ .sleeping := Pipeline.phase_eq_asleep_iff.ne.mp hawake
    have hzero : t.pipeline.toGo = 0 := Pipeline.toGo_of_phase (not_exists.mp hp)
    have hle := Pipeline.toGo_next_le hw (t.pipeline.onward now r)
    omega

/-- Enough rounds bring the worker to its end. -/
theorem rounds_isDone (h : t.Sound limits) (hlive : t.pipeline.IsLive) {n : Nat}
    (htold : t.toldAfter = some n) (schedule : List (List Move × Nat × Except Failure Unit))
    (henough : t.pipeline.toGo ≤ schedule.length) : (t.rounds schedule).pipeline.isDone = true := by
  induction schedule generalizing t with
  | nil =>
    have hzero : t.pipeline.toGo = 0 := Nat.le_zero.mp henough
    have hawake := h.awake (by simp [htold])
    rw [rounds, Pipeline.isDone_iff]
    cases hp : t.pipeline.phase with
    | asleep => exact absurd hp hawake
    | inFlush last => exact absurd (Pipeline.toGo_pos hp) (Nat.not_lt.mpr (Nat.le_of_eq hzero))
    | stopped => exact Or.inl rfl
    | crashed => exact Or.inr (Or.inl rfl)
    | aborted => exact Or.inr (Or.inr rfl)
  | cons round rest ih =>
    obtain ⟨moves, now, r⟩ := round
    -- what happens first adds nothing to the worker's moves, and then it makes one of them
    have hsound := run_sound h moves
    have hlive' := run_isLive hlive moves
    have htold' := toldAfter_run htold moves
    have hle := toGo_run_le h htold moves
    have hawake := hsound.awake (by simp [htold'])
    have hless := onward_toGo hlive' hawake now r
    apply ih (next_sound hsound _) (next_isLive hlive' _) (toldAfter_next htold' _)
    simp only [List.length_cons] at henough
    simp only [onward] at hless
    omega

structure Orderly (limits : PaceLimits) (t : Timetable) : Prop where
  regular : Regular limits t.starts t.ends t.clock
  /-- before the pipeline is told to end, there are only cycles, and the worker sleeps between them
  unless a post has ended it -/
  untold : t.toldAfter = none →
    (t.pipeline.phase = .asleep ∨ t.pipeline.phase = .inFlush false ∨
      t.pipeline.worker = .crashed) ∧
    t.pipeline.worker ≠ .stopped ∧ ∀ start ∈ t.starts, start.last = false
  /-- the timer of a worker that sleeps is set to the end of the last flush and the delay of the pace,
  and that time has not gone by -/
  timer : t.pipeline.phase = .asleep →
    t.toldAfter = none ∧ t.starts.length = t.ends.length ∧ t.clock ≤ t.due ∧
      t.due = freeAt t.ends + Duration.ticks (paceAfter limits t.ends).delay
  /-- and when the time has come, it begins the next cycle -/
  cycle : t.pipeline.phase = .asleep →
    (t.run [.pass (t.due - t.clock), .ofPipeline .wake]).pipeline.phase = .inFlush false ∧
      (t.run [.pass (t.due - t.clock), .ofPipeline .wake]).starts =
        t.starts ++ [⟨false, t.due⟩]
  /-- once it has been told to, no cycle begins, but one last flush may, when all cycles have ended -/
  told : ∀ n, t.toldAfter = some n →
    n ≤ t.starts.length ∧ t.starts.length ≤ n + 1 ∧
    (∀ (i : Nat) (start : FlushStart), t.starts[i]? = some start → (start.last = true ↔ n ≤ i)) ∧
    (n < t.starts.length → n ≤ t.ends.length)
  /-- a worker that has been told to end does so in a bounded number of its moves -/
  ending : t.toldAfter ≠ none → ∀ schedule, t.pipeline.toGo ≤ schedule.length →
    (t.rounds schedule).pipeline.isDone = true
  stopped : t.pipeline.worker = .stopped →
    ∃ n, t.toldAfter = some n ∧ t.starts.length = n + 1 ∧ t.ends.length = n + 1
  /-- the first call to shut down learns whether the worker was given up -/
  answer : ∀ time r, t.call = some ⟨time, some r⟩ →
    r = .ok () ∧ (t.pipeline.worker = .stopped ∨ t.pipeline.worker = .crashed) ∨
    r = .error .shutdownTimeout ∧ t.pipeline.worker = .aborted ∧
      time + Duration.ticks t.shutdownTimeout ≤ t.clock
  patience : ∀ time, t.call = some ⟨time, none⟩ →
    time + Duration.ticks t.shutdownTimeout ≤ t.clock → ∃ r, t.polled.call = some ⟨time, some r⟩
  /-- nothing but the timeout makes it give up the worker -/
  aborted : t.pipeline.worker = .aborted →
    ∃ time, t.call = some ⟨time, some (.error .shutdownTimeout)⟩
  /-- when it has its answer, nothing begins any more -/
  nothing_after : ∀ time r, t.call = some ⟨time, some r⟩ → ∀ moves,
    (t.run moves).starts = t.starts ∧ (t.run moves).ends = t.ends
  /-- later calls return at once and do nothing else -/
  later : t.call ≠ none → t.shutDown = { t with later := t.later ++ [.ok ()] }
  answers : ∀ r ∈ t.later, r = .ok ()

theorem Sound.told_iff (h : t.Sound limits) {n : Nat} (htold : t.toldAfter = some n) :
    n ≤ t.starts.length ∧ t.starts.length ≤ n + 1 ∧
    (∀ (i : Nat) (start : FlushStart), t.starts[i]? = some start → (start.last = true ↔ n ≤ i)) ∧
    (n < t.starts.length → n ≤ t.ends.length) := by
  obtain ⟨-, hle, hge, hkinds⟩ := (told_some htold).mp h.told
  refine ⟨hle, hge, hkinds, ?_⟩
  intro hlt
  cases n with
  | zero => exact Nat.zero_le _
  | succ n =>
    obtain ⟨stop, hstop, -⟩ := h.regular.alone n t.starts[n + 1] (List.getElem?_eq_getElem hlt)
    obtain ⟨hn, -⟩ := List.getElem?_eq_some_iff.mp hstop
    exact hn

theorem Sound.stopped (h : t.Sound limits) (hw : t.pipeline.worker = .stopped) :
    ∃ n, t.toldAfter = some n ∧ t.starts.length = n + 1 ∧ t.ends.length = n + 1 := by
  have hp := Pipeline.phase_eq_stopped_iff.mpr hw
  obtain ⟨heven, n, hn, hstarts⟩ := (counted_stopped hp).mp h.counted
  exact ⟨n, hn, hstarts, by omega⟩

theorem Sound.answer (h : t.Sound limits) {time : Nat} {r : Except PipelineError Unit}
    (hcall : t.call = some ⟨time, some r⟩) :
    r = .ok () ∧ (t.pipeline.worker = .stopped ∨ t.pipeline.worker = .crashed) ∨
    r = .error .shutdownTimeout ∧ t.pipeline.worker = .aborted ∧
      time + Duration.ticks t.shutdownTimeout ≤ t.clock := by
  cases r with
  | ok =>
    have hok := h.answered.ok time hcall
    rw [Pipeline.phase_eq_stopped_iff, Pipeline.phase_eq_crashed_iff] at hok
    exact Or.inl ⟨rfl, hok⟩
  | error e =>
    obtain ⟨rfl, hp, hle⟩ := h.answered.error time e hcall
    exact Or.inr ⟨rfl, Pipeline.phase_eq_aborted_iff.mp hp, hle⟩

theorem Sound.aborted (h : t.Sound limits) (hw : t.pipeline.worker = .aborted) :
    ∃ time, t.call = some ⟨time, some (.error .shutdownTimeout)⟩ := by
  have hp := Pipeline.phase_eq_aborted_iff.mpr hw
  rcases hcall : t.call with _ | ⟨time, _ | r⟩
  · exact absurd hp (h.answered.uncalled hcall).2
  · exact absurd hp (h.answered.waiting time hcall)
  · rcases h.answer hcall with ⟨-, hw' | hw'⟩ | ⟨rfl, -⟩
    · rw [hw] at hw'
      cases hw'
    · rw [hw] at hw'
      cases hw'
    · exact ⟨time, rfl⟩

theorem Sound.phase_of_untold (h : t.Sound limits) (huntold : t.toldAfter = none) :
    t.pipeline.phase = .asleep ∨ t.pipeline.phase = .inFlush false ∨
      t.pipeline.worker = .crashed := by
  cases hp : t.pipeline.phase with
  | asleep => exact Or.inl rfl
  | inFlush last =>
    obtain ⟨-, time, hstart⟩ := (counted_inFlush hp).mp h.counted
    have hcycle : last = false :=
      ((told_none huntold).mp h.told).2 _ (List.mem_of_getElem? hstart)
    exact Or.inr (Or.inl (hcycle ▸ rfl))
  | stopped =>
    obtain ⟨n, hn, -⟩ := h.stopped (Pipeline.phase_eq_stopped_iff.mp hp)
    rw [huntold] at hn
    cases hn
  | crashed => exact Or.inr (Or.inr (Pipeline.phase_eq_crashed_iff.mp hp))
  | aborted =>
    obtain ⟨time, hcall⟩ := h.aborted (Pipeline.phase_eq_aborted_iff.mp hp)
    exact absurd huntold (h.answered.told (by simp [hcall]))

theorem Sound.isDone_of_answer (h : t.Sound limits) {time : Nat} {r : Except PipelineError Unit}
    (hcall : t.call = some ⟨time, some r⟩) : t.pipeline.isDone = true := by
  rcases h.answer hcall with ⟨-, hw | hw⟩ | ⟨-, hw, -⟩ <;> simp [Pipeline.isDone, hw]

theorem polled_call {time : Nat} (hcall : t.call = some ⟨time, none⟩)
    (hlimit : time + Duration.ticks t.shutdownTimeout ≤ t.clock) :
    ∃ r, t.polled.call = some ⟨time, some r⟩ := by
  simp only [polled, hcall, hlimit, if_true]
  split
  · exact ⟨_, rfl⟩
  · exact ⟨_, rfl⟩

theorem Sound.orderly (h : t.Sound limits) (hlive : t.pipeline.IsLive) : t.Orderly limits where
  regular := h.regular
  untold huntold := by
    refine ⟨h.phase_of_untold huntold, ?_, ((told_none huntold).mp h.told).2⟩
    intro hw
    obtain ⟨n, hn, -⟩ := h.stopped hw
    rw [huntold] at hn
    cases hn
  timer := h.timer
  cycle := h.cycle
  told n htold := h.told_iff htold
  ending htold := by
    obtain ⟨n, hn⟩ := Option.ne_none_iff_exists'.mp htold
    exact rounds_isDone h hlive hn
  stopped := h.stopped
  answer _ _ := h.answer
  patience _ := polled_call
  aborted := h.aborted
  nothing_after _ _ hcall := run_of_isDone (h.isDone_of_answer hcall)
  later hcall := by
    obtain ⟨call, hc⟩ := Option.ne_none_iff_exists'.mp hcall
    simp only [shutDown, hc, cancelled_of_told h (h.answered.told hcall)]
  answers := h.answered.later

theorem run_orderly (s : Settings) (courier : Courier) (identity : IdentitySource)
    (rules : RuleBook) (moves : List Move) :
    ((start s courier identity rules).run moves).Orderly s.pace := by
  have hlive : (start s courier identity rules).pipeline.IsLive := trivial
  exact (run_sound (start_sound s courier identity rules) moves).orderly (run_isLive hlive moves)

/-- At the moment when the timer goes off, it counts what comes first: the call to shut down, or the
timer. -/
example (courier : Courier) (identity : IdentitySource) (rules : RuleBook) :
    let t := (start { pace := ⟨1, 1, 1, 1, 1⟩ } courier identity rules).run [.pass 1]
    (t.run [.shutDown, .ofPipeline .wake]).starts = [⟨true, 1⟩] ∧
    (t.run [.ofPipeline .wake, .shutDown, .ofPipeline (.work 0), .ofPipeline (.work 0)]).starts =
      [⟨false, 1⟩, ⟨true, 1⟩] :=
  ⟨rfl, rfl⟩

end Timetable
end LogDelivery
