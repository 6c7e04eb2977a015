import LogDelivery.Proofs.LastFlush
import Mathlib.Data.List.Infix

/-!
# The end of a pipeline

What is left when a pipeline has been told to end and its worker has stopped. The backlog is
replayed before a batch is posted and at no other time: a last flush that finds no events leaves it
alone.
-/
namespace LogDelivery

namespace Round

open Logbook

variable {t : Round}

/-- The delivery in progress has not failed, and has left nothing in the backlog if it has ended. -/
def Clean (t : Round) : Prop :=
  match t.sending with
  | .ended (.ok ()) => t.log.shelf.items = []
  | .ended (.error _) => False
  | _ => True

theorem resumed_clean (h : t.Clean) : t.resumed.Clean := by
  obtain ⟨c, s, l⟩ := t
  match s with
  | .replaying (.pausing count) payload =>
    cases hp : c.backlog.parcels.popFront? <;>
      simp [Clean, resumed, Courier.paused, Backlog.nextParcel, hp, Courier.afterReplay]
  | .replaying (.posting parcel count) payload => exact h
  | .replaying (.ended r) payload => exact h
  | .posting payload => exact h
  | .ended r => exact h

theorem send_clean (hs : t.log.shelf.map Prod.snd = t.courier.backlog.parcels) {rules : RuleBook}
    {batch : Batch} {payload : Payload} (hw : t.courier.write rules batch = .ok payload) :
    (t.send rules batch).Clean := by
  obtain ⟨c, s, l⟩ := t
  rw [send_eq_resumed hs hw]
  exact resumed_clean trivial

theorem answered_clean (h : t.Sound) (hc : t.Clean) : (t.answered (.ok ())).Clean := by
  obtain ⟨c, s, l⟩ := t
  match s with
  | .posting payload => exact h.phase.1
  | .replaying (.posting parcel count) payload =>
    cases he : c.backlog.isEmpty <;>
      simp [Clean, answered, Courier.answered, Backlog.answered, Backlog.delivered, he,
        Courier.afterReplay]
  | .replaying (.pausing count) payload => exact hc
  | .replaying (.ended r) payload => exact hc
  | .ended r => exact hc

theorem answered_of_no_post (h : t.log.underway t.sending = none) (r : Except Failure Unit) :
    t.answered r = t := by
  obtain ⟨c, s, l⟩ := t
  match s with
  | .posting payload => cases h
  | .replaying (.posting parcel count) payload => cases h
  | .replaying (.pausing count) payload => rfl
  | .replaying (.ended r) payload => rfl
  | .ended r => rfl

theorem resumed_of_ended {r : Except Failure Unit} (h : t.sending = .ended r) : t.resumed = t := by
  obtain ⟨c, s, l⟩ := t
  cases h
  rfl

theorem length_dispatches (t : Round) :
    t.dispatches.length = t.log.posts.length + (t.log.underway t.sending).toList.length := by
  simp [dispatches]

theorem dispatches_of_ended {r : Except Failure Unit} (h : t.sending = .ended r) :
    t.dispatches.length = t.log.posts.length := by
  simp [length_dispatches, h, underway]

theorem length_dispatches_resumed (t : Round) :
    t.dispatches.length ≤ t.resumed.dispatches.length := by
  obtain ⟨c, s, l⟩ := t
  match s with
  | .replaying (.pausing count) payload =>
    have hposts : (resumed ⟨c, .replaying (.pausing count) payload, l⟩).log.posts = l.posts :=
      posts_paused l _
    rw [length_dispatches, length_dispatches, hposts]
    exact Nat.add_le_add_left (Nat.zero_le _) _
  | .replaying (.posting parcel count) payload => exact Nat.le_refl _
  | .replaying (.ended r) payload => exact Nat.le_refl _
  | .posting payload => exact Nat.le_refl _
  | .ended r => exact Nat.le_refl _

/-- What a move of a pipeline makes of the courier's part: the last two need that no delivery is in
progress; a worker that goes on forgets how the last one has ended. -/
inductive Continues (t : Round) : Round → Prop where
  | stay : Continues t t
  | answer (r : Except Failure Unit) : Continues t (t.answered r)
  | resume : Continues t t.resumed
  | send (rules : RuleBook) (batch : Batch) {r : Except Failure Unit}
      (ended : t.sending = .ended r) : Continues t (t.send rules batch)
  | settle {r : Except Failure Unit} (ended : t.sending = .ended r) :
      Continues t ⟨t.courier, .ended (.ok ()), t.log⟩

section Continues

variable {t' call : Round} {first : Nat}

theorem Continues.log_grows (h : t.Continues t') :
    t.log.posts <+: t'.log.posts ∧ t.log.consignments <+: t'.log.consignments := by
  cases h with
  | stay => exact ⟨List.prefix_rfl, List.prefix_rfl⟩
  | answer r =>
    simp only [answered, posts_answered, consignments_answered]
    exact ⟨List.prefix_append .., List.prefix_rfl⟩
  | resume =>
    simp only [resumed, posts_paused, consignments_paused]
    exact ⟨List.prefix_rfl, List.prefix_rfl⟩
  | send rules batch ended =>
    simp only [Round.send, posts_sent, consignments_sent]
    exact ⟨List.prefix_rfl, List.prefix_append ..⟩
  | settle ended => exact ⟨List.prefix_rfl, List.prefix_rfl⟩

/-- The posts from some number on are delivered, and all batches handed over since a moment can be
written. -/
structure Thriving (call : Round) (first : Nat) (l : Logbook) : Prop where
  delivered : ∀ q ∈ l.posts.drop first, q.isDelivered
  written : ∀ x ∈ l.consignments.drop call.log.consignments.length,
    ∃ payload, call.courier.write x.rules x.batch = .ok payload

theorem Thriving.earlier {l l' : Logbook} (h : call.Thriving first l')
    (hp : l.posts <+: l'.posts ∧ l.consignments <+: l'.consignments) : call.Thriving first l :=
  ⟨fun q hq => h.delivered q ((List.IsPrefix.drop hp.1 _).subset hq),
    fun x hx => h.written x ((List.IsPrefix.drop hp.2 _).subset hx)⟩

structure Well (call : Round) (first : Nat) (t : Round) : Prop where
  consignments : call.log.consignments.length ≤ t.log.consignments.length
  posted : first ≤ t.log.posts.length
  clean : t.Clean

theorem well_of_delivering (h : ∀ r, t.sending ≠ .ended r) : t.Well t.log.posts.length t := by
  refine ⟨Nat.le_refl _, Nat.le_refl _, ?_⟩
  unfold Clean
  split
  · next hs => exact absurd hs (h _)
  · next hs => exact absurd hs (h _)
  · trivial

/-- From here on the backlog will be empty whenever a delivery has ended. -/
theorem send_well (hs : t.Sound) (hwrite : t.courier.write = call.courier.write)
    (hle : call.log.consignments.length ≤ t.log.consignments.length)
    (hposted : first ≤ t.log.posts.length) {rules : RuleBook} {batch : Batch}
    (ht : call.Thriving first (t.send rules batch).log) :
    call.Well first (t.send rules batch) := by
  have hconsignments : (t.send rules batch).log.consignments =
      t.log.consignments ++ [⟨rules, batch⟩] := consignments_sent t.log t.courier rules batch
  have hposts : (t.send rules batch).log.posts = t.log.posts :=
    posts_sent t.log t.courier rules batch
  have hmem : (⟨rules, batch⟩ : Consignment) ∈
      (t.send rules batch).log.consignments.drop call.log.consignments.length := by
    rw [hconsignments, List.drop_append_of_le_length hle]
    exact List.mem_append_right _ (List.mem_singleton_self _)
  obtain ⟨payload, hpayload⟩ := ht.written _ hmem
  refine ⟨?_, by rwa [hposts], send_clean hs.shelf (hwrite ▸ hpayload)⟩
  rw [hconsignments, List.length_append]
  exact Nat.le_succ_of_le hle

theorem answered_well (h : call.Well first t) (hs : t.Sound) {r : Except Failure Unit}
    (ht : call.Thriving first (t.answered r).log) : call.Well first (t.answered r) := by
  cases hu : t.log.underway t.sending with
  | none => rwa [answered_of_no_post hu]
  | some d =>
    have hposts : (t.answered r).log.posts = t.log.posts ++ [⟨d, r⟩] := by
      have hall := posts_answered t.log t.sending r
      rwa [hu] at hall
    have hmem : (⟨d, r⟩ : Post) ∈ (t.answered r).log.posts.drop first := by
      rw [hposts, List.drop_append_of_le_length h.posted]
      exact List.mem_append_right _ (List.mem_singleton_self _)
    have hok : r = .ok () := by
      have hd := ht.delivered _ hmem
      cases r with
      | ok => rfl
      | error cause => simp [Post.isDelivered] at hd
    have hle := (Continues.answer (t := t) r).log_grows
    exact ⟨Nat.le_trans h.consignments hle.2.length_le, Nat.le_trans h.posted hle.1.length_le,
      hok ▸ answered_clean hs h.clean⟩

theorem Continues.well (hstep : t.Continues t') (h : call.Well first t) (hs : t.Sound)
    (hwrite : t.courier.write = call.courier.write) (ht : call.Thriving first t'.log) :
    call.Well first t' := by
  cases hstep with
  | stay => exact h
  | answer r => exact answered_well h hs ht
  | resume =>
    have hle := (Continues.resume (t := t)).log_grows
    exact ⟨Nat.le_trans h.consignments hle.2.length_le, Nat.le_trans h.posted hle.1.length_le,
      resumed_clean h.clean⟩
  | send rules batch ended => exact send_well hs hwrite h.consignments h.posted ht
  | @settle r ended =>
    refine ⟨h.consignments, h.posted, ?_⟩
    have hclean := h.clean
    rw [Clean, ended] at hclean
    cases r with
    | ok => exact hclean
    | error cause => exact hclean.elim

/-- What a round has come to since a moment: no batch has been handed over, and nothing has changed
if no delivery was in progress; or one has, and all goes well. -/
inductive Course (call t : Round) : Prop where
  | idle (consignments : t.log.consignments.length = call.log.consignments.length)
      (posted : call.dispatches.length ≤ t.dispatches.length)
      (same : (∃ r, call.sending = .ended r) →
        (∃ r, t.sending = .ended r) ∧ t.courier = call.courier ∧ t.log = call.log)
  | handed (more : call.log.consignments.length < t.log.consignments.length)
      (well : call.Well call.dispatches.length t)

theorem Course.refl (t : Round) : t.Course t := .idle rfl (Nat.le_refl _) fun h => ⟨h, rfl, rfl⟩

theorem Course.consignments_le (h : call.Course t) :
    call.log.consignments.length ≤ t.log.consignments.length := by
  cases h with
  | idle consignments posted same => exact Nat.le_of_eq consignments.symm
  | handed more well => exact Nat.le_of_lt more

theorem Continues.course (hstep : t.Continues t') (h : call.Course t) (hs : t.Sound)
    (hwrite : t.courier.write = call.courier.write)
    (ht : call.Thriving call.dispatches.length t'.log) : call.Course t' := by
  cases h with
  | handed more well =>
    exact .handed (Nat.lt_of_lt_of_le more hstep.log_grows.2.length_le)
      (hstep.well well hs hwrite ht)
  | idle consignments posted same =>
    cases hstep with
    | stay => exact .idle consignments posted same
    | answer r =>
      cases hu : t.log.underway t.sending with
      | none =>
        rw [answered_of_no_post hu]
        exact .idle consignments posted same
      | some d =>
        refine .idle ?_ ?_ fun hended => ?_
        · simp only [answered, consignments_answered]
          exact consignments
        · rw [length_dispatches t, hu] at posted
          have hposts : (t.answered r).log.posts.length = t.log.posts.length + 1 := by
            simp [answered, posts_answered, hu]
          rw [length_dispatches (t.answered r), hposts]
          exact Nat.le_trans posted (Nat.le_add_right _ _)
        · obtain ⟨⟨r', hr'⟩, -⟩ := same hended
          rw [hr'] at hu
          cases hu
    | resume =>
      refine .idle ?_ (Nat.le_trans posted t.length_dispatches_resumed) fun hended => ?_
      · simp only [resumed, consignments_paused]
        exact consignments
      · obtain ⟨⟨r, hr⟩, hsame⟩ := same hended
        rw [resumed_of_ended hr]
        exact ⟨⟨r, hr⟩, hsame⟩
    | send rules batch ended =>
      have hle := Nat.le_of_eq consignments.symm
      rw [dispatches_of_ended ended] at posted
      refine .handed ?_ (send_well hs hwrite hle posted ht)
      simp only [Round.send, consignments_sent, List.length_append]
      exact Nat.lt_succ_of_le hle
    | settle ended =>
      refine .idle consignments ?_ fun hended => ⟨⟨_, rfl⟩, (same hended).2⟩
      rw [dispatches_of_ended ended] at posted
      exact Nat.le_trans posted (Nat.le_of_eq (Eq.symm (dispatches_of_ended rfl)))

end Continues

end Round

namespace Chronicle

variable {call c : Chronicle} {first : Nat}

theorem follow_continues (c : Chronicle) {move : Pipeline.Move} (hm : move.IsInner) :
    c.round.Continues (c.follow (c.pipeline.next move)).round := by
  cases c.pipeline.next_works hm with
  | takesOut batch free out courier items evicted =>
    obtain ⟨r, hended⟩ := free.sending
    have hround : (c.follow (c.pipeline.next move)).round =
        ⟨c.pipeline.courier, .ended (.ok ()), c.log⟩ := by
      simp [follow, free.batchOut, out, round, courier, Pipeline.sending_of_batchOut out]
    rw [hround]
    exact .settle (t := c.round) hended
  | handsOver batch out gone courier sending outbox =>
    have hround : (c.follow (c.pipeline.next move)).round =
        c.round.send c.pipeline.rules batch := by
      simp only [follow, out, gone, round, courier, sending]
      rfl
    rw [hround]
    exact .send _ batch (Pipeline.sending_of_batchOut out)
  | clears free still courier outbox =>
    obtain ⟨r, hended⟩ := free.sending
    have hround : (c.follow (c.pipeline.next move)).round =
        ⟨c.pipeline.courier, (c.pipeline.next move).sending, c.log⟩ := by
      simp [follow, free.batchOut, still.batchOut, round, courier]
    rw [hround]
    rcases Pipeline.sending_next free hm with hs | hs
    · rw [hs]
      exact .stay
    · rw [hs]
      exact .settle (t := c.round) hended
  | waits out sending courier outbox =>
    have hlog : (c.follow (c.pipeline.next move)).log = c.log := by
      cases hb : c.pipeline.batchOut? <;> simp [follow, out, hb]
    have hround : (c.follow (c.pipeline.next move)).round = c.round := by
      simp [round, hlog, pipeline_follow, courier, sending]
    rw [hround]
    exact .stay

theorem log_append (c : Chronicle) (e : Event) (now : Nat) : (c.append e now).log = c.log := by
  by_cases hp : (c.pipeline.append e now).2 <;> simp [append, hp]

theorem round_answer (c : Chronicle) (r : Except Failure Unit) :
    (c.next (.answer r)).round = c.round.answered r := by
  obtain ⟨hc, hs, -, -⟩ := c.pipeline.answered_fields r
  simp only [round, next, answered, hc, hs]
  rfl

theorem round_resume (c : Chronicle) : (c.next .resume).round = c.round.resumed := by
  obtain ⟨hc, hs, -, -⟩ := c.pipeline.paused_fields
  simp only [round, next, resumed, hc, hs]
  rfl

theorem next_continues (c : Chronicle) (move : Pipeline.Move) :
    c.round.Continues (c.next move).round := by
  cases move with
  | append e now =>
    have hround : (c.next (.append e now)).round = c.round := by
      obtain ⟨hc, hs, -, -⟩ := c.pipeline.append_fields e now
      simp only [round, next, pipeline_append, hc, hs, c.log_append e now]
    rw [hround]
    exact .stay
  | answer r =>
    rw [round_answer]
    exact .answer r
  | resume =>
    rw [round_resume]
    exact .resume
  | govern rules => exact c.follow_continues (.govern rules)
  | wake => exact c.follow_continues .wake
  | cancel => exact c.follow_continues .cancel
  | work now => exact c.follow_continues (.work now)

theorem log_run_grows (c : Chronicle) (moves : List Pipeline.Move) :
    c.log.posts <+: (c.run moves).log.posts ∧
    c.log.consignments <+: (c.run moves).log.consignments := by
  induction moves generalizing c with
  | nil => exact ⟨List.prefix_rfl, List.prefix_rfl⟩
  | cons move moves ih =>
    have hnext := (c.next_continues move).log_grows
    have hrun := ih (c.next move)
    exact ⟨hnext.1.trans hrun.1, hnext.2.trans hrun.2⟩

/-- A step that holds while posts are delivered and batches can be written carries through a run in
which all are. -/
theorem run_thriving {P : Chronicle → Prop}
    (hstep : ∀ c move, Sound c → c.pipeline.courier.write = call.pipeline.courier.write →
      call.round.Thriving first (c.next move).log → move.event? = none → P c → P (c.next move))
    {moves : List Pipeline.Move} (hm : ∀ move ∈ moves, move.event? = none) (hs : c.Sound)
    (hwrite : c.pipeline.courier.write = call.pipeline.courier.write)
    (ht : call.round.Thriving first (c.run moves).log) (h : P c) : P (c.run moves) := by
  induction moves generalizing c with
  | nil => exact h
  | cons move moves ih =>
    have hnext : call.round.Thriving first (c.next move).log :=
      ht.earlier ((c.next move).log_run_grows moves)
    refine ih (c := c.next move) (fun m hmem => hm m (List.mem_cons_of_mem _ hmem))
      (next_sound hs move) ?_ ht (hstep c move hs hwrite hnext (hm move (List.mem_cons_self ..)) h)
    rw [pipeline_next, Pipeline.write_next, hwrite]

/-- A pipeline on its way to the end, seen from the moment when it was told to end. -/
structure Ending (call c : Chronicle) : Prop where
  closing : c.pipeline.Closing (call.log.consignments.length < c.log.consignments.length)
  course : call.round.Course c.round

theorem consignments_work {batch : Batch} (h : c.pipeline.batchOut? = some batch) (now : Nat) :
    (c.next (.work now)).log.consignments.length = c.log.consignments.length + 1 := by
  have hgone : (c.pipeline.work now).1.batchOut? = none := by
    unfold Pipeline.batchOut? at h
    split at h
    · next hw => simp [Pipeline.work, hw, Pipeline.batchOut?]
    · cases h
  have hlog : (c.next (.work now)).log =
      c.log.sent c.pipeline.courier c.pipeline.rules batch := by
    simp [next, Pipeline.next, follow, h, hgone]
  simp [hlog, Logbook.consignments_sent]

theorem ending_next (h : Ending call c) (hs : c.Sound)
    (hwrite : c.pipeline.courier.write = call.pipeline.courier.write) {move : Pipeline.Move}
    (ht : call.round.Thriving call.round.dispatches.length (c.next move).log)
    (hm : move.event? = none) : Ending call (c.next move) where
  closing := by
    have hle := (c.next_continues move).log_grows.2.length_le
    rw [pipeline_next]
    refine Pipeline.next_closing h.closing hm (fun hlt => Nat.lt_of_lt_of_le hlt hle) ?_ ?_
    · rintro batch hout ⟨now, rfl⟩
      rw [consignments_work hout]
      exact Nat.lt_succ_of_le h.course.consignments_le
    · intro hlt cause hfailed
      cases h.course with
      | idle consignments posted same => exact absurd consignments (Nat.ne_of_gt hlt)
      | handed more well =>
        have hsending : c.round.sending = .ended (.error cause) := hfailed
        have hclean := well.clean
        rw [Round.Clean, hsending] at hclean
        exact hclean
  course := (c.next_continues move).course h.course hs.round hwrite ht

theorem cancel_ending (hs : c.Sound) (h : c.pipeline.Ongoing)
    (ht : c.round.Thriving c.round.dispatches.length (c.next .cancel).log) :
    Ending c (c.next .cancel) where
  closing := by
    rw [pipeline_next]
    exact Pipeline.cancel_closing h _
  course := (c.next_continues .cancel).course (.refl _) hs.round rfl ht

theorem ending_run (hs : call.Sound) (h : call.pipeline.Ongoing) {after : List Pipeline.Move}
    (hafter : ∀ move ∈ after, move.event? = none)
    (ht : call.round.Thriving call.round.dispatches.length (call.run (.cancel :: after)).log) :
    Ending call (call.run (.cancel :: after)) := by
  have hgrows := (call.next .cancel).log_run_grows after
  refine run_thriving (c := call.next .cancel)
    (fun _ _ hs hwrite ht hm h => ending_next h hs hwrite ht hm) hafter (next_sound hs .cancel) ?_ ht
    (cancel_ending hs h (ht.earlier hgrows))
  rw [pipeline_next, Pipeline.write_next]

/-- A delivery in progress that goes on well is the beginning of a run in which all goes well. -/
theorem well_run (hs : call.Sound) (hsending : ∀ r, call.pipeline.sending ≠ .ended r)
    {moves : List Pipeline.Move} (hm : ∀ move ∈ moves, move.event? = none)
    (ht : call.round.Thriving call.log.posts.length (call.run moves).log) :
    call.round.Well call.log.posts.length (call.run moves).round :=
  run_thriving (P := fun c => call.round.Well call.log.posts.length c.round)
    (fun c move hs hwrite ht _ h => (c.next_continues move).well h hs.round hwrite ht) hm hs rfl ht
    (Round.well_of_delivering hsending)

theorem ongoing_run (h : c.pipeline.Ongoing) {moves : List Pipeline.Move}
    (hm : .cancel ∉ moves) : (c.run moves).pipeline.Ongoing := by
  induction moves generalizing c with
  | nil => exact h
  | cons move moves ih =>
    have hne : move ≠ .cancel := fun heq => hm (heq ▸ List.mem_cons_self ..)
    refine ih (c := c.next move) ?_ fun hmem => hm (List.mem_cons_of_mem _ hmem)
    rw [pipeline_next]
    exact Pipeline.next_ongoing h hne

theorem backlog_of_clean (hs : c.Sound) (hstopped : c.pipeline.worker = .stopped)
    (hclean : c.round.Clean) : c.pipeline.courier.backlog.isEmpty := by
  have hempty : c.log.shelf.items = [] := by
    have hsending : c.round.sending = .ended (.ok ()) := by
      simp [round, Pipeline.sending, hstopped]
    rwa [Round.Clean, hsending] at hclean
  rw [Backlog.isEmpty, ← hs.shelf, Buffer.isEmpty_map]
  exact Buffer.isEmpty_iff.mpr hempty

/-- At the moment when a pipeline is told to end and ever after, what the worker waits for is the answer to
the post underway. When the worker has stopped, no event came in after that moment, all
posts made after it were delivered and all batches handed over after it could be written, then the
outbox is empty. So is the backlog if there was such a batch, or if a delivery was in progress and
its post under way was delivered too. If there was neither, no post has been made and the backlog
is as it was. -/
theorem nothing_left_at_end (s : Settings) (codec : Codec) (redactor : Redactor) (capacity : Nat)
    (pause : Duration) (identity : IdentitySource) (rules : RuleBook)
    (before after : List Pipeline.Move) (hbefore : .cancel ∉ before)
    (hafter : ∀ move ∈ after, move.event? = none) :
    let call := (start s codec redactor capacity pause identity rules).run before
    let c := call.run (.cancel :: after)
    (∀ moves payload, (call.run moves).pipeline.wait = .answer payload ↔
      ∃ d, (call.run moves).log.underway (call.run moves).pipeline.sending = some d ∧
        d.payload = payload) ∧
    (c.pipeline.worker = .stopped →
      (∀ q ∈ c.log.posts.drop call.round.dispatches.length, q.isDelivered) →
      (∀ x ∈ c.log.consignments.drop call.log.consignments.length,
        ∃ payload, codec (redactor.apply x.rules x.batch) = .ok payload) →
      c.pipeline.pending = 0 ∧
      (call.log.consignments.length < c.log.consignments.length →
        c.pipeline.courier.backlog.isEmpty) ∧
      ((∀ r, call.pipeline.sending ≠ .ended r) →
        (∀ q ∈ c.log.posts.drop call.log.posts.length, q.isDelivered) →
        c.pipeline.courier.backlog.isEmpty) ∧
      (call.log.consignments.length = c.log.consignments.length →
        (∃ r, call.pipeline.sending = .ended r) →
        c.log.posts = call.log.posts ∧
          c.pipeline.courier.backlog = call.pipeline.courier.backlog)) := by
  intro call c
  refine ⟨fun _ _ => wait_eq_answer_iff, fun hstopped hdelivered hwritten => ?_⟩
  have hcall : call.Sound := start_run_sound s codec redactor capacity pause identity rules before
  have hc : c.Sound := run_sound hcall (.cancel :: after)
  have hongoing : call.pipeline.Ongoing := ongoing_run (Pipeline.start_ongoing ..) hbefore
  have hwritten : ∀ x ∈ c.log.consignments.drop call.round.log.consignments.length,
      ∃ payload, call.round.courier.write x.rules x.batch = .ok payload := by
    intro x hx
    obtain ⟨payload, hp⟩ := hwritten x hx
    have hwrite := start_run_write s codec redactor capacity pause identity rules before
    exact ⟨payload, (congrFun (congrFun hwrite x.rules) x.batch).trans hp⟩
  have hending : Ending call c := ending_run hcall hongoing hafter ⟨hdelivered, hwritten⟩
  refine ⟨?_, fun hlt => ?_, fun hsending hall => ?_, fun heq hended => ?_⟩
  · have hclosing := hending.closing.2
    rwa [hstopped] at hclosing
  · cases hending.course with
    | idle consignments posted same => exact absurd consignments (Nat.ne_of_gt hlt)
    | handed more well => exact backlog_of_clean hc hstopped well.clean
  · have hwell : call.round.Well call.log.posts.length c.round :=
      well_run hcall hsending (List.forall_mem_cons.mpr ⟨rfl, hafter⟩) ⟨hall, hwritten⟩
    exact backlog_of_clean hc hstopped hwell.clean
  · cases hending.course with
    | idle consignments posted same =>
      obtain ⟨-, hcourier, hlog⟩ := same hended
      have hcourier : c.pipeline.courier = call.pipeline.courier := hcourier
      have hlog : c.log = call.log := hlog
      rw [hcourier, hlog]
      exact ⟨rfl, rfl⟩
    | handed more well => exact absurd heq (Nat.ne_of_lt more)

def failing : List Pipeline.Move :=
  [.append (.ofMessage .info "text" 0) 0, .wake, .work 0, .work 0, .answer (.error (.io "reset")),
    .work 0, .work 0]

theorem nothing_left_of_two :
    let call := (start {} (Format.json.codec false) {} 20 0 .nobody []).run
      (failing ++ [.append (.ofMessage .info "more" 0) 0])
    let c := call.run [.cancel, .work 0, .work 0, .answer (.ok ()), .answer (.ok ()), .work 0,
      .work 0]
    call.pipeline.courier.backlog.size = 1 ∧ call.pipeline.pending = 1 ∧
      c.pipeline.pending = 0 ∧ c.pipeline.courier.backlog.isEmpty := by
  have hleft := (nothing_left_at_end {} (Format.json.codec false) {} 20 0 .nobody []
    (failing ++ [.append (.ofMessage .info "more" 0) 0])
    [.work 0, .work 0, .answer (.ok ()), .answer (.ok ()), .work 0, .work 0]
    (by simp [failing]) (by simp [Pipeline.Move.event?])).2 (by rfl) (by decide)
    (fun _ _ => ⟨_, rfl⟩)
  exact ⟨by decide, by decide, hleft.1, hleft.2.1 (by decide)⟩

/-- A last flush that finds no events leaves what failed before. So does one whose batch cannot be
written. -/
theorem backlog_left_at_end :
    (¬ ∀ (s : Settings) (codec : Codec) (redactor : Redactor) (capacity : Nat) (pause : Duration)
      (identity : IdentitySource) (rules : RuleBook) (before after : List Pipeline.Move),
      .cancel ∉ before → (∀ move ∈ after, move.event? = none) →
      let call := (start s codec redactor capacity pause identity rules).run before
      let c := call.run (.cancel :: after)
      c.pipeline.worker = .stopped →
      (∀ q ∈ c.log.posts.drop call.round.dispatches.length, q.isDelivered) →
      c.pipeline.pending = 0 ∧ c.pipeline.courier.backlog.isEmpty) ∧
    ¬ ∀ (s : Settings) (codec : Codec) (redactor : Redactor) (capacity : Nat) (pause : Duration)
      (identity : IdentitySource) (rules : RuleBook) (before after : List Pipeline.Move),
      .cancel ∉ before → (∀ move ∈ after, move.event? = none) →
      let call := (start s codec redactor capacity pause identity rules).run before
      let c := call.run (.cancel :: after)
      c.pipeline.worker = .stopped →
      (∀ q ∈ c.log.posts.drop call.round.dispatches.length, q.isDelivered) →
      call.log.consignments.length < c.log.consignments.length →
      c.pipeline.courier.backlog.isEmpty := by
  constructor
  · intro h
    have hleft := h {} (Format.json.codec false) {} 20 0 .nobody [] failing [.work 0]
      (by simp [failing]) (by simp [Pipeline.Move.event?]) (by rfl) (by decide)
    exact absurd hleft.2 (by decide)
  · intro h
    have hleft := h {}
      (fun b => if b.size = 1 then .ok ⟨.json "", false, 1⟩ else .error "too long") {} 20 0 .nobody
      [] (failing ++ [.append (.ofMessage .info "a" 0) 0, .append (.ofMessage .info "b" 0) 0])
      [.work 0, .work 0, .work 0, .work 0] (by simp [failing]) (by simp [Pipeline.Move.event?])
      (by rfl) (by decide) (by decide)
    exact absurd hleft (by decide)

end Chronicle
end LogDelivery
