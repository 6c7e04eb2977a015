import LogDelivery.Proofs.Completion
import LogDelivery.Rehearsal

/-!
# Rehearsals keep a timetable

A rehearsal is one of the ways in which things can happen to a pipeline: whoever takes the posts and
however long the answers take, there is a timetable of the same pipeline on the same clock, and the calls to
shut down have the answers that are in it.
-/
namespace LogDelivery

namespace Rehearsal

inductive Step where
  | append (e : Event)
  | advance (millis : Nat)
  | addRule (label pattern : String)
  | removeRule (label : String)
  | shutdown

variable {σ : Type} [Peer σ]

def step (s : Rehearsal σ × List (Except PipelineError Unit)) :
    Step → Rehearsal σ × List (Except PipelineError Unit)
  | .append e => ((s.1.append e).1, s.2)
  | .advance millis => (s.1.advance millis, s.2)
  | .addRule label pattern => ((s.1.addRule label pattern).1, s.2)
  | .removeRule label => ((s.1.removeRule label).1, s.2)
  | .shutdown => (s.1.shutdown.1, s.2 ++ [s.1.shutdown.2])

def run (s : Rehearsal σ) (steps : List Step) : Rehearsal σ × List (Except PipelineError Unit) :=
  steps.foldl step (s, [])

end Rehearsal

namespace Timetable

variable {σ : Type} [Peer σ] {t u v : Timetable} {s : Rehearsal σ}

def answers (t : Timetable) : List (Except PipelineError Unit) :=
  (t.call.bind (·.answer)).toList ++ t.later

/-- Something happens that does not concern the calls to shut down. -/
structure Leads (t u : Timetable) : Prop where
  run : ∃ moves, t.run moves = u
  call : u.call = t.call
  later : u.later = t.later
  shutdownTimeout : u.shutdownTimeout = t.shutdownTimeout

theorem Leads.refl (t : Timetable) : t.Leads t := ⟨⟨[], rfl⟩, rfl, rfl, rfl⟩

theorem Leads.trans (h : t.Leads u) (h' : u.Leads v) : t.Leads v := by
  obtain ⟨moves, rfl⟩ := h.run
  obtain ⟨more, rfl⟩ := h'.run
  exact ⟨⟨moves ++ more, t.run_append moves more⟩, h'.call.trans h.call, h'.later.trans h.later,
    h'.shutdownTimeout.trans h.shutdownTimeout⟩

theorem leads_woken (t : Timetable) : t.Leads t.woken := by
  refine ⟨⟨[.ofPipeline .wake], rfl⟩, ?_, ?_, ?_⟩ <;> unfold woken <;> split <;> simp

theorem leads_worked (t : Timetable) (now : Nat) : t.Leads (t.worked now) := by
  refine ⟨⟨[.ofPipeline (.work now)], rfl⟩, ?_, ?_, ?_⟩ <;> unfold worked <;> split <;> simp

theorem leads_answered (t : Timetable) (r : Except Failure Unit) :
    t.Leads { t with pipeline := (t.pipeline.answered r).1 } :=
  ⟨⟨[.ofPipeline (.answer r)], rfl⟩, rfl, rfl, rfl⟩

theorem leads_paused (t : Timetable) : t.Leads { t with pipeline := t.pipeline.paused.1 } :=
  ⟨⟨[.ofPipeline .resume], rfl⟩, rfl, rfl, rfl⟩

theorem leads_crashed {payload : Payload} (h : t.pipeline.wait = .answer payload) :
    t.Leads { t with pipeline := t.pipeline.crash } :=
  ⟨⟨[.crash], by simp [run, next, crashed, h]⟩, rfl, rfl, rfl⟩

theorem leads_passed {clock : Nat} (hle : t.clock ≤ clock)
    (hdue : t.pipeline.worker = .sleeping → clock ≤ max t.clock t.due) :
    t.Leads { t with clock } := by
  by_cases hsame : clock = t.clock
  · rw [hsame]
    exact Leads.refl t
  · refine ⟨⟨[.pass (clock - t.clock)], ?_⟩, rfl, rfl, rfl⟩
    have hnot : ¬ (t.pipeline.phase = .asleep ∧ t.due < clock) := by
      rintro ⟨hp, hlt⟩
      have hclock := hdue (Pipeline.phase_eq_asleep_iff.mp hp)
      omega
    simp only [run, List.foldl_cons, List.foldl_nil, next, passed, Nat.add_sub_cancel' hle,
      if_neg hnot]

/-- A worker that sleeps has just gone to sleep. -/
def Fresh (t : Timetable) : Prop :=
  t.pipeline.worker = .sleeping → t.due = t.clock + Duration.ticks t.pipeline.pace.delay

theorem fresh_of_awake (h : t.pipeline.worker ≠ .sleeping) : t.Fresh := fun hw => absurd hw h

theorem entered_fresh (t : Timetable) : t.entered.Fresh := by
  intro hw
  rw [entered_pipeline] at hw
  rw [entered_asleep hw]

theorem worked_fresh (h : t.pipeline.isBusy = true) (now : Nat) : (t.worked now).Fresh := by
  have hawake : t.pipeline.worker ≠ .sleeping := fun hw => by simp [Pipeline.isBusy, hw] at h
  unfold worked
  split
  · exact entered_fresh _
  · next hr =>
    exact fresh_of_awake ((Pipeline.work_samePhase hr now).awake hawake)

theorem workOn_leads (h : t.Fresh) (n now : Nat) :
    ∃ u, t.Leads u ∧ u.pipeline = (t.pipeline.workOn n now).1 ∧ u.clock = t.clock ∧ u.Fresh := by
  induction n generalizing t with
  | zero => exact ⟨t, .refl t, rfl, rfl, h⟩
  | succ n ih =>
    by_cases hb : t.pipeline.isBusy = true
    · obtain ⟨u, hleads, hpipeline, hclock, hfresh⟩ := ih (worked_fresh hb now)
      refine ⟨u, (t.leads_worked now).trans hleads, ?_, ?_, hfresh⟩
      · rw [hpipeline, worked_pipeline, Pipeline.workOn, if_pos hb]
      · rw [hclock, worked_clock]
    · refine ⟨t, .refl t, ?_, rfl, h⟩
      rw [Pipeline.workOn, if_neg hb]

omit [Peer σ]

structure Follows (t : Timetable) (s : Rehearsal σ) : Prop where
  pipeline : t.pipeline = s.pipeline
  clock : t.clock = s.clock
  shutdownTimeout : t.shutdownTimeout = s.shutdownTimeout
  joined : s.joined = t.call.isSome

/-- The timers agree as well. -/
structure Tracks (t : Timetable) (s : Rehearsal σ) : Prop extends t.Follows s where
  timer : s.pipeline.worker = .sleeping → s.timer = some t.due

theorem Follows.tracks_of_awake (h : t.Follows s) (hw : s.pipeline.worker ≠ .sleeping) :
    t.Tracks s := ⟨h, fun hs => absurd hs hw⟩

theorem Follows.leads (h : t.Follows s) (hleads : t.Leads u) {s' : Rehearsal σ}
    (hpipeline : u.pipeline = s'.pipeline) (hclock : u.clock = s'.clock)
    (htimeout : s'.shutdownTimeout = s.shutdownTimeout) (hjoined : s'.joined = s.joined) :
    u.Follows s' := by
  refine ⟨hpipeline, hclock, ?_, ?_⟩
  · rw [hleads.shutdownTimeout, h.shutdownTimeout, htimeout]
  · rw [hjoined, h.joined, hleads.call]

theorem Follows.answered (h : t.Follows s) (r : Except Failure Unit) :
    Follows { t with pipeline := (t.pipeline.answered r).1 } (s.moved (s.pipeline.answered r)) :=
  h.leads (t.leads_answered r) (congrArg (fun p => (p.answered r).1) h.pipeline) h.clock rfl rfl

theorem Follows.paused (h : t.Follows s) :
    Follows { t with pipeline := t.pipeline.paused.1 } (s.moved s.pipeline.paused) :=
  h.leads t.leads_paused (congrArg (fun p => p.paused.1) h.pipeline) h.clock rfl rfl

variable [Peer σ]

theorem settle_leads (fuel : Nat) {t : Timetable} {s : Rehearsal σ} (h : t.Follows s)
    (hawake : s.pipeline.worker ≠ .sleeping) :
    ∃ u, t.Leads u ∧ u.clock = t.clock ∧ u.Tracks (s.settle fuel) := by
  -- each turn begins with a worker that is awake, so that no timer is set yet
  induction fuel generalizing t s with
  | zero => exact ⟨t, .refl t, rfl, h.tracks_of_awake hawake⟩
  | succ fuel ih =>
    have hfresh : t.Fresh := fresh_of_awake (h.pipeline ▸ hawake)
    obtain ⟨u, hleads, hpipeline, hclock, hu⟩ := workOn_leads hfresh Pipeline.maxMoves s.wallClock
    rw [h.pipeline] at hpipeline
    have hfollows : u.Follows (s.moved (s.pipeline.workOn Pipeline.maxMoves s.wallClock)) :=
      h.leads hleads hpipeline (hclock.trans h.clock) rfl rfl
    rw [Rehearsal.settle]
    generalize s.moved (s.pipeline.workOn Pipeline.maxMoves s.wallClock) = s' at hfollows ⊢
    obtain ⟨hp, hc, ht, hj⟩ := hfollows
    dsimp only
    split
    · next payload hpost =>
      have hawake : s'.pipeline.worker ≠ .sleeping := Pipeline.awake_of_wait (by simp [hpost])
      obtain ⟨move, peer, said⟩ := Peer.post s'.peer payload
      cases move with
      | answer r =>
        obtain ⟨v, hv, hvclock, htracks⟩ := ih
          (Follows.answered (s := { s' with peer, notices := s'.notices ++ said, timer := none })
            ⟨hp, hc, ht, hj⟩ r)
          ((s'.pipeline.answered_samePhase r).awake hawake)
        exact ⟨v, (hleads.trans (u.leads_answered r)).trans hv, hvclock.trans hclock, htracks⟩
      | late after r => exact ⟨u, hleads, hclock, ⟨hp, hc, ht, hj⟩, fun hw => absurd hw hawake⟩
      | silence => exact ⟨u, hleads, hclock, ⟨hp, hc, ht, hj⟩, fun hw => absurd hw hawake⟩
      | crash =>
        have hcrash := leads_crashed (hp ▸ hpost)
        refine ⟨_, hleads.trans hcrash, hclock, ⟨congrArg Pipeline.crash hp, hc, ht, hj⟩, ?_⟩
        intro hw
        cases hw
    · next length hpause =>
      have hawake : s'.pipeline.worker ≠ .sleeping := Pipeline.awake_of_wait (by simp [hpause])
      split
      · obtain ⟨v, hv, hvclock, htracks⟩ := ih (Follows.paused ⟨hp, hc, ht, hj⟩)
          (s'.pipeline.paused_samePhase.awake hawake)
        exact ⟨v, (hleads.trans u.leads_paused).trans hv, hvclock.trans hclock, htracks⟩
      · exact ⟨u, hleads, hclock, ⟨hp, hc, ht, hj⟩, fun hw => absurd hw hawake⟩
    · split
      · next hw =>
        refine ⟨u, hleads, hclock, ⟨hp, hc, ht, hj⟩, fun _ => ?_⟩
        rw [hu (hp ▸ hw), hc, hp]
      · next hw => exact ⟨u, hleads, hclock, ⟨hp, hc, ht, hj⟩, fun hs => absurd hs hw⟩

theorem fire_leads (h : t.Tracks s) (hdue : s.pipeline.worker = .sleeping → t.due ≤ t.clock) :
    ∃ u, t.Leads u ∧ u.clock = t.clock ∧ u.Tracks s.fire := by
  obtain ⟨⟨hp, hc, ht, hj⟩, htimer⟩ := h
  unfold Rehearsal.fire
  split
  · next hw =>
    have hasleep : t.pipeline.phase = .asleep := Pipeline.phase_eq_asleep_iff.mpr (hp ▸ hw)
    have hwoken : t.woken = entered { t with pipeline := t.pipeline.wake } := by
      rw [woken, if_pos ⟨hasleep, hdue hw⟩]
    have hclock : t.woken.clock = t.clock := by rw [hwoken, entered_clock]
    have hpipeline : t.woken.pipeline = s.pipeline.wake := by
      rw [hwoken, entered_pipeline, ← hp]
    have hfollows : t.woken.Follows (s.moved (s.pipeline.wake, [])) :=
      Follows.leads ⟨hp, hc, ht, hj⟩ t.leads_woken hpipeline (hclock.trans hc) rfl rfl
    obtain ⟨u, hu, huclock, htracks⟩ := settle_leads s.fuel hfollows (by
      simp [Rehearsal.moved, Pipeline.wake, hw])
    exact ⟨u, t.leads_woken.trans hu, huclock.trans hclock, htracks⟩
  · next r hr hw =>
    have hfollows := Follows.answered (s := { s with expected := none }) ⟨hp, hc, ht, hj⟩ r
    obtain ⟨u, hu, huclock, htracks⟩ := settle_leads s.fuel hfollows
      ((s.pipeline.answered_samePhase r).awake hw)
    exact ⟨u, (t.leads_answered r).trans hu, huclock, htracks⟩
  · next hw =>
    obtain ⟨u, hu, huclock, htracks⟩ := settle_leads s.fuel (Follows.paused ⟨hp, hc, ht, hj⟩)
      (s.pipeline.paused_samePhase.awake hw)
    exact ⟨u, t.leads_paused.trans hu, huclock, htracks⟩

theorem elapse_leads (limit fuel : Nat) {t : Timetable} {s : Rehearsal σ} (h : t.Tracks s) :
    ∃ u, t.Leads u ∧ (t.clock ≤ limit → u.clock ≤ limit) ∧
      u.Tracks (Rehearsal.elapse limit fuel s) := by
  induction fuel generalizing t s with
  | zero => exact ⟨t, .refl t, id, h⟩
  | succ fuel ih =>
    rw [Rehearsal.elapse]
    split
    · exact ⟨t, .refl t, id, h⟩
    · next due hdue =>
      split
      · next hlt =>
        have hsleep : s.pipeline.worker = .sleeping → t.due = due := by
          intro hw
          have htimer := h.timer hw
          rw [hdue] at htimer
          exact (Option.some.inj htimer).symm
        have hpass : t.Leads { t with clock := max t.clock due } := by
          apply leads_passed (Nat.le_max_left _ _)
          intro hw
          rw [h.pipeline] at hw
          rw [hsleep hw]
        have htracks : Tracks { t with clock := max t.clock due }
            ({ s with clock := max s.clock due } : Rehearsal σ) :=
          ⟨⟨h.pipeline, congrArg (max · due) h.clock, h.shutdownTimeout, h.joined⟩, h.timer⟩
        obtain ⟨u, hu, huclock, hufire⟩ := fire_leads htracks (by
          intro hw
          rw [hsleep hw]
          exact Nat.le_max_right _ _)
        obtain ⟨v, hv, hvclock, hvtracks⟩ := ih hufire
        refine ⟨v, (hpass.trans hu).trans hv, ?_, hvtracks⟩
        intro hle
        apply hvclock
        rw [huclock]
        exact Nat.max_le.mpr ⟨hle, Nat.le_of_lt hlt⟩
      · exact ⟨t, .refl t, id, h⟩

theorem advance_leads (h : t.Tracks s) (millis : Nat) :
    ∃ u, t.Leads u ∧ u.Tracks (s.advance millis) := by
  unfold Rehearsal.advance
  split
  · exact ⟨t, .refl t, h⟩
  · obtain ⟨u, hu, -, htracks⟩ := elapse_leads (s.clock + millis) (millis + 2) h
    dsimp only
    generalize Rehearsal.elapse (s.clock + millis) (millis + 2) s = s' at htracks ⊢
    obtain ⟨⟨hp, hc, ht, hj⟩, htimer⟩ := htracks
    have hpass : u.Leads { u with
        clock := max s'.clock (min (s.clock + millis) (s'.timer.getD (s.clock + millis))) } := by
      apply leads_passed
      · rw [hc]
        exact Nat.le_max_left _ _
      · intro hw
        rw [hp] at hw
        rw [htimer hw, hc, Option.getD_some]
        omega
    exact ⟨_, hu.trans hpass, ⟨hp, rfl, ht, hj⟩, htimer⟩

/-- A timetable of a rehearsal in which the calls to shut down have had these answers. -/
structure Keeps (t : Timetable) (s : Rehearsal σ × List (Except PipelineError Unit)) : Prop where
  tracks : t.Tracks s.1
  answers : t.answers = s.2

omit [Peer σ] in
theorem shutDown_again (h : t.Tracks s) {call : ShutdownCall} (hcall : t.call = some call) :
    t.shutDown.Tracks (s.moved (s.pipeline.cancel, [])) ∧
      t.shutDown.answers = t.answers ++ [.ok ()] := by
  have hshut : t.shutDown = { t.cancelled with later := t.later ++ [.ok ()] } := by
    simp only [shutDown, hcall]
  rw [hshut]
  refine ⟨⟨⟨?_, ?_, ?_, ?_⟩, fun hw => absurd hw (Pipeline.cancel_awake _)⟩, ?_⟩
  · exact (t.cancelled_pipeline).trans (congrArg Pipeline.cancel h.pipeline)
  · exact (t.cancelled_clock).trans h.clock
  · exact (t.cancelled_shutdownTimeout).trans h.shutdownTimeout
  · exact h.joined.trans (congrArg Option.isSome t.cancelled_call.symm)
  · simp [answers, cancelled_call]

omit [Peer σ] in
theorem shutDown_first (h : t.Tracks s) (hcall : t.call = none) :
    t.shutDown.Tracks { s.moved (s.pipeline.cancel, []) with joined := true } ∧
      t.shutDown.call = some ⟨t.clock, none⟩ ∧ t.shutDown.later = t.later := by
  have hshut : t.shutDown = { t.cancelled with call := some ⟨t.clock, none⟩ } := by
    simp only [shutDown, hcall]
  rw [hshut]
  refine ⟨⟨⟨?_, ?_, ?_, rfl⟩, fun hw => absurd hw (Pipeline.cancel_awake _)⟩, rfl, t.cancelled_later⟩
  · exact (t.cancelled_pipeline).trans (congrArg Pipeline.cancel h.pipeline)
  · exact (t.cancelled_clock).trans h.clock
  · exact (t.cancelled_shutdownTimeout).trans h.shutdownTimeout

theorem waitFor_leads (h : t.Tracks s) (hawake : s.pipeline.worker ≠ .sleeping)
    (wasSleeping : Bool) (ticks : Nat) :
    ∃ u, t.Leads u ∧ u.clock ≤ t.clock + ticks ∧ u.Tracks (s.waitFor wasSleeping ticks) := by
  unfold Rehearsal.waitFor
  split
  · exact ⟨t, .refl t, Nat.le_add_right _ _, h⟩
  · have hwoken : ∃ u, t.Leads u ∧ u.clock = t.clock ∧
        u.Tracks (if wasSleeping then s.settle s.fuel else s) := by
      cases wasSleeping with
      | true => exact settle_leads s.fuel h.toFollows hawake
      | false => exact ⟨t, .refl t, rfl, h⟩
    obtain ⟨u, hu, huclock, hutracks⟩ := hwoken
    obtain ⟨v, hv, hvclock, hvtracks⟩ := elapse_leads (s.clock + ticks) (ticks + 2) hutracks
    refine ⟨v, hu.trans hv, ?_, hvtracks⟩
    rw [h.clock]
    apply hvclock
    rw [huclock, h.clock]
    exact Nat.le_add_right _ _

theorem polled_done {time : Nat} (hcall : t.call = some ⟨time, none⟩)
    (hdone : t.pipeline.isDone = true) :
    t.polled = { t with call := some ⟨time, some (.ok ())⟩ } := by
  simp only [polled, hcall, hdone, if_true]

theorem polled_aborts {time : Nat} (hcall : t.call = some ⟨time, none⟩)
    (hbusy : t.pipeline.isDone = false)
    (hlimit : time + Duration.ticks t.shutdownTimeout ≤ t.clock) :
    t.polled = { t with
      pipeline := t.pipeline.abort, call := some ⟨time, some (.error .shutdownTimeout)⟩ } := by
  simp only [polled, hcall, hbusy, hlimit, if_true, Bool.false_eq_true, if_false]

omit [Peer σ] in
theorem conclude_reached (h : t.Tracks s) {time : Nat} (hcall : t.call = some ⟨time, none⟩)
    (hnot : t.pipeline.worker ≠ .aborted) (hawake : t.pipeline.worker ≠ .sleeping)
    (hle : t.clock ≤ time + Duration.ticks t.shutdownTimeout) :
    ∃ moves, (t.run moves).Tracks (s.conclude (time + Duration.ticks t.shutdownTimeout)).1 ∧
      (t.run moves).call =
        some ⟨time, some (s.conclude (time + Duration.ticks t.shutdownTimeout)).2⟩ ∧
      (t.run moves).later = t.later := by
  obtain ⟨⟨hp, hc, ht, hj⟩, htimer⟩ := h
  have hdone : t.pipeline.isDone = true → ∀ notices,
      (t.run [.poll]).Tracks (s.moved (s.pipeline, notices)) ∧
      (t.run [.poll]).call = some ⟨time, some (.ok ())⟩ ∧ (t.run [.poll]).later = t.later := by
    intro hdone notices
    have hrun : t.run [.poll] = { t with call := some ⟨time, some (.ok ())⟩ } :=
      polled_done hcall hdone
    rw [hrun]
    refine ⟨⟨⟨hp, hc, ht, ?_⟩, htimer⟩, rfl, rfl⟩
    exact hj.trans (by rw [hcall]; rfl)
  unfold Rehearsal.conclude
  split
  · next hw => exact ⟨[.poll], hdone (by rw [hp]; simp [Pipeline.isDone, hw]) _⟩
  · next hw => exact ⟨[.poll], hdone (by rw [hp]; simp [Pipeline.isDone, hw]) _⟩
  · next hstopped hcrashed =>
    have hbusy : t.pipeline.isDone = false := by
      rw [← hp] at hstopped hcrashed
      cases hw : t.pipeline.worker <;> simp_all [Pipeline.isDone]
    have hpass := leads_passed hle (fun hw => absurd hw hawake)
    obtain ⟨moves, hmoves⟩ := hpass.run
    refine ⟨moves ++ [.poll], ?_⟩
    rw [run_append, hmoves]
    have hrun := polled_aborts
      (t := { t with clock := time + Duration.ticks t.shutdownTimeout }) hcall hbusy (Nat.le_refl _)
    simp only [run, List.foldl_cons, List.foldl_nil, next]
    rw [hrun]
    refine ⟨⟨⟨congrArg Pipeline.abort hp, rfl, ht, ?_⟩, ?_⟩, rfl, rfl⟩
    · exact hj.trans (by rw [hcall]; rfl)
    · intro hw
      cases hw

theorem first_shutdown_reached {limits : PaceLimits} (h : t.Tracks s) (hs : t.Sound limits)
    (hcall : t.call = none) (wasSleeping : Bool) :
    let r := (({ s.moved (s.pipeline.cancel, []) with joined := true } : Rehearsal σ).waitFor
      wasSleeping (Duration.ticks s.shutdownTimeout)).conclude
        (s.clock + Duration.ticks s.shutdownTimeout)
    ∃ moves, (t.run moves).Tracks r.1 ∧ (t.run moves).answers = t.answers ++ [r.2] := by
  obtain ⟨htracks, hwaits, hlater⟩ := shutDown_first h hcall
  obtain ⟨u, hu, huclock, hutracks⟩ := waitFor_leads htracks (Pipeline.cancel_awake _) wasSleeping
    (Duration.ticks s.shutdownTimeout)
  obtain ⟨moves, hmoves⟩ := hu.run
  have hucall : u.call = some ⟨t.clock, none⟩ := hu.call.trans hwaits
  have husound : u.Sound limits := by
    rw [← hmoves]
    exact run_sound (shutDown_sound hs) moves
  have hnot : u.pipeline.worker ≠ .aborted := by
    rw [← Pipeline.phase_eq_aborted_iff.ne]
    exact husound.answered.waiting t.clock hucall
  have hawake : u.pipeline.worker ≠ .sleeping := by
    rw [← Pipeline.phase_eq_asleep_iff.ne]
    exact husound.awake (husound.answered.told (by simp [hucall]))
  have htimeout : u.shutdownTimeout = s.shutdownTimeout :=
    hu.shutdownTimeout.trans htracks.shutdownTimeout
  have hle : u.clock ≤ t.clock + Duration.ticks u.shutdownTimeout := by
    have hclock : t.shutDown.clock = t.clock := htracks.clock.trans h.clock.symm
    rw [htimeout, ← hclock]
    exact huclock
  obtain ⟨more, hmtracks, hmcall, hmlater⟩ := conclude_reached hutracks hucall hnot hawake hle
  have hrun : t.run (.shutDown :: (moves ++ more)) = u.run more := by
    rw [← hmoves, ← run_append]
    rfl
  have hnone : t.later = [] := (hs.answered.uncalled hcall).1
  rw [h.clock, htimeout] at hmtracks hmcall
  refine ⟨.shutDown :: (moves ++ more), hrun ▸ hmtracks, ?_⟩
  rw [hrun, answers, hmcall, hmlater, hu.later, hlater, answers, hcall, hnone]
  rfl

theorem shutdown_reached {limits : PaceLimits} (h : t.Tracks s) (hs : t.Sound limits) :
    ∃ moves, (t.run moves).Tracks s.shutdown.1 ∧
      (t.run moves).answers = t.answers ++ [s.shutdown.2] := by
  cases hcall : t.call with
  | some call =>
    have hjoined : s.joined = true := by
      rw [h.joined, hcall]
      rfl
    obtain ⟨htracks, hanswers⟩ := shutDown_again h hcall
    refine ⟨[.shutDown], ?_⟩
    simp only [Rehearsal.shutdown, hjoined, if_true]
    exact ⟨htracks, hanswers⟩
  | none =>
    have hjoined : s.joined = false := by
      rw [h.joined, hcall]
      rfl
    simp only [Rehearsal.shutdown, hjoined, Bool.false_eq_true, if_false]
    exact first_shutdown_reached h hs hcall _

omit [Peer σ] in
theorem tracks_append (h : t.Tracks s) (e : Event) :
    Tracks { t with pipeline := (t.pipeline.append e s.wallClock).1 } (s.append e).1 := by
  obtain ⟨⟨hp, hc, ht, hj⟩, htimer⟩ := h
  exact ⟨⟨congrArg (fun p => (p.append e s.wallClock).1) hp, hc, ht, hj⟩, htimer⟩

omit [Peer σ] in
theorem tracks_rules (h : t.Tracks s) (rules : RuleBook) (notices : List Notice) :
    Tracks { t with pipeline := { t.pipeline with rules } }
      (s.moved ({ s.pipeline with rules }, notices)) := by
  obtain ⟨⟨hp, hc, ht, hj⟩, htimer⟩ := h
  exact ⟨⟨congrArg (fun p : Pipeline => { p with rules }) hp, hc, ht, hj⟩, htimer⟩

theorem step_reached {limits : PaceLimits} {r : Rehearsal σ × List (Except PipelineError Unit)}
    (h : t.Keeps r) (hs : t.Sound limits) (step : Rehearsal.Step) :
    ∃ moves, (t.run moves).Keeps (Rehearsal.step r step) := by
  obtain ⟨s, given⟩ := r
  obtain ⟨htracks, hanswers⟩ := h
  cases step with
  | append e =>
    exact ⟨[.ofPipeline (.append e s.wallClock)], tracks_append htracks e, hanswers⟩
  | advance millis =>
    obtain ⟨u, hu, hutracks⟩ := advance_leads htracks millis
    obtain ⟨moves, rfl⟩ := hu.run
    refine ⟨moves, hutracks, ?_⟩
    rw [answers, hu.call, hu.later]
    exact hanswers
  | addRule label pattern =>
    simp only [Rehearsal.step, Rehearsal.addRule]
    split
    · next rules hrules =>
      exact ⟨[.ofPipeline (.govern rules)], tracks_rules htracks rules _, hanswers⟩
    · exact ⟨[], htracks, hanswers⟩
  | removeRule label =>
    exact ⟨[.ofPipeline (.govern (s.pipeline.rules.remove label))],
      tracks_rules htracks _ _, hanswers⟩
  | shutdown =>
    obtain ⟨moves, hmoves, hmanswers⟩ := shutdown_reached htracks hs
    refine ⟨moves, hmoves, ?_⟩
    rw [hmanswers, hanswers]
    rfl

theorem steps_reached {limits : PaceLimits} {r : Rehearsal σ × List (Except PipelineError Unit)}
    (h : t.Keeps r) (hs : t.Sound limits) (steps : List Rehearsal.Step) :
    ∃ moves, (t.run moves).Keeps (steps.foldl Rehearsal.step r) := by
  induction steps generalizing t r with
  | nil => exact ⟨[], h⟩
  | cons step steps ih =>
    obtain ⟨moves, hmoves⟩ := step_reached h hs step
    obtain ⟨more, hmore⟩ := ih hmoves (run_sound hs moves)
    exact ⟨moves ++ more, (t.run_append moves more).symm ▸ hmore⟩

omit [Peer σ] in
theorem start_keeps (s : Settings) (courier : Courier) (identity : IdentitySource)
    (rules : RuleBook) (peer : σ) (notices : List Notice) :
    (start s courier identity rules).Keeps
      (Rehearsal.start (.start s courier identity rules) peer s.shutdownTimeout notices, []) :=
  ⟨⟨⟨rfl, rfl, rfl, rfl⟩, fun _ => rfl⟩, rfl⟩

end Timetable
end LogDelivery
