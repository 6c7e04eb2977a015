import LogDelivery.Proofs.Timetable

/-!
# The loop of the worker

What every timetable keeps to. Flushes take turns. A cycle begins when the delay of the pace, as the cycles
before it have made it, has passed since the flush before it. Once the pipeline has been told to end, the
cycle under way is finished and exactly one flush follows, unless the worker is lost before that.
-/
namespace LogDelivery.Timetable

def freeAt (ends : List FlushEnd) : Nat := (ends.getLast?.map (·.time)).getD 0

def paceAfter (limits : PaceLimits) (ends : List FlushEnd) : Pace :=
  .run limits (ends.map FlushEnd.cycle)

theorem freeAt_append (ends : List FlushEnd) (stop : FlushEnd) :
    freeAt (ends ++ [stop]) = stop.time := by
  simp [freeAt]

theorem paceAfter_append (limits : PaceLimits) (ends : List FlushEnd) (stop : FlushEnd) :
    paceAfter limits (ends ++ [stop]) =
      (paceAfter limits ends).next (.ofFlush stop.result) stop.now limits := by
  simp only [paceAfter, List.map_append, List.map_singleton, Pace.run_append]
  rfl

theorem getElem?_concat_eq_some {α : Type} {l : List α} {a b : α} {i : Nat} :
    (l ++ [a])[i]? = some b ↔ l[i]? = some b ∨ i = l.length ∧ a = b := by
  rcases Nat.lt_trichotomy i l.length with hlt | rfl | hgt
  · simp [List.getElem?_append_left hlt, Nat.ne_of_lt hlt]
  · simp
  · have hle : (l ++ [a]).length ≤ i := by
      rw [List.length_append, List.length_singleton]
      exact hgt
    simp [List.getElem?_eq_none hle, List.getElem?_eq_none (Nat.le_of_lt hgt), Nat.ne_of_gt hgt]

/-- Flushes take turns, and those that are cycles begin on time. -/
structure Regular (limits : PaceLimits) (starts : List FlushStart) (ends : List FlushEnd)
    (clock : Nat) : Prop where
  begun : ∀ (i : Nat) (stop : FlushEnd), ends[i]? = some stop →
    ∃ start : FlushStart, starts[i]? = some start ∧ start.time ≤ stop.time
  alone : ∀ (i : Nat) (start : FlushStart), starts[i + 1]? = some start →
    ∃ stop : FlushEnd, ends[i]? = some stop ∧ stop.time ≤ start.time
  onTime : ∀ (i : Nat) (start : FlushStart), starts[i]? = some start → start.last = false →
    start.time =
      freeAt (ends.take i) + Duration.ticks (paceAfter limits (ends.take i)).delay
  start_le : ∀ start ∈ starts, start.time ≤ clock
  end_le : ∀ stop ∈ ends, stop.time ≤ clock

namespace Regular

variable {limits : PaceLimits} {starts : List FlushStart} {ends : List FlushEnd} {clock : Nat}

theorem later (h : Regular limits starts ends clock) {time : Nat} (hle : clock ≤ time) :
    Regular limits starts ends time :=
  ⟨h.begun, h.alone, h.onTime, fun s hs => Nat.le_trans (h.start_le s hs) hle,
    fun e he => Nat.le_trans (h.end_le e he) hle⟩

theorem start (h : Regular limits starts ends clock) (heven : starts.length = ends.length)
    {last : Bool} (hdue : last = false →
      clock = freeAt ends + Duration.ticks (paceAfter limits ends).delay) :
    Regular limits (starts ++ [⟨last, clock⟩]) ends clock := by
  constructor
  · intro i stop hstop
    obtain ⟨start, hstart, hle⟩ := h.begun i stop hstop
    exact ⟨start, getElem?_concat_eq_some.mpr (Or.inl hstart), hle⟩
  · intro i start hstart
    rcases getElem?_concat_eq_some.mp hstart with hold | ⟨hi, rfl⟩
    · exact h.alone i start hold
    · have hlt : i < ends.length := by omega
      exact ⟨ends[i], List.getElem?_eq_getElem hlt, h.end_le _ (List.getElem_mem hlt)⟩
  · intro i start hstart hcycle
    rcases getElem?_concat_eq_some.mp hstart with hold | ⟨rfl, rfl⟩
    · exact h.onTime i start hold hcycle
    · rw [heven, List.take_length]
      exact hdue hcycle
  · intro start hstart
    rcases List.mem_append.mp hstart with hold | hnew
    · exact h.start_le start hold
    · rw [List.mem_singleton.mp hnew]
  · exact h.end_le

theorem stop (h : Regular limits starts ends clock) (hodd : starts.length = ends.length + 1)
    (result : Except Failure Nat) (now : Nat) :
    Regular limits starts (ends ++ [⟨result, now, clock⟩]) clock := by
  constructor
  · intro i stop hstop
    rcases getElem?_concat_eq_some.mp hstop with hold | ⟨rfl, rfl⟩
    · exact h.begun i stop hold
    · have hlt : ends.length < starts.length := by omega
      exact ⟨starts[ends.length], List.getElem?_eq_getElem hlt,
        h.start_le _ (List.getElem_mem hlt)⟩
  · intro i start hstart
    obtain ⟨stop, hstop, hle⟩ := h.alone i start hstart
    exact ⟨stop, getElem?_concat_eq_some.mpr (Or.inl hstop), hle⟩
  · intro i start hstart hcycle
    obtain ⟨hlt, -⟩ := List.getElem?_eq_some_iff.mp hstart
    have hi : i ≤ ends.length := by omega
    rw [List.take_append_of_le_length hi]
    exact h.onTime i start hstart hcycle
  · exact h.start_le
  · intro stop hstop
    rcases List.mem_append.mp hstop with hold | hnew
    · exact h.end_le stop hold
    · rw [List.mem_singleton.mp hnew]

end Regular

variable {limits : PaceLimits} {t : Timetable}

/-- The cycles that have ended: a flush that begins after the pipeline was told to end is none. -/
def cycles (t : Timetable) : List FlushEnd := t.ends.take (t.toldAfter.getD t.ends.length)

/-- How many flushes have begun and ended, by what the worker is at. -/
def Counted (t : Timetable) : Prop :=
  match t.pipeline.phase with
  | .asleep =>
    t.starts.length = t.ends.length ∧ t.toldAfter = none ∧ t.clock ≤ t.due ∧
      t.due = freeAt t.ends + Duration.ticks t.pipeline.pace.delay
  | .inFlush last => t.starts.length = t.ends.length + 1 ∧
      ∃ time, t.starts[t.ends.length]? = some ⟨last, time⟩
  | .stopped => t.starts.length = t.ends.length ∧
      ∃ n, t.toldAfter = some n ∧ t.starts.length = n + 1
  | .crashed | .aborted => t.starts.length = t.ends.length + 1

/-- The flushes that began after the pipeline was told to end are last ones: there is one at most.
-/
def Told (t : Timetable) : Prop :=
  match t.toldAfter with
  | none => t.pipeline.cancelled = false ∧ ∀ start ∈ t.starts, start.last = false
  | some n => t.pipeline.cancelled = true ∧ n ≤ t.starts.length ∧ t.starts.length ≤ n + 1 ∧
      ∀ (i : Nat) (start : FlushStart), t.starts[i]? = some start → (start.last = true ↔ n ≤ i)

theorem counted_asleep (hp : t.pipeline.phase = .asleep) :
    t.Counted ↔ t.starts.length = t.ends.length ∧ t.toldAfter = none ∧ t.clock ≤ t.due ∧
      t.due = freeAt t.ends + Duration.ticks t.pipeline.pace.delay := by
  simp only [Counted, hp]

theorem counted_inFlush {last : Bool} (hp : t.pipeline.phase = .inFlush last) :
    t.Counted ↔ t.starts.length = t.ends.length + 1 ∧
      ∃ time, t.starts[t.ends.length]? = some ⟨last, time⟩ := by
  simp only [Counted, hp]

theorem counted_stopped (hp : t.pipeline.phase = .stopped) :
    t.Counted ↔ t.starts.length = t.ends.length ∧
      ∃ n, t.toldAfter = some n ∧ t.starts.length = n + 1 := by
  simp only [Counted, hp]

theorem told_none (hn : t.toldAfter = none) :
    t.Told ↔ t.pipeline.cancelled = false ∧ ∀ start ∈ t.starts, start.last = false := by
  simp only [Told, hn]

theorem told_some {n : Nat} (hn : t.toldAfter = some n) :
    t.Told ↔ t.pipeline.cancelled = true ∧ n ≤ t.starts.length ∧ t.starts.length ≤ n + 1 ∧
      ∀ (i : Nat) (start : FlushStart), t.starts[i]? = some start →
        (start.last = true ↔ n ≤ i) := by
  simp only [Told, hn]

structure Answered (t : Timetable) : Prop where
  uncalled : t.call = none → t.later = [] ∧ t.pipeline.phase ≠ .aborted
  told : t.call ≠ none → t.toldAfter ≠ none
  waiting : ∀ time, t.call = some ⟨time, none⟩ → t.pipeline.phase ≠ .aborted
  ok : ∀ time, t.call = some ⟨time, some (.ok ())⟩ →
    t.pipeline.phase = .stopped ∨ t.pipeline.phase = .crashed
  error : ∀ time e, t.call = some ⟨time, some (.error e)⟩ →
    e = .shutdownTimeout ∧ t.pipeline.phase = .aborted ∧
      time + Duration.ticks t.shutdownTimeout ≤ t.clock
  later : ∀ r ∈ t.later, r = .ok ()

structure Sound (limits : PaceLimits) (t : Timetable) : Prop where
  limits_eq : t.pipeline.limits = limits
  regular : Regular limits t.starts t.ends t.clock
  pace : t.pipeline.pace = paceAfter limits t.cycles
  counted : t.Counted
  told : t.Told
  answered : t.Answered

theorem cycles_untold (h : t.toldAfter = none) : t.cycles = t.ends := by
  simp [cycles, h]

theorem cycles_told {n : Nat} (h : t.toldAfter = some n) : t.cycles = t.ends.take n := by
  simp [cycles, h]

theorem Answered.go_on (h : t.Answered)
    (hp : t.pipeline.phase = .asleep ∨ ∃ last, t.pipeline.phase = .inFlush last) {u : Timetable}
    (hcall : u.call = t.call) (hlater : u.later = t.later)
    (htold : t.toldAfter ≠ none → u.toldAfter ≠ none) (hu : u.pipeline.phase ≠ .aborted) :
    u.Answered := by
  have hunanswered : ∀ time r, t.call ≠ some ⟨time, some r⟩ := by
    intro time r hr
    cases r with
    | ok => rcases hp with hp | ⟨last, hp⟩ <;> simpa [hp] using h.ok time hr
    | error e => rcases hp with hp | ⟨last, hp⟩ <;> simpa [hp] using h.error time e hr
  constructor
  · intro hnone
    rw [hcall] at hnone
    exact ⟨hlater.trans (h.uncalled hnone).1, hu⟩
  · intro hsome
    rw [hcall] at hsome
    exact htold (h.told hsome)
  · exact fun _ _ => hu
  · intro time hr
    rw [hcall] at hr
    exact absurd hr (hunanswered _ _)
  · intro time e hr
    rw [hcall] at hr
    exact absurd hr (hunanswered _ _)
  · rw [hlater]
    exact h.later

theorem start_sound (s : Settings) (courier : Courier) (identity : IdentitySource)
    (rules : RuleBook) : (start s courier identity rules).Sound s.pace := by
  refine ⟨rfl, ⟨?_, ?_, ?_, ?_, ?_⟩, rfl, ⟨rfl, rfl, Nat.zero_le _, ?_⟩, ⟨rfl, ?_⟩, ?_⟩
  all_goals simp [start]
  · simp [freeAt, Pipeline.start]
  · constructor <;> simp [Pipeline.start, Pipeline.phase]

theorem Sound.samePhase (h : t.Sound limits) {q : Pipeline} (hq : t.pipeline.SamePhase q) :
    Sound limits { t with pipeline := q } := by
  refine ⟨hq.limits.trans h.limits_eq, h.regular, hq.pace.trans h.pace, ?_, ?_, ?_⟩
  · simpa only [Counted, hq.phase, hq.pace] using h.counted
  · simpa only [Told, hq.cancelled] using h.told
  · obtain ⟨huncalled, htold, hwaiting, hok, herror, hlater⟩ := h.answered
    constructor <;> simpa only [hq.phase]

theorem passed_sound (h : t.Sound limits) (millis : Nat) : (t.passed millis).Sound limits := by
  unfold passed
  split
  · exact h
  · next hdue =>
    refine ⟨h.limits_eq, h.regular.later (Nat.le_add_right _ _), h.pace, ?_, h.told, ?_⟩
    · have hc := h.counted
      simp only [Counted] at hc ⊢
      split
      · next hp =>
        rw [hp] at hc hdue
        obtain ⟨heven, huntold, -, hfree⟩ := hc
        exact ⟨heven, huntold, Nat.not_lt.mp (fun hlt => hdue ⟨rfl, hlt⟩), hfree⟩
      all_goals
        next hp =>
        rw [hp] at hc
        exact hc
    · obtain ⟨huncalled, htold, hwaiting, hok, herror, hlater⟩ := h.answered
      refine ⟨huncalled, htold, hwaiting, hok, ?_, hlater⟩
      intro time e hcall
      obtain ⟨he, hp, hle⟩ := herror time e hcall
      exact ⟨he, hp, Nat.le_trans hle (Nat.le_add_right _ _)⟩

theorem crashed_sound (h : t.Sound limits) : t.crashed.Sound limits := by
  unfold crashed
  split
  · next payload hwait =>
    obtain ⟨last, hp⟩ := Pipeline.phase_of_wait hwait
    have hodd := ((counted_inFlush hp).mp h.counted).1
    refine ⟨h.limits_eq, h.regular, h.pace, hodd, h.told, ?_⟩
    exact h.answered.go_on (Or.inr ⟨last, hp⟩) rfl rfl id (by simp [Pipeline.phase, Pipeline.crash])
  · exact h

theorem Sound.awake (h : t.Sound limits) (htold : t.toldAfter ≠ none) :
    t.pipeline.phase ≠ .asleep := by
  intro hp
  obtain ⟨-, huntold, -⟩ := (counted_asleep hp).mp h.counted
  exact htold huntold

theorem polled_sound (h : t.Sound limits) : t.polled.Sound limits := by
  obtain ⟨huncalled, htold, hwaiting, hok, herror, hlater⟩ := h.answered
  unfold polled
  split
  · next time hcall =>
    have hnow := htold (by simp [hcall])
    split
    · next hdone =>
      refine ⟨h.limits_eq, h.regular, h.pace, h.counted, h.told, ?_⟩
      refine ⟨by simp, fun _ => hnow, by simp, ?_, by simp, hlater⟩
      intro _ _
      rcases Pipeline.isDone_iff.mp hdone with hp | hp | hp
      · exact Or.inl hp
      · exact Or.inr hp
      · exact absurd hp (hwaiting time hcall)
    · next hbusy =>
      split
      · next hlimit =>
        have hodd : t.starts.length = t.ends.length + 1 := by
          have hawake := h.awake hnow
          rw [Pipeline.isDone_iff] at hbusy
          cases hp : t.pipeline.phase with
          | inFlush last => exact ((counted_inFlush hp).mp h.counted).1
          | _ => simp [hp] at hawake hbusy
        refine ⟨h.limits_eq, h.regular, h.pace, hodd, h.told, ?_⟩
        refine ⟨by simp, fun _ => hnow, by simp, by simp, ?_, hlater⟩
        intro time' e hcall'
        cases hcall'
        exact ⟨rfl, rfl, hlimit⟩
      · exact h
  · exact h

/-- The timer of a worker that sleeps goes off one delay after the flush before. -/
theorem Sound.timer (h : t.Sound limits) (hp : t.pipeline.phase = .asleep) :
    t.toldAfter = none ∧ t.starts.length = t.ends.length ∧ t.clock ≤ t.due ∧
      t.due = freeAt t.ends + Duration.ticks (paceAfter limits t.ends).delay := by
  obtain ⟨heven, huntold, hle, hdue⟩ := (counted_asleep hp).mp h.counted
  have hpace := h.pace
  rw [cycles_untold huntold] at hpace
  exact ⟨huntold, heven, hle, hpace ▸ hdue⟩

theorem Sound.woken_eq (h : t.Sound limits) (hp : t.pipeline.phase = .asleep)
    (hdue : t.due ≤ t.clock) :
    t.woken = { t with
      pipeline := { t.pipeline with worker := .flushing false t.pipeline.outbox.beginFlush }
      starts := t.starts ++ [⟨false, t.clock⟩] } := by
  have hw := Pipeline.phase_eq_asleep_iff.mp hp
  have huntold := ((told_none (h.timer hp).1).mp h.told).1
  have hwake : t.pipeline.wake =
      { t.pipeline with worker := .flushing false t.pipeline.outbox.beginFlush } := by
    simp [Pipeline.wake, hw, huntold]
  rw [woken, if_pos ⟨hp, hdue⟩, hwake, entered_flushing rfl]

theorem passed_to_due (hle : t.clock ≤ t.due) :
    t.passed (t.due - t.clock) = { t with clock := t.due } := by
  have hclock : t.clock + (t.due - t.clock) = t.due := Nat.add_sub_cancel' hle
  rw [passed, hclock, if_neg fun hlt => Nat.lt_irrefl _ hlt.2]

/-- If nothing comes between, the next cycle begins at the time for which the timer was set. -/
theorem Sound.cycle (h : t.Sound limits) (hp : t.pipeline.phase = .asleep) :
    (t.run [.pass (t.due - t.clock), .ofPipeline .wake]).pipeline.phase = .inFlush false ∧
      (t.run [.pass (t.due - t.clock), .ofPipeline .wake]).starts =
        t.starts ++ [⟨false, t.due⟩] := by
  have hle := (h.timer hp).2.2.1
  have hpassed := passed_to_due hle
  have hsound : Sound limits { t with clock := t.due } := hpassed ▸ passed_sound h (t.due - t.clock)
  have hrun : t.run [.pass (t.due - t.clock), .ofPipeline .wake] =
      woken { t with clock := t.due } := congrArg woken hpassed
  rw [hrun, hsound.woken_eq hp (Nat.le_refl _)]
  exact ⟨rfl, rfl⟩

theorem woken_sound (h : t.Sound limits) : t.woken.Sound limits := by
  by_cases hdue : t.pipeline.phase = .asleep ∧ t.due ≤ t.clock
  · obtain ⟨hp, hle⟩ := hdue
    obtain ⟨huntold, heven, hge, hfree⟩ := h.timer hp
    rw [h.woken_eq hp hle]
    obtain ⟨hlimits, hregular, hpace, hcounted, htold, hanswered⟩ := h
    rw [told_none huntold] at htold
    have hclock : t.clock = freeAt t.ends + Duration.ticks (paceAfter limits t.ends).delay :=
      (Nat.le_antisymm hge hle).trans hfree
    refine ⟨hlimits, hregular.start heven (fun _ => hclock), hpace, ?_, ?_, ?_⟩
    · simp [Counted, Pipeline.phase, ← heven]
    · simp only [Told, huntold]
      refine ⟨htold.1, ?_⟩
      intro start hstart
      rcases List.mem_append.mp hstart with hold | hnew
      · exact htold.2 start hold
      · rw [List.mem_singleton.mp hnew]
    · exact hanswered.go_on (Or.inl hp) rfl rfl id (by simp [Pipeline.phase])
  · rw [woken, if_neg hdue]
    exact h

theorem cancelled_of_told (h : t.Sound limits) (htold : t.toldAfter ≠ none) :
    t.cancelled = t := by
  obtain ⟨n, hn⟩ := Option.ne_none_iff_exists'.mp htold
  have hawake := h.awake htold
  have hc := (told_some hn).mp h.told
  have hcancel : t.pipeline.cancel = t.pipeline := by
    have hw : t.pipeline.worker ≠ .sleeping := Pipeline.phase_eq_asleep_iff.ne.mp hawake
    rw [Pipeline.cancel_of_awake hw, ← hc.1]
  have hor : t.toldAfter.or (some t.starts.length) = t.toldAfter := by
    rw [hn]
    rfl
  rw [cancelled, if_neg hawake, hcancel, hor]

theorem told_of_untold {starts : List FlushStart} (h : ∀ start ∈ starts, start.last = false)
    (i : Nat) (start : FlushStart) (hi : starts[i]? = some start) :
    start.last = true ↔ starts.length ≤ i := by
  obtain ⟨hlt, -⟩ := List.getElem?_eq_some_iff.mp hi
  rw [h start (List.mem_of_getElem? hi)]
  simp [hlt]

theorem told_start {starts : List FlushStart} (clock : Nat)
    (h : ∀ (i : Nat) (start : FlushStart), starts[i]? = some start →
      (start.last = true ↔ starts.length ≤ i))
    (i : Nat) (start : FlushStart) (hi : (starts ++ [⟨true, clock⟩])[i]? = some start) :
    start.last = true ↔ starts.length ≤ i := by
  rcases getElem?_concat_eq_some.mp hi with hold | ⟨rfl, rfl⟩
  · exact h i start hold
  · simp

theorem cancelled_asleep_sound (h : t.Sound limits) (hp : t.pipeline.phase = .asleep) :
    t.cancelled.Sound limits := by
  obtain ⟨hlimits, hregular, hpace, hcounted, htold, hanswered⟩ := h
  obtain ⟨heven, huntold, -, -⟩ := (counted_asleep hp).mp hcounted
  rw [told_none huntold] at htold
  have hw := Pipeline.phase_eq_asleep_iff.mp hp
  have hcancel : t.pipeline.cancel =
      { t.pipeline with
        cancelled := true, worker := .flushing true t.pipeline.outbox.beginFlush } := by
    simp [Pipeline.cancel, Pipeline.wake, hw]
  rw [cancelled, if_pos hp, hcancel, entered_flushing rfl, huntold, Option.none_or]
  refine ⟨hlimits, hregular.start heven (by simp), ?_, ?_, ?_, ?_⟩
  · rw [cycles_untold huntold] at hpace
    simpa [cycles, heven] using hpace
  · simp [Counted, Pipeline.phase, ← heven]
  · refine (told_some rfl).mpr ⟨rfl, by simp, by simp, ?_⟩
    exact told_start _ (told_of_untold htold.2)
  · exact hanswered.go_on (Or.inl hp) rfl rfl (by simp) (by simp [Pipeline.phase])

theorem cancelled_awake_sound (h : t.Sound limits) (hp : t.pipeline.phase ≠ .asleep)
    (huntold : t.toldAfter = none) : t.cancelled.Sound limits := by
  obtain ⟨hlimits, hregular, hpace, hcounted, htold, hanswered⟩ := h
  rw [told_none huntold] at htold
  have hw : t.pipeline.worker ≠ .sleeping := Pipeline.phase_eq_asleep_iff.ne.mp hp
  have hcancel := Pipeline.cancel_of_awake hw
  have hle : t.ends.length ≤ t.starts.length := by
    simp only [Counted] at hcounted
    split at hcounted <;> omega
  rw [cancelled, if_neg hp, hcancel, huntold, Option.none_or]
  refine ⟨hlimits, hregular, ?_, ?_, ?_, ?_⟩
  · rw [cycles_untold huntold] at hpace
    simpa [cycles, List.take_of_length_le hle] using hpace
  · have hphase : ({ t.pipeline with cancelled := true } : Pipeline).phase = t.pipeline.phase := rfl
    unfold Counted at hcounted ⊢
    rw [hphase]
    cases ha : t.pipeline.phase with
    | asleep => exact absurd ha hp
    | stopped => simp [ha, huntold] at hcounted
    | _ => simpa only [ha] using hcounted
  · exact (told_some rfl).mpr ⟨rfl, Nat.le_refl _, Nat.le_succ _, told_of_untold htold.2⟩
  · obtain ⟨huncalled, hcalled, hwaiting, hok, herror, hlater⟩ := hanswered
    exact ⟨huncalled, by simp, hwaiting, hok, herror, hlater⟩

theorem cancelled_sound (h : t.Sound limits) : t.cancelled.Sound limits := by
  by_cases htold : t.toldAfter = none
  · by_cases hp : t.pipeline.phase = .asleep
    · exact cancelled_asleep_sound h hp
    · exact cancelled_awake_sound h hp htold
  · rw [cancelled_of_told h htold]
    exact h

theorem shutDown_sound (h : t.Sound limits) : t.shutDown.Sound limits := by
  have hc := cancelled_sound h
  obtain ⟨huncalled, hcalled, hwaiting, hok, herror, hlater⟩ := hc.answered
  have htold : t.cancelled.toldAfter ≠ none := by
    rw [cancelled_toldAfter]
    cases t.toldAfter <;> simp
  unfold shutDown
  split
  · next hcall =>
    rw [cancelled_call] at huncalled
    refine ⟨hc.limits_eq, hc.regular, hc.pace, hc.counted, hc.told, ?_⟩
    exact ⟨by simp, fun _ => htold, fun _ _ => (huncalled hcall).2, by simp, by simp, hlater⟩
  · next call hcall =>
    refine ⟨hc.limits_eq, hc.regular, hc.pace, hc.counted, hc.told, ?_⟩
    refine ⟨?_, hcalled, hwaiting, hok, herror, ?_⟩
    · intro hnone
      rw [cancelled_call, hcall] at hnone
      cases hnone
    · intro r hr
      have hr : r ∈ t.later ++ [.ok ()] := hr
      rw [← cancelled_later] at hr
      rcases List.mem_append.mp hr with hold | hnew
      · exact hlater r hold
      · exact List.mem_singleton.mp hnew

theorem Sound.cycles_eq_ends (h : t.Sound limits) (hcycle : t.pipeline.phase = .inFlush false) :
    t.cycles = t.ends ∧ ∀ n, t.toldAfter = some n → n = t.starts.length := by
  obtain ⟨hodd, time, hlast⟩ := (counted_inFlush hcycle).mp h.counted
  cases hn : t.toldAfter with
  | none => exact ⟨cycles_untold hn, by simp⟩
  | some n =>
    obtain ⟨-, hle, -, hkinds⟩ := (told_some hn).mp h.told
    have hlt : t.ends.length < n := by simpa using hkinds _ _ hlast
    refine ⟨?_, ?_⟩
    · rw [cycles_told hn, List.take_of_length_le (Nat.le_of_lt hlt)]
    · rintro _ ⟨⟩
      omega

theorem Sound.told_of_last (h : t.Sound limits) (hlast : t.pipeline.phase = .inFlush true) :
    ∃ n, t.toldAfter = some n ∧ n = t.ends.length ∧ t.starts.length = n + 1 := by
  obtain ⟨hodd, time, hstart⟩ := (counted_inFlush hlast).mp h.counted
  cases hn : t.toldAfter with
  | none =>
    obtain ⟨-, hcycles⟩ := (told_none hn).mp h.told
    exact absurd (hcycles _ (List.mem_of_getElem? hstart)) (by simp)
  | some n =>
    obtain ⟨-, hle, hge, hkinds⟩ := (told_some hn).mp h.told
    have hn' : n ≤ t.ends.length := (hkinds _ _ hstart).mp rfl
    exact ⟨n, rfl, by omega, by omega⟩

theorem worked_last_sound (h : t.Sound limits) {result : Except Failure Nat}
    (hw : t.pipeline.worker = .flushing true (.ended result)) (now : Nat) :
    (t.worked now).Sound limits := by
  have hp : t.pipeline.phase = .inFlush true := by simp [Pipeline.phase, hw]
  obtain ⟨n, hn, hends, hstarts⟩ := h.told_of_last hp
  have hwork : (t.pipeline.work now).1 = { t.pipeline with worker := .stopped } := by
    simp [Pipeline.work, hw, Pipeline.conclude]
  have hresult : t.pipeline.result? = some result := by simp [Pipeline.result?, hw]
  simp only [worked, hresult, hwork]
  rw [entered_stopped rfl]
  have hodd : t.starts.length = t.ends.length + 1 := by omega
  refine ⟨h.limits_eq, h.regular.stop hodd result now, ?_, ?_, h.told, ?_⟩
  · have hpace := h.pace
    rw [cycles_told hn] at hpace
    simpa [cycles, hn, List.take_append_of_le_length (Nat.le_of_eq hends)] using hpace
  · exact (counted_stopped rfl).mpr ⟨by simpa using hodd, n, hn, hstarts⟩
  · exact h.answered.go_on (Or.inr ⟨true, hp⟩) rfl rfl id (by simp [Pipeline.phase])

theorem Sound.pace_next (h : t.Sound limits) (hp : t.pipeline.phase = .inFlush false)
    (result : Except Failure Nat) (now : Nat) :
    t.pipeline.pace.next (.ofFlush result) now t.pipeline.limits =
      paceAfter limits (t.ends ++ [⟨result, now, t.clock⟩]) := by
  rw [paceAfter_append, h.pace, (h.cycles_eq_ends hp).1, h.limits_eq]

theorem worked_untold_sound (h : t.Sound limits) {result : Except Failure Nat}
    (hw : t.pipeline.worker = .flushing false (.ended result)) (huntold : t.toldAfter = none)
    (now : Nat) : (t.worked now).Sound limits := by
  have hp : t.pipeline.phase = .inFlush false := by simp [Pipeline.phase, hw]
  obtain ⟨hodd, -⟩ := (counted_inFlush hp).mp h.counted
  have htold := (told_none huntold).mp h.told
  have hpace := h.pace_next hp result now
  have hresult : t.pipeline.result? = some result := by simp [Pipeline.result?, hw]
  have hwork : (t.pipeline.work now).1 =
      { t.pipeline with
        worker := .sleeping
        pace := t.pipeline.pace.next (.ofFlush result) now t.pipeline.limits } := by
    simp [Pipeline.work, hw, Pipeline.conclude, htold.1]
  simp only [worked, hresult]
  rw [hwork, entered_asleep rfl]
  refine ⟨h.limits_eq, h.regular.stop hodd result now, ?_, ?_, h.told, ?_⟩
  · simpa [cycles, huntold, List.take_of_length_le] using hpace
  · refine (counted_asleep rfl).mpr ⟨by simpa using hodd, huntold, Nat.le_add_right _ _, ?_⟩
    rw [freeAt_append]
  · exact h.answered.go_on (Or.inr ⟨false, hp⟩) rfl rfl id (by simp [Pipeline.phase])

theorem worked_told_sound (h : t.Sound limits) {result : Except Failure Nat}
    (hw : t.pipeline.worker = .flushing false (.ended result)) (htold : t.toldAfter ≠ none)
    (now : Nat) : (t.worked now).Sound limits := by
  have hp : t.pipeline.phase = .inFlush false := by simp [Pipeline.phase, hw]
  obtain ⟨hodd, -⟩ := (counted_inFlush hp).mp h.counted
  obtain ⟨n, hn⟩ := Option.ne_none_iff_exists'.mp htold
  obtain rfl := (h.cycles_eq_ends hp).2 n hn
  obtain ⟨hcancelled, hle, hge, hkinds⟩ := (told_some hn).mp h.told
  have hpace := h.pace_next hp result now
  have hresult : t.pipeline.result? = some result := by simp [Pipeline.result?, hw]
  have hwork : (t.pipeline.work now).1 =
      { t.pipeline with
        worker := .flushing true t.pipeline.outbox.beginFlush
        pace := t.pipeline.pace.next (.ofFlush result) now t.pipeline.limits } := by
    simp [Pipeline.work, hw, Pipeline.conclude, hcancelled]
  simp only [worked, hresult]
  rw [hwork, entered_flushing rfl]
  -- the cycle has ended and the last flush has begun, in one move
  have heven : t.starts.length = (t.ends ++ [(⟨result, now, t.clock⟩ : FlushEnd)]).length := by
    simpa using hodd
  refine ⟨h.limits_eq, (h.regular.stop hodd result now).start heven (by simp), ?_, ?_, ?_, ?_⟩
  · simpa [cycles, hn, hodd, List.take_of_length_le] using hpace
  · simp [Counted, Pipeline.phase, hodd]
  · simp only [Told, hn]
    exact ⟨hcancelled, by simp, by simp, told_start _ hkinds⟩
  · exact h.answered.go_on (Or.inr ⟨false, hp⟩) rfl rfl id (by simp [Pipeline.phase])

theorem worked_sound (h : t.Sound limits) (now : Nat) : (t.worked now).Sound limits := by
  cases hresult : t.pipeline.result? with
  | none =>
    simp only [worked, hresult]
    exact h.samePhase (Pipeline.work_samePhase hresult now)
  | some result =>
    obtain ⟨last, hw⟩ := Pipeline.worker_of_result hresult
    cases last with
    | true => exact worked_last_sound h hw now
    | false =>
      by_cases htold : t.toldAfter = none
      · exact worked_untold_sound h hw htold now
      · exact worked_told_sound h hw htold now

theorem next_sound (h : t.Sound limits) (move : Move) : (t.next move).Sound limits := by
  cases move with
  | ofPipeline move =>
    cases move with
    | append e now => exact h.samePhase (t.pipeline.append_samePhase e now)
    | govern rules => exact h.samePhase ⟨rfl, rfl, rfl, rfl⟩
    | wake => exact woken_sound h
    | cancel => exact cancelled_sound h
    | work now => exact worked_sound h now
    | answer r => exact h.samePhase (t.pipeline.answered_samePhase r)
    | resume => exact h.samePhase t.pipeline.paused_samePhase
  | crash => exact crashed_sound h
  | pass millis => exact passed_sound h millis
  | shutDown => exact shutDown_sound h
  | poll => exact polled_sound h

theorem run_sound (h : t.Sound limits) (moves : List Move) : (t.run moves).Sound limits := by
  induction moves generalizing t with
  | nil => exact h
  | cons move moves ih => exact ih (next_sound h move)

theorem next_of_isDone (h : t.pipeline.isDone = true) (move : Move) :
    (t.next move).pipeline.isDone = true ∧ (t.next move).starts = t.starts ∧
      (t.next move).ends = t.ends := by
  have hw : t.pipeline.worker ≠ .sleeping := fun hw => by simp [Pipeline.isDone, hw] at h
  have hp : t.pipeline.phase ≠ .asleep := Pipeline.phase_eq_asleep_iff.ne.mpr hw
  have hsame : ∀ q, t.pipeline.SamePhase q → q.isDone = true := by
    intro q hq
    rw [Pipeline.isDone_iff, hq.phase]
    exact Pipeline.isDone_iff.mp h
  have hcancel : t.pipeline.cancel.isDone = true := by
    rw [Pipeline.cancel_of_awake hw]
    exact h
  have hresult : t.pipeline.result? = none := by
    cases hr : t.pipeline.result? with
    | none => rfl
    | some result =>
      obtain ⟨last, hw⟩ := Pipeline.worker_of_result hr
      simp [Pipeline.isDone, hw] at h
  cases move with
  | ofPipeline move =>
    cases move with
    | append e now => exact ⟨h, rfl, rfl⟩
    | govern rules => exact ⟨h, rfl, rfl⟩
    | wake => simp [next, woken, hp, h]
    | cancel => simp [next, cancelled, hp, hcancel]
    | work now =>
      simp only [next, worked, hresult]
      exact ⟨hsame _ (Pipeline.work_samePhase hresult now), trivial, trivial⟩
    | answer r => exact ⟨hsame _ (t.pipeline.answered_samePhase r), rfl, rfl⟩
    | resume => exact ⟨hsame _ t.pipeline.paused_samePhase, rfl, rfl⟩
  | crash =>
    simp only [next, crashed]
    split
    · exact ⟨rfl, rfl, rfl⟩
    · exact ⟨h, rfl, rfl⟩
  | pass millis =>
    simp only [next, passed]
    split <;> exact ⟨h, rfl, rfl⟩
  | shutDown =>
    simp only [next, shutDown]
    split <;> simp [cancelled, hp, hcancel]
  | poll =>
    simp only [next, polled, h, if_true]
    split <;> exact ⟨h, rfl, rfl⟩

theorem run_of_isDone (h : t.pipeline.isDone = true) (moves : List Move) :
    (t.run moves).starts = t.starts ∧ (t.run moves).ends = t.ends := by
  induction moves generalizing t with
  | nil => exact ⟨rfl, rfl⟩
  | cons move moves ih =>
    obtain ⟨hdone, hstarts, hends⟩ := next_of_isDone h move
    obtain ⟨hstarts', hends'⟩ := ih hdone
    exact ⟨hstarts'.trans hstarts, hends'.trans hends⟩

theorem phase_ne_crashed (h : t.pipeline.phase ≠ .crashed) {move : Move} (hm : move ≠ .crash) :
    (t.next move).pipeline.phase ≠ .crashed := by
  rcases t.pipeline_next move with hsame | ⟨m, hnext⟩ | ⟨hcrash, -⟩ | ⟨-, habort⟩
  · rw [hsame]
    exact h
  · rw [hnext]
    exact Pipeline.next_ne_crashed h m
  · exact absurd hcrash hm
  · rw [habort]
    simp [Pipeline.phase, Pipeline.abort]

theorem run_ne_crashed (h : t.pipeline.phase ≠ .crashed) {moves : List Move}
    (hm : Move.crash ∉ moves) : (t.run moves).pipeline.phase ≠ .crashed := by
  induction moves generalizing t with
  | nil => exact h
  | cons move moves ih =>
    rw [List.mem_cons, not_or] at hm
    exact ih (phase_ne_crashed h (Ne.symm hm.1)) hm.2

end LogDelivery.Timetable
