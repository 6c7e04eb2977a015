import LogDelivery.Proofs.FailureStreak
import LogDelivery.Proofs.LastFlush

/-!
# The timetable of a worker

History variables of a pipeline on a clock, which it never reads: when each flush began and how it ended,
how many had begun when the pipeline was first told to end, and what became of the calls to shut it
down. Anything may happen at any time, and take any time; only the timer of a sleeping worker goes
off when it is due. The first call to shut down waits for the worker, and is looked at now and then.
-/
namespace LogDelivery

inductive Phase where
  | asleep
  | inFlush (last : Bool)
  | stopped
  | crashed
  | aborted
  deriving DecidableEq

namespace Pipeline

def phase (p : Pipeline) : Phase :=
  match p.worker with
  | .sleeping => .asleep
  | .flushing last _ | .delivering last _ _ => .inFlush last
  | .stopped => .stopped
  | .crashed => .crashed
  | .aborted => .aborted

def result? (p : Pipeline) : Option (Except Failure Nat) :=
  match p.worker with
  | .flushing _ (.ended result) => some result
  | _ => none

/-- Nothing has happened that concerns the loop of the worker. -/
structure SamePhase (p q : Pipeline) : Prop where
  phase : q.phase = p.phase
  pace : q.pace = p.pace
  limits : q.limits = p.limits
  cancelled : q.cancelled = p.cancelled

variable {p : Pipeline}

theorem phase_eq_asleep_iff : p.phase = .asleep ↔ p.worker = .sleeping := by
  unfold phase
  cases p.worker <;> simp

theorem phase_eq_stopped_iff : p.phase = .stopped ↔ p.worker = .stopped := by
  unfold phase
  cases p.worker <;> simp

theorem phase_eq_crashed_iff : p.phase = .crashed ↔ p.worker = .crashed := by
  unfold phase
  cases p.worker <;> simp

theorem phase_eq_aborted_iff : p.phase = .aborted ↔ p.worker = .aborted := by
  unfold phase
  cases p.worker <;> simp

theorem isDone_iff :
    p.isDone = true ↔ p.phase = .stopped ∨ p.phase = .crashed ∨ p.phase = .aborted := by
  unfold isDone phase
  cases p.worker <;> simp

theorem append_samePhase (p : Pipeline) (e : Event) (now : Nat) :
    p.SamePhase (p.append e now).1 := ⟨rfl, rfl, rfl, rfl⟩

theorem answered_samePhase (p : Pipeline) (r : Except Failure Unit) :
    p.SamePhase (p.answered r).1 := by
  unfold answered
  split
  · next h => exact ⟨by simp [phase, h], rfl, rfl, rfl⟩
  · exact ⟨rfl, rfl, rfl, rfl⟩

theorem paused_samePhase (p : Pipeline) : p.SamePhase p.paused.1 := by
  unfold paused
  split
  · next h => exact ⟨by simp [phase, h], rfl, rfl, rfl⟩
  · exact ⟨rfl, rfl, rfl, rfl⟩

theorem work_samePhase (h : p.result? = none) (now : Nat) : p.SamePhase (p.work now).1 := by
  unfold work
  split
  · next last result hw => simp [result?, hw] at h
  · next hw => exact ⟨by simp [phase, hw], rfl, rfl, rfl⟩
  · next hw => exact ⟨by simp [phase, hw], rfl, rfl, rfl⟩
  · next hw => exact ⟨by simp [phase, hw], rfl, rfl, rfl⟩
  · exact ⟨rfl, rfl, rfl, rfl⟩

theorem phase_of_wait {payload : Payload} (h : p.wait = .answer payload) :
    ∃ last, p.phase = .inFlush last := by
  unfold wait at h
  split at h
  · next last flush sending hw => exact ⟨last, by simp [phase, hw]⟩
  · cases h

theorem worker_of_result {result : Except Failure Nat} (h : p.result? = some result) :
    ∃ last, p.worker = .flushing last (.ended result) := by
  unfold result? at h
  split at h
  · next last r hw =>
    cases h
    exact ⟨last, hw⟩
  · cases h

theorem cancel_of_awake (h : p.worker ≠ .sleeping) : p.cancel = { p with cancelled := true } :=
  wake_of_awake h

theorem cancel_awake (p : Pipeline) : p.cancel.worker ≠ .sleeping := by
  by_cases hw : p.worker = .sleeping
  · simp [cancel, wake, hw]
  · rw [cancel_of_awake hw]
    exact hw

theorem SamePhase.awake {q : Pipeline} (h : p.SamePhase q) (hp : p.worker ≠ .sleeping) :
    q.worker ≠ .sleeping := by
  rw [← phase_eq_asleep_iff.ne, h.phase]
  exact fun hw => hp (phase_eq_asleep_iff.mp hw)

theorem awake_of_wait (h : p.wait ≠ .nothing) : p.worker ≠ .sleeping :=
  fun hw => h (by simp [wait, hw])

theorem wake_ne_crashed (h : p.phase ≠ .crashed) : p.wake.phase ≠ .crashed := by
  by_cases hw : p.worker = .sleeping
  · simp [wake, hw, phase]
  · rw [wake_of_awake hw]
    exact h

theorem conclude_ne_crashed (p : Pipeline) (last : Bool) (result : Except Failure Nat)
    (now : Nat) : (p.conclude last result now).1.phase ≠ .crashed := by
  cases last with
  | true => simp [conclude, phase]
  | false => cases hc : p.cancelled <;> simp [conclude, hc, phase]

theorem next_ne_crashed (h : p.phase ≠ .crashed) (move : Move) :
    (p.next move).phase ≠ .crashed := by
  have hsame : ∀ q, p.SamePhase q → q.phase ≠ .crashed := by
    intro q hq
    rw [hq.phase]
    exact h
  cases move with
  | append e now => exact h
  | govern rules => exact h
  | wake => exact wake_ne_crashed h
  | cancel => exact wake_ne_crashed h
  | work now =>
    cases hr : p.result? with
    | none => exact hsame _ (work_samePhase hr now)
    | some result =>
      obtain ⟨last, hw⟩ := worker_of_result hr
      simp only [next, work, hw]
      exact p.conclude_ne_crashed last result now
  | answer r => exact hsame _ (p.answered_samePhase r)
  | resume => exact hsame _ p.paused_samePhase

end Pipeline

structure FlushStart where
  last : Bool
  time : Nat

structure FlushEnd where
  result : Except Failure Nat
  now : Nat
  time : Nat

def FlushEnd.cycle (e : FlushEnd) : CycleEnd := ⟨.ofFlush e.result, e.now⟩

structure ShutdownCall where
  time : Nat
  answer : Option (Except PipelineError Unit) := none

structure Timetable where
  pipeline : Pipeline
  shutdownTimeout : Duration
  clock : Nat := 0
  due : Nat
  starts : List FlushStart := []
  ends : List FlushEnd := []
  /-- how many flushes had begun when the pipeline was first told to end -/
  toldAfter : Option Nat := none
  call : Option ShutdownCall := none
  later : List (Except PipelineError Unit) := []

namespace Timetable

def start (s : Settings) (courier : Courier) (identity : IdentitySource) (rules : RuleBook) :
    Timetable where
  pipeline := .start s courier identity rules
  shutdownTimeout := s.shutdownTimeout
  due := Duration.ticks (Pace.start s.pace).delay

def entered (t : Timetable) : Timetable :=
  match t.pipeline.worker with
  | .sleeping => { t with due := t.clock + Duration.ticks t.pipeline.pace.delay }
  | .flushing last _ => { t with starts := t.starts ++ [⟨last, t.clock⟩] }
  | _ => t

def woken (t : Timetable) : Timetable :=
  if t.pipeline.phase = .asleep ∧ t.due ≤ t.clock then
    entered { t with pipeline := t.pipeline.wake }
  else t

def cancelled (t : Timetable) : Timetable :=
  let told :=
    { t with pipeline := t.pipeline.cancel, toldAfter := t.toldAfter.or (some t.starts.length) }
  if t.pipeline.phase = .asleep then told.entered else told

def worked (t : Timetable) (now : Nat) : Timetable :=
  let after := { t with pipeline := (t.pipeline.work now).1 }
  match t.pipeline.result? with
  | some result => entered { after with ends := t.ends ++ [⟨result, now, t.clock⟩] }
  | none => after

def crashed (t : Timetable) : Timetable :=
  match t.pipeline.wait with
  | .answer _ => { t with pipeline := t.pipeline.crash }
  | _ => t

/-- Time passes, but a sleeping worker does not miss its timer. -/
def passed (t : Timetable) (millis : Nat) : Timetable :=
  if t.pipeline.phase = .asleep ∧ t.due < t.clock + millis then t
  else { t with clock := t.clock + millis }

def shutDown (t : Timetable) : Timetable :=
  match t.call with
  | none => { t.cancelled with call := some ⟨t.clock, none⟩ }
  | some _ => { t.cancelled with later := t.later ++ [.ok ()] }

/-- The call that waits is looked at: it has its answer if the worker has come to an end, and gives
the worker up if it has waited long enough. -/
def polled (t : Timetable) : Timetable :=
  match t.call with
  | some ⟨time, none⟩ =>
    if t.pipeline.isDone then { t with call := some ⟨time, some (.ok ())⟩ }
    else if time + Duration.ticks t.shutdownTimeout ≤ t.clock then
      { t with pipeline := t.pipeline.abort, call := some ⟨time, some (.error .shutdownTimeout)⟩ }
    else t
  | _ => t

inductive Move where
  /-- the timer of a sleeping worker goes off only when it is due -/
  | ofPipeline (move : Pipeline.Move)
  | crash
  | pass (millis : Nat)
  | shutDown
  | poll

def next (t : Timetable) : Move → Timetable
  | .ofPipeline .wake => t.woken
  | .ofPipeline .cancel => t.cancelled
  | .ofPipeline (.work now) => t.worked now
  | .ofPipeline move => { t with pipeline := t.pipeline.next move }
  | .crash => t.crashed
  | .pass millis => t.passed millis
  | .shutDown => t.shutDown
  | .poll => t.polled

theorem entered_asleep {t : Timetable} (h : t.pipeline.worker = .sleeping) :
    t.entered = { t with due := t.clock + Duration.ticks t.pipeline.pace.delay } := by
  simp [entered, h]

theorem entered_flushing {t : Timetable} {last : Bool} {flush : Flush}
    (h : t.pipeline.worker = .flushing last flush) :
    t.entered = { t with starts := t.starts ++ [⟨last, t.clock⟩] } := by
  simp [entered, h]

theorem entered_stopped {t : Timetable} (h : t.pipeline.worker = .stopped) : t.entered = t := by
  simp [entered, h]

@[simp] theorem entered_pipeline (t : Timetable) : t.entered.pipeline = t.pipeline := by
  unfold entered
  split <;> rfl

@[simp] theorem entered_clock (t : Timetable) : t.entered.clock = t.clock := by
  unfold entered
  split <;> rfl

@[simp] theorem entered_call (t : Timetable) : t.entered.call = t.call := by
  unfold entered
  split <;> rfl

@[simp] theorem entered_later (t : Timetable) : t.entered.later = t.later := by
  unfold entered
  split <;> rfl

@[simp] theorem entered_toldAfter (t : Timetable) : t.entered.toldAfter = t.toldAfter := by
  unfold entered
  split <;> rfl

@[simp] theorem entered_shutdownTimeout (t : Timetable) :
    t.entered.shutdownTimeout = t.shutdownTimeout := by
  unfold entered
  split <;> rfl

theorem cancelled_pipeline (t : Timetable) : t.cancelled.pipeline = t.pipeline.cancel := by
  unfold cancelled
  split <;> simp

theorem cancelled_toldAfter (t : Timetable) :
    t.cancelled.toldAfter = t.toldAfter.or (some t.starts.length) := by
  unfold cancelled
  split <;> simp

theorem cancelled_call (t : Timetable) : t.cancelled.call = t.call := by
  unfold cancelled
  split <;> simp

theorem cancelled_later (t : Timetable) : t.cancelled.later = t.later := by
  unfold cancelled
  split <;> simp

theorem cancelled_clock (t : Timetable) : t.cancelled.clock = t.clock := by
  unfold cancelled
  split <;> simp

theorem cancelled_shutdownTimeout (t : Timetable) :
    t.cancelled.shutdownTimeout = t.shutdownTimeout := by
  unfold cancelled
  split <;> simp

theorem worked_pipeline (t : Timetable) (now : Nat) :
    (t.worked now).pipeline = (t.pipeline.work now).1 := by
  unfold worked
  split <;> simp

theorem worked_clock (t : Timetable) (now : Nat) : (t.worked now).clock = t.clock := by
  unfold worked
  split <;> simp

theorem pipeline_next (t : Timetable) (move : Move) :
    (t.next move).pipeline = t.pipeline ∨
    (∃ m, (t.next move).pipeline = t.pipeline.next m) ∨
    (move = .crash ∧ (t.next move).pipeline = t.pipeline.crash) ∨
    (move = .poll ∧ (t.next move).pipeline = t.pipeline.abort) := by
  cases move with
  | ofPipeline move =>
    cases move with
    | wake =>
      simp only [next, woken]
      split
      · exact Or.inr (Or.inl ⟨.wake, by rw [entered_pipeline]; rfl⟩)
      · exact Or.inl rfl
    | cancel => exact Or.inr (Or.inl ⟨.cancel, t.cancelled_pipeline⟩)
    | work now =>
      refine Or.inr (Or.inl ⟨.work now, ?_⟩)
      simp only [next, worked]
      split
      · rw [entered_pipeline]
        rfl
      · rfl
    | append e now => exact Or.inr (Or.inl ⟨.append e now, rfl⟩)
    | govern rules => exact Or.inr (Or.inl ⟨.govern rules, rfl⟩)
    | answer r => exact Or.inr (Or.inl ⟨.answer r, rfl⟩)
    | resume => exact Or.inr (Or.inl ⟨.resume, rfl⟩)
  | crash =>
    simp only [next, crashed]
    split
    · exact Or.inr (Or.inr (Or.inl ⟨trivial, rfl⟩))
    · exact Or.inl rfl
  | pass millis =>
    simp only [next, passed]
    split <;> exact Or.inl rfl
  | shutDown =>
    refine Or.inr (Or.inl ⟨.cancel, ?_⟩)
    simp only [next, shutDown]
    split <;> exact t.cancelled_pipeline
  | poll =>
    simp only [next, polled]
    split
    · split
      · exact Or.inl rfl
      · split
        · exact Or.inr (Or.inr (Or.inr ⟨trivial, rfl⟩))
        · exact Or.inl rfl
    · exact Or.inl rfl

theorem toldAfter_next {t : Timetable} {n : Nat} (h : t.toldAfter = some n) (move : Move) :
    (t.next move).toldAfter = some n := by
  have hcancelled : t.cancelled.toldAfter = some n := by
    rw [cancelled_toldAfter, h]
    rfl
  cases move with
  | ofPipeline move =>
    cases move with
    | wake =>
      simp only [next, woken]
      split
      · rw [entered_toldAfter]
        exact h
      · exact h
    | cancel => exact hcancelled
    | work now =>
      simp only [next, worked]
      split
      · rw [entered_toldAfter]
        exact h
      · exact h
    | _ => exact h
  | crash =>
    simp only [next, crashed]
    split <;> exact h
  | pass millis =>
    simp only [next, passed]
    split <;> exact h
  | shutDown =>
    simp only [next, shutDown]
    split <;> exact hcancelled
  | poll =>
    simp only [next, polled]
    split
    · split
      · exact h
      · split <;> exact h
    · exact h

def run (t : Timetable) (moves : List Move) : Timetable := moves.foldl next t

theorem run_append (t : Timetable) (moves more : List Move) :
    t.run (moves ++ more) = (t.run moves).run more := List.foldl_append

theorem toldAfter_run {t : Timetable} {n : Nat} (h : t.toldAfter = some n) (moves : List Move) :
    (t.run moves).toldAfter = some n := by
  induction moves generalizing t with
  | nil => exact h
  | cons move moves ih => exact ih (toldAfter_next h move)

end Timetable
end LogDelivery
