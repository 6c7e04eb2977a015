import LogDelivery.Proofs.Moves
import Mathlib.Data.List.Induction

/-!
# The threshold of a throttle

Which errors pass, said without counters: those that were preceded by too few of their fingerprint
in the same minute. Counters are bounded and are removed from time to time, but a counter of the
current minute is neither removed nor replaced, so it always tells how many errors have been seen.
-/
namespace LogDelivery

namespace Counter

variable (c : Counter) (minute : Nat)

@[simp] theorem fingerprint_bump : (c.bump minute).fingerprint = c.fingerprint := by
  unfold bump
  split <;> rfl

@[simp] theorem minute_bump : (c.bump minute).minute = minute := by
  unfold bump
  split
  · assumption
  · rfl

theorem count_bump :
    (c.bump minute).count = min ((if c.minute = minute then c.count else 0) + 1) countMax := by
  unfold bump
  split <;> rfl

end Counter

namespace Throttle

inductive Step where
  | see (e : ErrorChain) (minute : Nat)
  | purge (cutoff : Nat)

namespace Step

def minute : Step → Nat
  | .see _ minute => minute
  | .purge cutoff => cutoff

def isOf (fingerprint : UInt64) (minute : Nat) : Step → Bool
  | .see e m => Fingerprint.ofError e == fingerprint && m == minute
  | .purge _ => false

/-- The later of two steps is not an error of an earlier minute. -/
def Precedes (a : Step) : Step → Prop
  | .see _ minute => a.minute ≤ minute
  | .purge _ => True

end Step

def next (t : Throttle) : Step → Throttle
  | .see e minute => (t.pass e minute).1
  | .purge cutoff => t.purge cutoff

def passes (t : Throttle) : Step → Bool
  | .see e minute => (t.pass e minute).2
  | .purge _ => false

def run (t : Throttle) (steps : List Step) : Throttle := steps.foldl next t

/-- Errors are seen in the order of their minutes, and no counter is removed on request whose
minute is not over. -/
def InOrder (steps : List Step) : Prop := steps.Pairwise Step.Precedes

def seen (steps : List Step) (fingerprint : UInt64) (minute : Nat) : Nat :=
  steps.countP (Step.isOf fingerprint minute)

def passed (fingerprint : UInt64) (minute : Nat) : Throttle → List Step → Nat
  | _, [] => 0
  | t, step :: rest =>
    (if step.isOf fingerprint minute && t.passes step then 1 else 0) +
      passed fingerprint minute (t.next step) rest

/-- The count of a fingerprint in a minute, by the first counter of the fingerprint. -/
def tally : List Counter → (fingerprint : UInt64) → (minute : Nat) → Nat
  | [], _, _ => 0
  | c :: rest, fingerprint, minute =>
    if c.fingerprint = fingerprint then (if c.minute = minute then c.count else 0)
    else tally rest fingerprint minute

variable {cs : List Counter} {f g : UInt64} {m n cutoff : Nat}

theorem tally_of_not_mem (h : f ∉ cs.map (·.fingerprint)) : tally cs f m = 0 := by
  induction cs with
  | nil => rfl
  | cons c cs ih =>
    simp only [List.map_cons, List.mem_cons, not_or] at h
    rw [tally, if_neg (Ne.symm h.1), ih h.2]

theorem count_of_bump : (bump f m cs).2 = min (tally cs f m + 1) Counter.countMax := by
  induction cs with
  | nil => rfl
  | cons c cs ih =>
    by_cases hf : c.fingerprint = f
    · simp only [bump, tally, hf, if_true, Counter.count_bump]
    · simp only [bump, tally, hf, if_false, ih]

theorem tally_bump_self :
    tally (bump f m cs).1 f n = if m = n then min (tally cs f m + 1) Counter.countMax else 0 := by
  induction cs with
  | nil => simp [bump, tally, Counter.countMax]
  | cons c cs ih =>
    by_cases hf : c.fingerprint = f
    · simp only [bump, tally, hf, if_true, Counter.fingerprint_bump, Counter.minute_bump,
        Counter.count_bump]
    · simp only [bump, tally, hf, if_false, ih]

theorem tally_bump_of_ne (h : g ≠ f) : tally (bump f m cs).1 g n = tally cs g n := by
  induction cs with
  | nil => simp only [bump, tally, if_neg (Ne.symm h)]
  | cons c cs ih =>
    by_cases hf : c.fingerprint = f
    · have hg : ¬ f = g := Ne.symm h
      simp only [bump, tally, hf, hg, if_true, if_false, Counter.fingerprint_bump]
    · simp only [bump, tally, hf, if_false, ih]

theorem fingerprints_bump : (bump f m cs).1.map (·.fingerprint) =
    if f ∈ cs.map (·.fingerprint) then cs.map (·.fingerprint)
    else cs.map (·.fingerprint) ++ [f] := by
  induction cs with
  | nil => rfl
  | cons c cs ih =>
    by_cases hf : c.fingerprint = f
    · simp [bump, hf]
    · by_cases hm : f ∈ cs.map (·.fingerprint) <;> simp_all [bump, Ne.symm]

theorem nodup_bump (h : (cs.map (·.fingerprint)).Nodup) :
    ((bump f m cs).1.map (·.fingerprint)).Nodup := by
  rw [fingerprints_bump]
  split
  · exact h
  · next hf =>
    refine List.nodup_append.mpr ⟨h, by simp, fun g hg f' hf' heq => hf ?_⟩
    rwa [← List.mem_singleton.mp hf', ← heq]

theorem tally_filter (h : (cs.map (·.fingerprint)).Nodup) (hc : cutoff ≤ m) :
    tally (cs.filter fun c => cutoff ≤ c.minute) f m = tally cs f m := by
  induction cs with
  | nil => rfl
  | cons c cs ih =>
    rw [List.map_cons, List.nodup_cons] at h
    by_cases hk : cutoff ≤ c.minute
    · rw [List.filter_cons_of_pos (by simpa using hk), tally, tally, ih h.2]
    · rw [List.filter_cons_of_neg (by simpa using hk), ih h.2, tally]
      by_cases hf : c.fingerprint = f
      · have hm : ¬ c.minute = m := by omega
        rw [if_pos hf, if_neg hm]
        exact tally_of_not_mem (hf ▸ h.1)
      · rw [if_neg hf]

/-- There is one counter for each fingerprint, and the counters know, up to the largest count,
how many errors have been seen in the minute of any error that may come next. -/
structure Exact (t : Throttle) (steps : List Step) : Prop where
  distinct : (t.counters.map (·.fingerprint)).Nodup
  counts : ∀ f m, (∀ a ∈ steps, a.minute ≤ m) →
    tally t.counters f m = min (seen steps f m) Counter.countMax

variable {t : Throttle} {steps : List Step}

theorem start_exact (max : Nat) : Exact { maxPerMinute := max } [] :=
  ⟨List.nodup_nil, fun _ _ _ => rfl⟩

theorem distinct_purge (h : (t.counters.map (·.fingerprint)).Nodup) :
    ((t.purge cutoff).counters.map (·.fingerprint)).Nodup :=
  (List.filter_sublist.map _).nodup h

theorem distinct_tidy (h : (t.counters.map (·.fingerprint)).Nodup) :
    ((t.tidy m).counters.map (·.fingerprint)).Nodup := by
  unfold tidy
  split
  · exact h
  · split
    · exact distinct_purge h
    · exact h

/-- What is removed in passing is older than the minutes that are kept: its count is not missed. -/
theorem tally_tidy (h : (t.counters.map (·.fingerprint)).Nodup) (hm : m ≤ n + keepMinutes) :
    tally (t.tidy m).counters f n = tally t.counters f n := by
  unfold tidy
  split
  · rfl
  · split
    · exact tally_filter h (by omega)
    · rfl

theorem seen_append (steps : List Step) (step : Step) (f : UInt64) (m : Nat) :
    seen (steps ++ [step]) f m = seen steps f m + if step.isOf f m then 1 else 0 := by
  simp [seen, List.countP_append, List.countP_singleton]

theorem seen_eq_zero (h : ∀ a ∈ steps, a.minute < m) : seen steps f m = 0 := by
  refine List.countP_eq_zero.mpr fun a ha => ?_
  have hlt := h a ha
  cases a with
  | see e minute =>
    have hne : minute ≠ m := Nat.ne_of_lt hlt
    simp [Step.isOf, hne]
  | purge cutoff => simp [Step.isOf]

theorem purge_exact (h : t.Exact steps) (cutoff : Nat) :
    (t.purge cutoff).Exact (steps ++ [.purge cutoff]) where
  distinct := distinct_purge h.distinct
  counts := by
    intro f m hm
    have hc : cutoff ≤ m := hm (.purge cutoff) (by simp)
    rw [purge, tally_filter h.distinct hc, seen_append,
      h.counts f m fun a ha => hm a (List.mem_append_left _ ha)]
    rfl

theorem tally_pass (h : (t.counters.map (·.fingerprint)).Nodup) (e : ErrorChain) {minute : Nat}
    (hm : minute ≤ m + keepMinutes)
    (hbefore : tally t.counters f m = min (seen steps f m) Counter.countMax)
    (hnone : f = Fingerprint.ofError e → minute ≠ m → seen steps f m = 0) :
    tally (t.pass e minute).1.counters f m =
      min (seen (steps ++ [.see e minute]) f m) Counter.countMax := by
  change tally (bump (Fingerprint.ofError e) minute (t.tidy minute).counters).1 f m = _
  rw [seen_append]
  by_cases hf : f = Fingerprint.ofError e
  · subst hf
    rw [tally_bump_self]
    by_cases hme : minute = m
    · subst hme
      rw [tally_tidy h hm, hbefore]
      simp only [Step.isOf, beq_self_eq_true, Bool.and_self, if_true]
      omega
    · simp [Step.isOf, hme, hnone rfl hme]
  · rw [tally_bump_of_ne hf, tally_tidy h hm, hbefore]
    simp [Step.isOf, Ne.symm hf]

theorem pass_exact (h : t.Exact steps) (e : ErrorChain) {minute : Nat}
    (hs : ∀ a ∈ steps, a.minute ≤ minute) :
    (t.pass e minute).1.Exact (steps ++ [.see e minute]) where
  distinct := nodup_bump (distinct_tidy h.distinct)
  counts := by
    intro f m hm
    have hle : minute ≤ m := hm (.see e minute) (by simp)
    have hbefore : tally t.counters f m = min (seen steps f m) Counter.countMax :=
      h.counts f m fun a ha => hm a (List.mem_append_left _ ha)
    apply tally_pass h.distinct e (Nat.le_add_right_of_le hle) hbefore
    intro _ hme
    -- the minute of this error is over by then, and none of a later one has been seen
    exact seen_eq_zero fun a ha => by have := hs a ha; omega

theorem run_append (t : Throttle) (steps : List Step) (step : Step) :
    t.run (steps ++ [step]) = (t.run steps).next step := by
  simp [run]

theorem run_exact {max : Nat} (h : InOrder steps) :
    (run { maxPerMinute := max } steps).Exact steps := by
  induction steps using List.reverseRecOn with
  | nil => exact start_exact max
  | append_singleton steps step ih =>
    obtain ⟨hsteps, -, hlast⟩ := List.pairwise_append.mp h
    rw [run_append]
    cases step with
    | see e minute =>
      exact pass_exact (ih hsteps) e fun a ha => hlast a ha (.see e minute) (by simp)
    | purge cutoff => exact purge_exact (ih hsteps) cutoff

theorem maxPerMinute_next (t : Throttle) (step : Step) :
    (t.next step).maxPerMinute = t.maxPerMinute := by
  cases step with
  | see e minute =>
    simp only [next, pass, observe, tidy]
    split
    · rfl
    · split <;> rfl
  | purge cutoff => rfl

theorem maxPerMinute_run (t : Throttle) (steps : List Step) :
    (t.run steps).maxPerMinute = t.maxPerMinute := by
  induction steps using List.reverseRecOn with
  | nil => rfl
  | append_singleton steps step ih => rw [run_append, maxPerMinute_next, ih]

theorem Exact.pass_iff (h : t.Exact steps) (hmax : t.maxPerMinute < Counter.countMax)
    (e : ErrorChain) {minute : Nat} (hs : ∀ a ∈ steps, a.minute ≤ minute) :
    (t.pass e minute).2 = true ↔
      seen steps (Fingerprint.ofError e) minute < t.maxPerMinute := by
  have hcount : (t.pass e minute).2 =
      decide ((bump (Fingerprint.ofError e) minute (t.tidy minute).counters).2 ≤
        t.maxPerMinute) := by
    have hsame := maxPerMinute_next t (.see e minute)
    simp only [next, pass, observe] at hsame
    simp only [pass, observe, hsame]
  rw [hcount, decide_eq_true_iff, count_of_bump,
    tally_tidy h.distinct (Nat.le_add_right minute keepMinutes), h.counts _ _ hs]
  omega

theorem pass_iff_seen_lt {max : Nat} (hmax : max < Counter.countMax) (e : ErrorChain)
    {minute : Nat} (h : InOrder (steps ++ [.see e minute])) :
    (((run { maxPerMinute := max } steps).pass e minute).2 = true ↔
      seen steps (Fingerprint.ofError e) minute < max) := by
  obtain ⟨hsteps, -, hlast⟩ := List.pairwise_append.mp h
  have hkept : (run { maxPerMinute := max } steps).maxPerMinute = max := maxPerMinute_run _ steps
  have hiff := (run_exact hsteps).pass_iff (hkept.symm ▸ hmax) e
    fun a ha => hlast a ha (.see e minute) (by simp)
  rwa [hkept] at hiff

theorem passed_append (t : Throttle) (steps : List Step) (step : Step) :
    passed f m t (steps ++ [step]) =
      passed f m t steps + if step.isOf f m && (t.run steps).passes step then 1 else 0 := by
  induction steps generalizing t with
  | nil => simp [passed, run]
  | cons first steps ih =>
    have hrun : t.run (first :: steps) = (t.next first).run steps := rfl
    rw [List.cons_append, passed, passed, ih, hrun, Nat.add_assoc]

theorem passed_eq_min {max : Nat} (hmax : max < Counter.countMax) (h : InOrder steps) :
    passed f m { maxPerMinute := max } steps = min max (seen steps f m) := by
  induction steps using List.reverseRecOn with
  | nil => simp [passed, seen]
  | append_singleton steps step ih =>
    rw [passed_append, seen_append, ih (List.pairwise_append.mp h).1]
    cases ho : step.isOf f m with
    | false => simp
    | true =>
      cases step with
      | purge cutoff => cases ho
      | see e minute =>
        simp only [Step.isOf, Bool.and_eq_true, beq_iff_eq] at ho
        obtain ⟨rfl, rfl⟩ := ho
        have hiff := pass_iff_seen_lt hmax e h
        simp only [Bool.true_and, passes, hiff, if_true]
        by_cases hlt : seen steps (Fingerprint.ofError e) minute < max
        · rw [if_pos hlt]
          omega
        · rw [if_neg hlt]
          omega

end Throttle

namespace Pipeline

def Move.review? : Move → Option Throttle.Step
  | .append e now => e.error.map fun error => .see error (minuteOf now)
  | _ => none

def reviewed (moves : List Move) : List Throttle.Step := moves.filterMap Move.review?

variable (p : Pipeline)

theorem throttle_work (now : Nat) : (p.work now).1.throttle = p.throttle := by
  unfold work
  split
  · unfold conclude
    split <;> rfl
  all_goals rfl

theorem throttle_wake : p.wake.throttle = p.throttle := by
  unfold wake
  split <;> rfl

theorem throttle_append (e : Event) (now : Nat) :
    (p.append e now).1.throttle =
      (e.error.map fun error => .see error (minuteOf now)).elim p.throttle p.throttle.next := by
  cases h : e.error <;> simp [append, review, h, Throttle.next]

theorem throttle_next (move : Move) :
    (p.next move).throttle = move.review?.elim p.throttle p.throttle.next := by
  cases move with
  | append e now => exact p.throttle_append e now
  | govern rules => rfl
  | wake => exact p.throttle_wake
  | cancel => exact throttle_wake { p with cancelled := true }
  | work now => exact p.throttle_work now
  | answer r =>
    simp only [next, answered]
    split <;> rfl
  | resume =>
    simp only [next, paused]
    split <;> rfl

theorem throttle_run (moves : List Move) :
    (moves.foldl next p).throttle = p.throttle.run (reviewed moves) := by
  induction moves generalizing p with
  | nil => rfl
  | cons move moves ih =>
    rw [List.foldl_cons, ih, throttle_next]
    cases h : move.review? <;> simp [reviewed, h, Throttle.run]

/-- Offered errors are let in by what was offered before, and other events always; an event that is let
in is the newest one in the outbox, and one that is not leaves the outbox as it was. -/
theorem append_iff_seen_lt {s : Settings} (hmax : s.maxDuplicates < Counter.countMax)
    (courier : Courier) (identity : IdentitySource) (rules : RuleBook) {moves : List Move}
    {e : Event} {now : Nat} (h : Throttle.InOrder (reviewed (moves ++ [.append e now]))) :
    let p := moves.foldl next (start s courier identity rules)
    ((p.append e now).2 = true ↔ ∀ error, e.error = some error →
      Throttle.seen (reviewed moves) (Fingerprint.ofError error) (minuteOf now) <
        s.maxDuplicates) ∧
    (p.append e now).1.outbox = (if (p.append e now).2 then p.outbox.append e else p.outbox) ∧
    (p.outbox.append e).events.items =
      (if p.outbox.events.isFull then p.outbox.events.items.tail else p.outbox.events.items) ++
        [e] := by
  intro p
  refine ⟨?_, (p.append_fields e now).2.2.2, p.outbox.items_append e⟩
  have hthrottle : p.throttle =
      Throttle.run { maxPerMinute := s.maxDuplicates } (reviewed moves) :=
    throttle_run (start s courier identity rules) moves
  cases he : e.error with
  | none => simp [append, review, he]
  | some error =>
    have hlast : reviewed (moves ++ [.append e now]) =
        reviewed moves ++ [.see error (minuteOf now)] := by
      simp [reviewed, List.filterMap_append, Move.review?, he]
    rw [hlast] at h
    have hiff := Throttle.pass_iff_seen_lt hmax error h
    rw [← hthrottle] at hiff
    simpa [append, review, he] using hiff

/-- In any run in which minutes do not go back, an error passes exactly if fewer than the maximum
of its fingerprint have been seen in the minute, so that as many pass as the maximum allows. Of
the events offered to a pipeline, exactly the errors that do not pass stay out of the outbox; all others
go to its end. -/
theorem duplicate_threshold_exact {max : Nat} (hmax : max < Counter.countMax) :
    (∀ steps e minute, Throttle.InOrder (steps ++ [.see e minute]) →
      (((Throttle.run { maxPerMinute := max } steps).pass e minute).2 = true ↔
        Throttle.seen steps (Fingerprint.ofError e) minute < max)) ∧
    (∀ steps fingerprint minute, Throttle.InOrder steps →
      Throttle.passed fingerprint minute { maxPerMinute := max } steps =
        min max (Throttle.seen steps fingerprint minute)) ∧
    ∀ (s : Settings) (courier : Courier) (identity : IdentitySource) (rules : RuleBook),
      s.maxDuplicates = max → ∀ moves e now,
      Throttle.InOrder (reviewed (moves ++ [.append e now])) →
      let p := moves.foldl next (start s courier identity rules)
      ((p.append e now).2 = true ↔ ∀ error, e.error = some error →
        Throttle.seen (reviewed moves) (Fingerprint.ofError error) (minuteOf now) < max) ∧
      (p.append e now).1.outbox =
        (if (p.append e now).2 then p.outbox.append e else p.outbox) ∧
      (p.outbox.append e).events.items =
        (if p.outbox.events.isFull then p.outbox.events.items.tail else p.outbox.events.items) ++
          [e] := by
  refine ⟨?_, ?_, ?_⟩
  · intro steps e minute h
    exact Throttle.pass_iff_seen_lt hmax e h
  · intro steps fingerprint minute h
    exact Throttle.passed_eq_min hmax h
  · rintro s courier identity rules rfl moves e now h
    exact append_iff_seen_lt hmax courier identity rules h

theorem second_error_refused :
    let error : ErrorChain := ⟨⟨"after 30 s", "Timeout", none, .empty, []⟩, []⟩
    let steps : List Throttle.Step := [.see error 7, .purge 7]
    let moves : List Move := [.append (.ofError .error error 1) 420000]
    1 < Counter.countMax ∧ Throttle.InOrder (steps ++ [.see error 7]) ∧
    Throttle.InOrder (reviewed (moves ++ [.append (.ofMessage .info "text" 1) 420000])) ∧
    ((Throttle.run { maxPerMinute := 1 } steps).pass error 7).2 = false ∧
    ((moves.foldl next (start { maxDuplicates := 1 }
      ⟨Format.json.codec false, {}, .withCapacity 4 0⟩ .nobody [])).append
        (.ofMessage .info "text" 1) 420000).2 = true := by
  intro error steps moves
  have hmax : 1 < Counter.countMax := by decide
  have hsteps : Throttle.InOrder (steps ++ [.see error 7]) := by
    simp [steps, Throttle.InOrder, Throttle.Step.Precedes, Throttle.Step.minute]
  have hmoves : Throttle.InOrder
      (reviewed (moves ++ [.append (.ofMessage .info "text" 1) 420000])) :=
    List.pairwise_singleton Throttle.Step.Precedes (.see error 7)
  obtain ⟨hpass, -, hlet⟩ := duplicate_threshold_exact hmax
  refine ⟨hmax, hsteps, hmoves, ?_, ?_⟩
  · have hseen : ¬ Throttle.seen steps (Fingerprint.ofError error) 7 < 1 := by
      simp [steps, Throttle.seen, Throttle.Step.isOf]
    exact Bool.eq_false_iff.mpr fun hp => hseen ((hpass steps error 7 hsteps).mp hp)
  · refine (hlet _ _ _ _ rfl moves _ _ hmoves).1.mpr fun e he => ?_
    cases he

end Pipeline
end LogDelivery
