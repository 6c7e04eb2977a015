import LogDelivery.Pace
import Mathlib.Data.List.DropRight

/-!
# Streaks of failures

The pace keeps two numbers, and the time at which the current streak of failures began is all it
remembers of the past. Here it is read off the whole history of cycles: a refused key starts the
clock anew, any other failure starts it only if it is not running, and a delivery stops it.
-/
namespace LogDelivery

structure CycleEnd where
  result : CycleResult
  time : Nat

namespace CycleEnd

def isSent (c : CycleEnd) : Bool := c.result matches .sent _

def isUnauthorized (c : CycleEnd) : Bool := c.result = .unauthorized

/-- The cycles since the last delivery. -/
def streak (cycles : List CycleEnd) : List CycleEnd := cycles.rtakeWhile fun c => !c.isSent

/-- The last refusal of the key since the last delivery counts, or else the first failure. -/
def streakStart? (cycles : List CycleEnd) : Option Nat :=
  (((streak cycles).filter isUnauthorized).getLast?.or (streak cycles).head?).map (·.time)

section

variable {cycles : List CycleEnd} {c : CycleEnd}

theorem streak_sent (h : c.isSent) : streak (cycles ++ [c]) = [] :=
  List.rtakeWhile_concat_neg _ _ _ (by simp [h])

theorem streak_failed (h : c.isSent = false) : streak (cycles ++ [c]) = streak cycles ++ [c] :=
  List.rtakeWhile_concat_pos _ _ _ (by simp [h])

theorem streak_eq_nil_iff :
    streak cycles = [] ↔ cycles = [] ∨ ∃ c, cycles.getLast? = some c ∧ c.isSent := by
  induction cycles using List.reverseRecOn with
  | nil => simp [streak]
  | append_singleton cycles c _ =>
    cases hs : c.isSent with
    | true => simp [streak_sent hs, hs]
    | false => simp [streak_failed hs, hs]

theorem streakStart?_eq_none_iff : streakStart? cycles = none ↔ streak cycles = [] := by
  constructor
  · intro h
    simp only [streakStart?, Option.map_eq_none_iff, Option.or_eq_none_iff] at h
    exact List.head?_eq_none_iff.mp h.2
  · intro h
    simp [streakStart?, h]

theorem streakStart?_mem {since : Nat} (h : streakStart? cycles = some since) :
    ∃ c ∈ cycles, c.time = since := by
  obtain ⟨c, hc, rfl⟩ := Option.map_eq_some_iff.mp h
  have hsuffix : streak cycles <:+ cycles := List.rtakeWhile_suffix _ _
  refine ⟨c, hsuffix.mem ?_, rfl⟩
  rcases Option.or_eq_some_iff.mp hc with hlast | ⟨-, hfirst⟩
  · exact (List.mem_filter.mp (List.mem_of_getLast? hlast)).1
  · exact List.mem_of_head? hfirst

theorem streakStart?_unauthorized (h : c.result = .unauthorized) :
    streakStart? (cycles ++ [c]) = some c.time := by
  have hs : c.isSent = false := by simp [isSent, h]
  simp [streakStart?, streak_failed hs, List.filter_append, isUnauthorized, h]

theorem streakStart?_failed (h : c.result = .failed) :
    streakStart? (cycles ++ [c]) = some ((streakStart? cycles).getD c.time) := by
  have hs : c.isSent = false := by simp [isSent, h]
  have hu : c.isUnauthorized = false := by simp [isUnauthorized, h]
  rw [streakStart?, streak_failed hs, List.filter_append, List.filter_singleton, hu]
  cases hp : streak cycles with
  | nil => simp [streakStart?, hp]
  | cons first rest =>
    cases hl : ((first :: rest).filter isUnauthorized).getLast? <;> simp [streakStart?, hp, hl]

end

end CycleEnd

namespace Pace

open CycleEnd

def run (limits : PaceLimits) (cycles : List CycleEnd) : Pace :=
  cycles.foldl (fun p c => p.next c.result c.time limits) (.start limits)

variable {limits : PaceLimits} {cycles : List CycleEnd} {c : CycleEnd}

theorem run_append (limits : PaceLimits) (cycles : List CycleEnd) (c : CycleEnd) :
    run limits (cycles ++ [c]) = (run limits cycles).next c.result c.time limits := by
  simp [run]

theorem clamp_mono {lo hi d e : Duration} (h : d ≤ e) : clamp lo hi d ≤ clamp lo hi e := by
  unfold clamp
  have hmin : min d hi ≤ min e hi :=
    Nat.le_min.mpr ⟨Nat.le_trans (Nat.min_le_left d hi) h, Nat.min_le_right d hi⟩
  exact Nat.max_le.mpr ⟨Nat.le_max_left .., Nat.le_trans hmin (Nat.le_max_right ..)⟩

/-- The clock of the streak, by the history alone; zero stands for a clock that does not run. -/
theorem failingSince_run (hpos : ∀ c ∈ cycles, 0 < c.time) :
    (run limits cycles).failingSince = (streakStart? cycles).getD 0 := by
  induction cycles using List.reverseRecOn with
  | nil => rfl
  | append_singleton cycles c ih =>
    have hbefore : ∀ x ∈ cycles, 0 < x.time := fun x hx => hpos x (List.mem_append_left _ hx)
    rw [run_append]
    cases hr : c.result with
    | sent events =>
      have hs : c.isSent := by simp [isSent, hr]
      simp [next, streakStart?, streak_sent hs]
    | unauthorized => simp [next, streakStart?_unauthorized hr]
    | failed =>
      rw [streakStart?_failed hr]
      simp only [next, ih hbefore, Option.getD_some]
      cases hstart : streakStart? cycles with
      | none => simp
      | some since =>
        obtain ⟨x, hx, rfl⟩ := streakStart?_mem hstart
        have hne : x.time ≠ 0 := Nat.ne_of_gt (hbefore x hx)
        simp [hne]

theorem isFailing_run (hpos : ∀ c ∈ cycles, 0 < c.time) :
    (run limits cycles).isFailing = (streakStart? cycles).isSome := by
  rw [isFailing, failingSince_run hpos]
  cases hstart : streakStart? cycles with
  | none => rfl
  | some since =>
    obtain ⟨x, hx, rfl⟩ := streakStart?_mem hstart
    have hne : x.time ≠ 0 := Nat.ne_of_gt (hpos x hx)
    simp [hne]

theorem delay_failed (hc : c.result = .failed) :
    (run limits (cycles ++ [c])).delay =
      clamp limits.min (max limits.min limits.maxError)
        (.ofMillis (c.time - (run limits (cycles ++ [c])).failingSince)) := by
  simp only [run_append, hc, next, Nat.max_comm limits.min]

theorem failingSince_failed (hc : c.result = .failed) (h : (run limits cycles).isFailing) :
    (run limits (cycles ++ [c])).failingSince = (run limits cycles).failingSince := by
  have hne : (run limits cycles).failingSince ≠ 0 := by simpa [isFailing] using h
  simp [run_append, hc, next, hne]

theorem delay_le_delay_failed {d : CycleEnd} (hpos : ∀ x ∈ cycles ++ [c], 0 < x.time)
    (hle : c.time ≤ d.time) (hc : c.result = .failed) (hd : d.result = .failed) :
    (run limits (cycles ++ [c])).delay ≤ (run limits (cycles ++ [c] ++ [d])).delay := by
  have hfailing : (run limits (cycles ++ [c])).isFailing := by
    rw [isFailing_run hpos, streakStart?_failed hc]
    rfl
  rw [delay_failed hc, delay_failed hd, failingSince_failed hd hfailing]
  apply clamp_mono
  exact Nat.mul_le_mul_right _ (Nat.sub_le_sub_right hle _)

theorem delay_mono_of_failures {before failures : List CycleEnd}
    (hpos : ∀ x ∈ before ++ failures, 0 < x.time)
    (hmono : (before ++ failures).Pairwise fun a b => a.time ≤ b.time)
    (hfailed : ∀ x ∈ failures, x.result = .failed) {i j : Nat} (hi : 0 < i) (hij : i ≤ j)
    (hj : j ≤ failures.length) :
    (run limits (before ++ failures.take i)).delay ≤
      (run limits (before ++ failures.take j)).delay := by
  induction j, hij using Nat.le_induction with
  | base => exact Nat.le_refl _
  | succ j hij ih =>
    apply Nat.le_trans (ih (Nat.le_of_succ_le hj))
    obtain ⟨k, rfl⟩ : ∃ k, j = k + 1 := ⟨j - 1, by omega⟩
    have hk : k < failures.length := by omega
    have htake : ∀ n (h : n < failures.length),
        before ++ failures.take (n + 1) = before ++ failures.take n ++ [failures[n]] := by
      intro n h
      rw [← List.take_append_getElem h, List.append_assoc]
    rw [htake (k + 1) hj, htake k hk]
    apply delay_le_delay_failed
    · intro x hx
      rw [← htake k hk] at hx
      rcases List.mem_append.mp hx with hx | hx
      · exact hpos x (List.mem_append_left _ hx)
      · exact hpos x (List.mem_append_right _ (List.mem_of_mem_take hx))
    · have hsorted := (List.pairwise_append.mp hmono).2.1
      exact List.pairwise_iff_getElem.mp hsorted k (k + 1) hk hj (Nat.lt_succ_self k)
    · exact hfailed _ (List.getElem_mem hk)
    · exact hfailed _ (List.getElem_mem hj)

/-- In any run in which times are positive and do not go back, the pace is failing unless the last
cycle was a delivery or there was none, and the clock of its streak is the one of the history. Each
failure makes the delay as long as the streak has lasted, within the limits, so that it never
decreases from one failure to the next. All this is about `run`, where times and durations have no
bound; arithmetic that can fail, `run?`, comes to the same pace wherever it comes to one. -/
theorem streak_law (limits : PaceLimits) {cycles : List CycleEnd}
    (hpos : ∀ c ∈ cycles, 0 < c.time)
    (hmono : cycles.Pairwise fun a b => a.time ≤ b.time) :
    ((run limits cycles).isFailing = false ↔
      cycles = [] ∨ ∃ c, cycles.getLast? = some c ∧ c.isSent) ∧
    ((run limits cycles).isFailing = true →
      streakStart? cycles = some (run limits cycles).failingSince) ∧
    (∀ before c, cycles = before ++ [c] → c.result = .failed →
      (run limits cycles).delay = clamp limits.min (max limits.min limits.maxError)
        (.ofMillis (c.time - (run limits cycles).failingSince))) ∧
    ∀ before failures after, cycles = before ++ failures ++ after →
      (∀ c ∈ failures, c.result = .failed) →
      ∀ i j, 0 < i → i ≤ j → j ≤ failures.length →
        (run limits (before ++ failures.take i)).delay ≤
          (run limits (before ++ failures.take j)).delay := by
  refine ⟨?_, ?_, ?_, ?_⟩
  · rw [isFailing_run hpos, Option.isSome_eq_false_iff, Option.isNone_iff_eq_none,
      streakStart?_eq_none_iff, streak_eq_nil_iff]
  · intro hfailing
    rw [isFailing_run hpos] at hfailing
    obtain ⟨since, hsince⟩ := Option.isSome_iff_exists.mp hfailing
    rw [failingSince_run hpos, hsince, Option.getD_some]
  · rintro before c rfl hc
    exact delay_failed hc
  · rintro before failures after rfl hfailed i j hi hij hj
    apply delay_mono_of_failures _ _ hfailed hi hij hj
    · intro c hc
      exact hpos c (List.mem_append_left _ hc)
    · exact (List.pairwise_append.mp hmono).1

theorem streak_law_after_refusal :
    let cycles : List CycleEnd :=
      [⟨.failed, 1000⟩, ⟨.unauthorized, 5000⟩, ⟨.failed, 9000⟩, ⟨.failed, 47000⟩]
    (∀ c ∈ cycles, 0 < c.time) ∧ (cycles.Pairwise fun a b => a.time ≤ b.time) ∧
    (run {} cycles).isFailing ∧ streakStart? cycles = some 5000 ∧
    (run {} cycles).failingSince = 5000 ∧ (run {} cycles).delay = .ofSeconds 42 ∧
    (run {} (cycles.take 3)).delay ≤ (run {} cycles).delay := by
  intro cycles
  have hpos : ∀ c ∈ cycles, 0 < c.time := by simp [cycles]
  have hmono : cycles.Pairwise fun a b => a.time ≤ b.time := by simp [cycles]
  obtain ⟨hfailing, hsince, hdelay, hgrows⟩ := streak_law {} hpos hmono
  have hstart : streakStart? cycles = some 5000 := by decide
  have hfails : (run {} cycles).isFailing := by
    rw [← Bool.not_eq_false, hfailing]
    simp [cycles, isSent]
  have h5000 : (run {} cycles).failingSince = 5000 :=
    Option.some.inj ((hsince hfails).symm.trans hstart)
  refine ⟨hpos, hmono, hfails, hstart, h5000, ?_, ?_⟩
  · rw [hdelay (cycles.take 3) ⟨.failed, 47000⟩ rfl rfl, h5000]
    decide
  · exact hgrows (cycles.take 2) (cycles.drop 2) [] rfl (by simp [cycles]) 1 2 (by decide)
      (by decide) (by decide)

end Pace
end LogDelivery
