import LogDelivery.Proofs.FailureStreak

/-!
# The limits of delays

Every delay lies between limits of the pace, in whatever order these are given. Durations are
bounded, and so their arithmetic can fail: a range must not end before it begins, and a sum must be
representable. The pace is computed a second time with such failures in place of results that do not
exist. There is only one, a quiet cycle at a delay that has no room for a quarter more.
-/
namespace LogDelivery

inductive DurationFault where
  | emptyRange (lo hi : Duration)
  | overflow (a b : Duration)
  deriving DecidableEq

namespace Duration

def add? (a b : Duration) : Except DurationFault Duration :=
  if a + b ≤ longest then .ok (a + b) else .error (.overflow a b)

def clamp? (lo hi d : Duration) : Except DurationFault Duration :=
  if lo ≤ hi then .ok (Pace.clamp lo hi d) else .error (.emptyRange lo hi)

end Duration

namespace PaceLimits

/-- A quarter can be added to any of the limits. -/
def Moderate (limits : PaceLimits) : Prop :=
  ∀ d ∈ [limits.min, limits.maxNormal, limits.maxError, limits.auth, limits.initial],
    5 * d ≤ 4 * Duration.longest

instance (limits : PaceLimits) : Decidable limits.Moderate :=
  inferInstanceAs (Decidable (∀ d ∈ [_, _, _, _, _], _))

def shortest (limits : PaceLimits) : Duration := Min.min limits.min limits.auth

def longest (limits : PaceLimits) : Duration :=
  max (max limits.min limits.maxNormal) (max limits.maxError limits.auth)

end PaceLimits

def CycleEnd.IsQuiet (c : CycleEnd) : Prop := ∃ events < Pace.lowThroughput, c.result = .sent events

namespace Pace

def start? (limits : PaceLimits) : Except DurationFault Pace := do
  let delay ← Duration.clamp? limits.min (max limits.maxNormal limits.min) limits.initial
  return ⟨delay, 0⟩

def next? (p : Pace) (result : CycleResult) (now : Nat) (limits : PaceLimits) :
    Except DurationFault Pace :=
  match result with
  | .sent events =>
    if highThroughput ≤ events then return ⟨max (p.delay / 2) limits.min, 0⟩
    else if events < lowThroughput then do
      let longer ← Duration.add? p.delay (p.delay / 4)
      return ⟨max (min longer limits.maxNormal) limits.min, 0⟩
    else return ⟨p.delay, 0⟩
  | .unauthorized => return ⟨limits.auth, now⟩
  | .failed => do
    let since := if p.failingSince = 0 then now else p.failingSince
    let delay ← Duration.clamp? limits.min (max limits.maxError limits.min)
      (Duration.ofMillis (now - since))
    return ⟨delay, since⟩

/-- The pace after some cycles, unless the arithmetic fails on the way. If it does not, this is what `run`
says. -/
def run? (limits : PaceLimits) (cycles : List CycleEnd) : Except DurationFault Pace := do
  cycles.foldlM (fun p c => p.next? c.result c.time limits) (← start? limits)

variable {limits : PaceLimits} {cycles : List CycleEnd}

theorem start_within (limits : PaceLimits) :
    limits.shortest ≤ (start limits).delay ∧ (start limits).delay ≤ limits.longest := by
  simp only [start, clamp, PaceLimits.shortest, PaceLimits.longest, Duration]
  omega

/-- A delay that one branch has left over is within the limits of every other. -/
theorem next_within {p : Pace} (h : limits.shortest ≤ p.delay ∧ p.delay ≤ limits.longest)
    (result : CycleResult) (now : Nat) :
    limits.shortest ≤ (p.next result now limits).delay ∧
      (p.next result now limits).delay ≤ limits.longest := by
  simp only [PaceLimits.shortest, PaceLimits.longest, Duration] at *
  cases result with
  | sent events =>
    simp only [next]
    split
    · omega
    · split
      · omega
      · exact h
  | unauthorized =>
    simp only [next]
    omega
  | failed =>
    simp only [next, clamp]
    omega

theorem run_within (limits : PaceLimits) (cycles : List CycleEnd) :
    limits.shortest ≤ (run limits cycles).delay ∧ (run limits cycles).delay ≤ limits.longest := by
  induction cycles using List.reverseRecOn with
  | nil => exact start_within limits
  | append_singleton cycles c ih =>
    rw [run_append]
    exact next_within ih c.result c.time

theorem clamp?_of_le {lo hi : Duration} (h : lo ≤ hi) (d : Duration) :
    Duration.clamp? lo hi d = .ok (clamp lo hi d) := if_pos h

theorem start?_eq (limits : PaceLimits) : start? limits = .ok (start limits) := by
  have hrange : limits.min ≤ max limits.maxNormal limits.min := Nat.le_max_right ..
  simp only [start?, clamp?_of_le hrange]
  rfl

theorem next?_eq (p : Pace) (c : CycleEnd) (limits : PaceLimits) :
    p.next? c.result c.time limits = .ok (p.next c.result c.time limits) ∨
    (c.IsQuiet ∧ Duration.longest < p.delay + p.delay / 4 ∧
      p.next? c.result c.time limits = .error (.overflow p.delay (p.delay / 4))) := by
  cases hr : c.result with
  | sent events =>
    by_cases hbusy : highThroughput ≤ events
    · left
      simp only [next?, next, hbusy, if_true]
      rfl
    by_cases hquiet : events < lowThroughput
    · by_cases hfits : p.delay + p.delay / 4 ≤ Duration.longest
      · left
        simp only [next?, next, hbusy, hquiet, if_true, if_false, Duration.add?, hfits]
        rfl
      · right
        refine ⟨⟨events, hquiet, hr⟩, Nat.lt_of_not_le hfits, ?_⟩
        simp only [next?, hbusy, hquiet, if_true, if_false, Duration.add?, hfits]
        rfl
    · left
      simp only [next?, next, hbusy, hquiet, if_false]
      rfl
  | unauthorized => exact Or.inl rfl
  | failed =>
    left
    have hrange : limits.min ≤ max limits.maxError limits.min := Nat.le_max_right ..
    simp only [next?, next, clamp?_of_le hrange]
    rfl

theorem run?_append (limits : PaceLimits) (cycles : List CycleEnd) (c : CycleEnd) :
    run? limits (cycles ++ [c]) =
      (run? limits cycles).bind fun p => p.next? c.result c.time limits := by
  simp only [run?, List.foldlM_append, List.foldlM_cons, List.foldlM_nil, bind_pure]
  exact (bind_assoc ..).symm

theorem run?_eq (limits : PaceLimits) (cycles : List CycleEnd) :
    run? limits cycles = .ok (run limits cycles) ∨
    ∃ before c after, cycles = before ++ c :: after ∧ c.IsQuiet ∧
      Duration.longest < (run limits before).delay + (run limits before).delay / 4 ∧
      run? limits cycles =
        .error (.overflow (run limits before).delay ((run limits before).delay / 4)) := by
  induction cycles using List.reverseRecOn with
  | nil =>
    left
    simp only [run?, start?_eq]
    rfl
  | append_singleton cycles c ih =>
    rw [run?_append, run_append]
    rcases ih with hok | ⟨before, d, after, rfl, hquiet, hlong, hfault⟩
    · rw [hok]
      rcases next?_eq (run limits cycles) c limits with hnext | ⟨hquiet, hlong, hfault⟩
      · exact Or.inl hnext
      · exact Or.inr ⟨cycles, c, [], rfl, hquiet, hlong, hfault⟩
    · refine Or.inr ⟨before, d, after ++ [c], by simp, hquiet, hlong, ?_⟩
      rw [hfault]
      rfl

theorem add_quarter_le (h : limits.Moderate) {d : Duration} (hd : d ≤ limits.longest) :
    d + d / 4 ≤ Duration.longest := by
  have hlongest : 5 * limits.longest ≤ 4 * Duration.longest := by
    simp only [PaceLimits.Moderate, List.forall_mem_cons, Duration] at h
    simp only [PaceLimits.longest, Duration]
    omega
  simp only [Duration] at *
  omega

theorem run?_of_moderate (h : limits.Moderate) (cycles : List CycleEnd) :
    run? limits cycles = .ok (run limits cycles) := by
  rcases run?_eq limits cycles with hok | ⟨before, c, after, -, -, hlong, -⟩
  · exact hok
  · have hfits := add_quarter_le h (run_within limits before).2
    exact absurd hfits (Nat.not_le_of_lt hlong)

/-- Whatever the limits are and however the cycles end, at whatever times: each delay is between the
smaller of the least delay and the one after a refused key, and the largest of all limits. No range
is ever empty, and only the sum of a quiet cycle can overflow. With moderate limits nothing fails. -/
theorem delay_within_limits (limits : PaceLimits) (cycles : List CycleEnd) :
    (min limits.min limits.auth ≤ (run limits cycles).delay ∧
      (run limits cycles).delay ≤
        max (max limits.min limits.maxNormal) (max limits.maxError limits.auth)) ∧
    (run? limits cycles = .ok (run limits cycles) ∨
      ∃ before c after, cycles = before ++ c :: after ∧ c.IsQuiet ∧
        Duration.longest < (run limits before).delay + (run limits before).delay / 4 ∧
        run? limits cycles =
          .error (.overflow (run limits before).delay ((run limits before).delay / 4))) ∧
    (limits.Moderate → run? limits cycles = .ok (run limits cycles)) := by
  refine ⟨run_within limits cycles, run?_eq limits cycles, ?_⟩
  intro hmoderate
  exact run?_of_moderate hmoderate cycles

example : ({} : PaceLimits).Moderate := by decide

/-- The longest delay after a refused key leaves no room for a quarter more. -/
example :
    run? { auth := Duration.longest } [⟨.unauthorized, 1000⟩, ⟨.sent 0, 2000⟩] =
      .error (.overflow Duration.longest (Duration.longest / 4)) := by
  decide

end Pace
end LogDelivery
