import LogDelivery.Proofs.DelayLimits
import Mathlib.Data.Nat.Log
import Mathlib.Logic.Function.Iterate

/-!
# Settling

While all cycles are quiet, or all are busy, the delay goes in one direction and comes to rest at a
limit, wherever it started. A quarter of a delay is rounded down, so the growth would stop short of
the limit at delays below four; above, four quiet cycles at least double the delay.
-/
namespace LogDelivery

def CycleEnd.IsBusy (c : CycleEnd) : Prop :=
  ∃ events, Pace.highThroughput ≤ events ∧ c.result = .sent events

namespace Pace

def lengthened (limits : PaceLimits) (d : Duration) : Duration :=
  max (min (d + d / 4) limits.maxNormal) limits.min

def shortened (limits : PaceLimits) (d : Duration) : Duration := max (d / 2) limits.min

/-- The longest delay between deliveries that succeed, also if the limits are not in order. -/
def rest (limits : PaceLimits) : Duration := max limits.min limits.maxNormal

variable {limits : PaceLimits} {cycles more : List CycleEnd} {d : Duration}

theorem delay_next_quiet {c : CycleEnd} (h : c.IsQuiet) (p : Pace) :
    (p.next c.result c.time limits).delay = lengthened limits p.delay := by
  obtain ⟨events, hfew, hr⟩ := h
  have hbusy : ¬ highThroughput ≤ events := by
    simp only [lowThroughput, highThroughput] at *
    omega
  simp only [hr, next, hbusy, hfew, if_true, if_false, lengthened]

theorem delay_next_busy {c : CycleEnd} (h : c.IsBusy) (p : Pace) :
    (p.next c.result c.time limits).delay = shortened limits p.delay := by
  obtain ⟨events, hmany, hr⟩ := h
  simp only [hr, next, hmany, if_true, shortened]

theorem delay_run_append {step : Duration → Duration}
    (h : ∀ c ∈ more, ∀ p : Pace, (p.next c.result c.time limits).delay = step p.delay) :
    (run limits (cycles ++ more)).delay = step^[more.length] (run limits cycles).delay := by
  induction more using List.reverseRecOn with
  | nil => simp
  | append_singleton more c ih =>
    have hmore := ih fun x hx => h x (List.mem_append_left _ hx)
    rw [← List.append_assoc, run_append, h c (by simp), hmore, List.length_append,
      List.length_singleton, Function.iterate_succ_apply']

theorem delay_run_quiet (h : ∀ c ∈ more, c.IsQuiet) :
    (run limits (cycles ++ more)).delay =
      (lengthened limits)^[more.length] (run limits cycles).delay :=
  delay_run_append fun c hc => delay_next_quiet (h c hc)

theorem delay_run_busy (h : ∀ c ∈ more, c.IsBusy) :
    (run limits (cycles ++ more)).delay =
      (shortened limits)^[more.length] (run limits cycles).delay :=
  delay_run_append fun c hc => delay_next_busy (h c hc)

theorem lengthened_within (limits : PaceLimits) (d : Duration) :
    limits.min ≤ lengthened limits d ∧ lengthened limits d ≤ rest limits := by
  simp only [lengthened, rest, Duration]
  omega

/-- Above the least delay, only the limit stops a delay from growing by a quarter. -/
theorem lengthened_of_min_le (h : limits.min ≤ d) :
    lengthened limits d = min (d + d / 4) (rest limits) := by
  simp only [lengthened, rest, Duration] at *
  omega

theorem iterate_lengthened_within {k : Nat} (hk : 0 < k) (limits : PaceLimits) (d : Duration) :
    limits.min ≤ (lengthened limits)^[k] d ∧ (lengthened limits)^[k] d ≤ rest limits := by
  obtain ⟨k, rfl⟩ : ∃ n, k = n + 1 := ⟨k - 1, by omega⟩
  rw [Function.iterate_succ_apply']
  exact lengthened_within limits _

theorem le_lengthened (hlow : limits.min ≤ d) (hhigh : d ≤ rest limits) :
    d ≤ lengthened limits d := by
  rw [lengthened_of_min_le hlow]
  exact Nat.le_min.mpr ⟨Nat.le_add_right .., hhigh⟩

theorem iterate_lengthened_mono {i j : Nat} (hi : 0 < i) (hij : i ≤ j) (limits : PaceLimits)
    (d : Duration) : (lengthened limits)^[i] d ≤ (lengthened limits)^[j] d := by
  induction j, hij using Nat.le_induction with
  | base => exact Nat.le_refl _
  | succ j hij ih =>
    obtain ⟨hlow, hhigh⟩ := iterate_lengthened_within (Nat.lt_of_lt_of_le hi hij) limits d
    rw [Function.iterate_succ_apply']
    exact Nat.le_trans ih (le_lengthened hlow hhigh)

def grown (d : Nat) : Nat := d + d / 4

/-- From four on, a delay grows by at least one each time, and the quarters of four numbers in a row
make up the first of them. -/
theorem two_mul_le_grown {d : Nat} (h : 4 ≤ d) : 2 * d ≤ grown^[4] d := by
  have hgrow : ∀ e i, d + i ≤ e → e + (d + i) / 4 ≤ grown e :=
    fun e i hi => Nat.add_le_add_left (Nat.div_le_div_right hi) e
  have hquarters : d / 4 + (d + 1) / 4 + (d + 2) / 4 + (d + 3) / 4 = d := by omega
  have h₁ := hgrow d 0 (by omega)
  have h₂ := hgrow (grown d) 1 (by omega)
  have h₃ := hgrow (grown (grown d)) 2 (by omega)
  have h₄ := hgrow (grown (grown (grown d))) 3 (by omega)
  change 2 * d ≤ grown (grown (grown (grown d)))
  rw [Nat.add_zero] at h₁
  omega

theorem two_pow_mul_le_grown {d : Nat} (h : 4 ≤ d) (k : Nat) : 2 ^ k * d ≤ grown^[4 * k] d := by
  induction k with
  | zero => simp
  | succ k ih =>
    have hfour : 4 ≤ grown^[4 * k] d := by
      have hpos := Nat.two_pow_pos k
      have hmore : d ≤ 2 ^ k * d := Nat.le_mul_of_pos_left d hpos
      omega
    have hdouble := two_mul_le_grown hfour
    rw [Nat.mul_succ, Nat.add_comm (4 * k), Function.iterate_add_apply, Nat.pow_succ',
      Nat.mul_assoc]
    omega

theorem iterate_lengthened (hlow : limits.min ≤ d) (hhigh : d ≤ rest limits) (k : Nat) :
    (lengthened limits)^[k] d = min (grown^[k] d) (rest limits) := by
  induction k with
  | zero => exact (Nat.min_eq_left hhigh).symm
  | succ k ih =>
    have hstill : limits.min ≤ (lengthened limits)^[k] d := by
      rcases Nat.eq_zero_or_pos k with rfl | hk
      · exact hlow
      · exact (iterate_lengthened_within hk limits d).1
    rw [Function.iterate_succ_apply', lengthened_of_min_le hstill, ih, Function.iterate_succ_apply',
      grown]
    simp only [Duration] at *
    omega

theorem iterate_lengthened_rests (hmin : 4 ≤ limits.min) (d : Duration) {k : Nat}
    (hk : 1 + 4 * Nat.clog 2 (rest limits) ≤ k) :
    (lengthened limits)^[k] d = rest limits := by
  obtain ⟨hlow, hhigh⟩ := lengthened_within limits d
  have hfour : 4 ≤ lengthened limits d := Nat.le_trans hmin hlow
  have hgrown : rest limits ≤ grown^[4 * Nat.clog 2 (rest limits)] (lengthened limits d) :=
    calc rest limits ≤ 2 ^ Nat.clog 2 (rest limits) := Nat.le_pow_clog (by decide) _
      _ ≤ 2 ^ Nat.clog 2 (rest limits) * lengthened limits d :=
        Nat.le_mul_of_pos_right _ (Nat.lt_of_lt_of_le (by decide) hfour)
      _ ≤ grown^[4 * Nat.clog 2 (rest limits)] (lengthened limits d) := two_pow_mul_le_grown hfour _
  have hreached : (lengthened limits)^[4 * Nat.clog 2 (rest limits) + 1] d = rest limits := by
    rw [Function.iterate_succ_apply, iterate_lengthened hlow hhigh, Nat.min_eq_right hgrown]
  apply Nat.le_antisymm
  · exact (iterate_lengthened_within (by omega) limits d).2
  · rw [← hreached]
    exact iterate_lengthened_mono (by omega) (by omega) limits d

theorem iterate_shortened (limits : PaceLimits) (d : Duration) (k : Nat) :
    (shortened limits)^[k + 1] d = max (d / 2 ^ (k + 1)) limits.min := by
  induction k with
  | zero => simp [shortened]
  | succ k ih =>
    have hhalf : d / 2 ^ (k + 1 + 1) = d / 2 ^ (k + 1) / 2 := by
      rw [Nat.pow_succ, Nat.div_div_eq_div_mul]
    rw [Function.iterate_succ_apply', ih, hhalf, shortened]
    simp only [Duration]
    omega

theorem iterate_shortened_mono {i j : Nat} (hi : 0 < i) (hij : i ≤ j) (limits : PaceLimits)
    (d : Duration) : (shortened limits)^[j] d ≤ (shortened limits)^[i] d := by
  obtain ⟨i, rfl⟩ : ∃ n, i = n + 1 := ⟨i - 1, by omega⟩
  obtain ⟨j, rfl⟩ : ∃ n, j = n + 1 := ⟨j - 1, by omega⟩
  rw [iterate_shortened, iterate_shortened]
  have hless : d / 2 ^ (j + 1) ≤ d / 2 ^ (i + 1) :=
    Nat.div_le_div_left (Nat.pow_le_pow_right (by decide) hij) (Nat.two_pow_pos _)
  simp only [Duration] at *
  omega

theorem min_le_iterate_shortened {k : Nat} (hk : 0 < k) (limits : PaceLimits) (d : Duration) :
    limits.min ≤ (shortened limits)^[k] d := by
  obtain ⟨k, rfl⟩ : ∃ n, k = n + 1 := ⟨k - 1, by omega⟩
  rw [iterate_shortened]
  exact Nat.le_max_right ..

theorem iterate_shortened_rests (hmin : 4 ≤ limits.min) {bound : Duration} (hd : d ≤ bound)
    {k : Nat} (hk : 1 + Nat.clog 2 bound ≤ k) : (shortened limits)^[k] d = limits.min := by
  obtain ⟨k, rfl⟩ : ∃ n, k = n + 1 := ⟨k - 1, by omega⟩
  have hpow : bound ≤ 2 ^ Nat.clog 2 bound := Nat.le_pow_clog (by decide) _
  have hmore : 2 ^ Nat.clog 2 bound ≤ 2 ^ (k + 1) := Nat.pow_le_pow_right (by decide) (by omega)
  have hone : d / 2 ^ (k + 1) ≤ 1 :=
    Nat.div_le_of_le_mul (by rw [Nat.mul_one]; exact hd.trans (hpow.trans hmore))
  rw [iterate_shortened]
  simp only [Duration] at *
  omega

theorem delay_take_quiet (h : ∀ c ∈ more, c.IsQuiet) {k : Nat} (hk : k ≤ more.length) :
    (run limits (cycles ++ more.take k)).delay =
      (lengthened limits)^[k] (run limits cycles).delay := by
  rw [delay_run_quiet fun c hc => h c (List.mem_of_mem_take hc), List.length_take_of_le hk]

theorem delay_take_busy (h : ∀ c ∈ more, c.IsBusy) {k : Nat} (hk : k ≤ more.length) :
    (run limits (cycles ++ more.take k)).delay =
      (shortened limits)^[k] (run limits cycles).delay := by
  rw [delay_run_busy fun c hc => h c (List.mem_of_mem_take hc), List.length_take_of_le hk]

/-- Whatever went before, and without a fault: from the first of a row of quiet cycles on, the delay
does not decrease and stays below the longest normal one, which it reaches for good within
four cycles for each doubling; from the first of a row of busy cycles on, it does not increase and
stays above the least one, which it reaches for good within one cycle for each halving. -/
theorem delay_settles {limits : PaceLimits} (hmin : 4 ≤ limits.min) (hmoderate : limits.Moderate)
    (cycles more : List CycleEnd) :
    let delay := fun k => (run limits (cycles ++ more.take k)).delay
    let rest := max limits.min limits.maxNormal
    let longest := max rest (max limits.maxError limits.auth)
    run? limits (cycles ++ more) = .ok (run limits (cycles ++ more)) ∧
    ((∀ c ∈ more, c.IsQuiet) →
      (∀ i j, 0 < i → i ≤ j → j ≤ more.length → delay i ≤ delay j ∧ delay j ≤ rest) ∧
      ∀ k, 1 + 4 * Nat.clog 2 rest ≤ k → k ≤ more.length → delay k = rest) ∧
    ((∀ c ∈ more, c.IsBusy) →
      (∀ i j, 0 < i → i ≤ j → j ≤ more.length → delay j ≤ delay i ∧ limits.min ≤ delay j) ∧
      ∀ k, 1 + Nat.clog 2 longest ≤ k → k ≤ more.length → delay k = limits.min) := by
  intro delay rest longest
  refine ⟨run?_of_moderate hmoderate _, ?_, ?_⟩
  · intro hquiet
    have hdelay : ∀ k ≤ more.length, delay k = (lengthened limits)^[k] (run limits cycles).delay :=
      fun k hk => delay_take_quiet hquiet hk
    constructor
    · intro i j hi hij hj
      rw [hdelay i (hij.trans hj), hdelay j hj]
      exact ⟨iterate_lengthened_mono hi hij limits _,
        (iterate_lengthened_within (Nat.lt_of_lt_of_le hi hij) limits _).2⟩
    · intro k hlong hk
      rw [hdelay k hk]
      exact iterate_lengthened_rests hmin _ hlong
  · intro hbusy
    have hdelay : ∀ k ≤ more.length, delay k = (shortened limits)^[k] (run limits cycles).delay :=
      fun k hk => delay_take_busy hbusy hk
    constructor
    · intro i j hi hij hj
      rw [hdelay i (hij.trans hj), hdelay j hj]
      exact ⟨iterate_shortened_mono hi hij limits _,
        min_le_iterate_shortened (Nat.lt_of_lt_of_le hi hij) limits _⟩
    · intro k hlong hk
      rw [hdelay k hk]
      exact iterate_shortened_rests hmin (run_within limits cycles).2 hlong

theorem delay_settles_after_refusal :
    let refused : List CycleEnd := [⟨.unauthorized, 1000⟩]
    let quiet : List CycleEnd := List.replicate 140 ⟨.sent 3, 2000⟩
    let busy : List CycleEnd := List.replicate 40 ⟨.sent 150, 2000⟩
    4 ≤ ({} : PaceLimits).min ∧ ({} : PaceLimits).Moderate ∧
    (run {} refused).delay = .ofSeconds 300 ∧
    (∀ c ∈ quiet, c.IsQuiet) ∧ (run {} (refused ++ quiet)).delay = .ofSeconds 5 ∧
    (∀ c ∈ busy, c.IsBusy) ∧ (run {} (refused ++ busy)).delay = .ofSeconds 1 := by
  intro refused quiet busy
  have hmin : 4 ≤ ({} : PaceLimits).min := by decide
  have hmoderate : ({} : PaceLimits).Moderate := by decide
  have hquiet : ∀ c ∈ quiet, c.IsQuiet := by
    intro c hc
    rw [List.eq_of_mem_replicate hc]
    exact ⟨3, by decide, rfl⟩
  have hbusy : ∀ c ∈ busy, c.IsBusy := by
    intro c hc
    rw [List.eq_of_mem_replicate hc]
    exact ⟨150, by decide, rfl⟩
  have hfive : Nat.clog 2 (Duration.ofSeconds 5) ≤ 33 := Nat.clog_le_of_le_pow (by decide)
  have hfiveMinutes : Nat.clog 2 (Duration.ofSeconds 300) ≤ 39 := Nat.clog_le_of_le_pow (by decide)
  refine ⟨hmin, hmoderate, by decide, hquiet, ?_, hbusy, ?_⟩
  · have henough : 1 + 4 * Nat.clog 2 (Duration.ofSeconds 5) ≤ 140 := by omega
    have hsettles := (delay_settles hmin hmoderate refused quiet).2.1 hquiet
    exact hsettles.2 140 henough (by simp [quiet])
  · have henough : 1 + Nat.clog 2 (Duration.ofSeconds 300) ≤ 40 := by omega
    have hsettles := (delay_settles hmin hmoderate refused busy).2.2 hbusy
    exact hsettles.2 40 henough (by simp [busy])

end Pace
end LogDelivery
