import LogDelivery.Proofs.Threshold
import Mathlib.Data.Finset.Card

/-!
# What a throttle remembers

Counters are removed in passing: only when an error is seen, and not before the minute that the last
removal has set for the next one. The minute of the next removal is never far ahead of the last
error, nor far ahead of any counter, so that no counter outlives a window of minutes. A counter
that has been touched within `keepMinutes` stays.
-/
namespace LogDelivery
namespace Throttle

def Step.sighting? : Step → Option (UInt64 × Nat)
  | .see e minute => some (Fingerprint.ofError e, minute)
  | .purge _ => none

def sightings (steps : List Step) : List (UInt64 × Nat) := steps.filterMap Step.sighting?

/-- Errors are seen in the order of their minutes. Removals on request may come at any time, with
any cutoff. -/
def Chronological (steps : List Step) : Prop :=
  (sightings steps).Pairwise fun a b => a.2 ≤ b.2

def lastMinute? (steps : List Step) : Option Nat := (sightings steps).getLast?.map Prod.snd

/-- The fingerprints that are seen in a minute and the 29 before it, or later. -/
def recent (steps : List Step) (minute : Nat) : Finset UInt64 :=
  (((sightings steps).filter fun s => minute ≤ s.2 + 29).map Prod.fst).toFinset

variable {t : Throttle} {steps : List Step} {cs : List Counter} {c : Counter} {f : UInt64}
  {m n : Nat}

theorem sightings_see (steps : List Step) (e : ErrorChain) (minute : Nat) :
    sightings (steps ++ [.see e minute]) =
      sightings steps ++ [(Fingerprint.ofError e, minute)] := by
  simp [sightings, Step.sighting?]

theorem sightings_purge (steps : List Step) (cutoff : Nat) :
    sightings (steps ++ [.purge cutoff]) = sightings steps := by
  simp [sightings, Step.sighting?]

theorem mem_recent : f ∈ recent steps m ↔ ∃ n, (f, n) ∈ sightings steps ∧ m ≤ n + 29 := by
  simp [recent]

theorem seen_pos_iff : 0 < seen steps f m ↔ (f, m) ∈ sightings steps := by
  unfold seen sightings
  rw [List.countP_pos_iff, List.mem_filterMap]
  apply exists_congr
  intro a
  cases a <;> simp [Step.isOf, Step.sighting?]

theorem mem_bump (h : c ∈ (bump f m cs).1) : c ∈ cs ∨ c.fingerprint = f ∧ c.minute = m := by
  induction cs with
  | nil =>
    obtain rfl := List.mem_singleton.mp h
    exact Or.inr ⟨rfl, rfl⟩
  | cons d cs ih =>
    by_cases hd : d.fingerprint = f
    · simp only [bump, hd, if_true, List.mem_cons] at h
      rcases h with rfl | h
      · exact Or.inr ⟨(Counter.fingerprint_bump d m).trans hd, Counter.minute_bump d m⟩
      · exact Or.inl (List.mem_cons_of_mem d h)
    · simp only [bump, hd, if_false, List.mem_cons] at h
      rcases h with rfl | h
      · exact Or.inl List.mem_cons_self
      · exact (ih h).imp_left (List.mem_cons_of_mem d)

theorem mem_of_tally_pos (h : 0 < tally cs f m) : ⟨f, m, tally cs f m⟩ ∈ cs := by
  induction cs with
  | nil => exact absurd h (Nat.lt_irrefl 0)
  | cons c cs ih =>
    by_cases hf : c.fingerprint = f
    · by_cases hm : c.minute = m
      · subst hf hm
        simp only [tally, if_true]
        exact List.mem_cons_self
      · simp [tally, hf, hm] at h
    · rw [tally, if_neg hf] at h ⊢
      exact List.mem_cons_of_mem c (ih h)

theorem nextPurge_tidy (h : t.nextPurge ≤ m + keepMinutes) :
    m < (t.tidy m).nextPurge ∧ (t.tidy m).nextPurge ≤ m + keepMinutes := by
  have hahead : m < m + keepMinutes := Nat.lt_add_of_pos_right (by decide)
  unfold tidy
  by_cases hidle : t.nextPurge = 0
  · rw [if_pos hidle]
    exact ⟨hahead, Nat.le_refl _⟩
  · by_cases hdue : t.nextPurge ≤ m
    · rw [if_neg hidle, if_pos hdue]
      exact ⟨hahead, Nat.le_refl _⟩
    · rw [if_neg hidle, if_neg hdue]
      exact ⟨Nat.lt_of_not_le hdue, h⟩

/-- A removal is followed by the next one before the counters that it leaves grow too old. -/
theorem mem_tidy (hidle : t.nextPurge = 0 → t.counters = [])
    (hyoung : ∀ c ∈ t.counters, t.nextPurge ≤ c.minute + 2 * keepMinutes)
    (h : c ∈ (t.tidy m).counters) :
    c ∈ t.counters ∧ (t.tidy m).nextPurge ≤ c.minute + 2 * keepMinutes := by
  unfold tidy at h ⊢
  by_cases hzero : t.nextPurge = 0
  · rw [if_pos hzero, hidle hzero] at h
    cases h
  · by_cases hdue : t.nextPurge ≤ m
    · rw [if_neg hzero, if_pos hdue] at h ⊢
      obtain ⟨hc, hkept⟩ := List.mem_filter.mp h
      have hkept : m - keepMinutes ≤ c.minute := of_decide_eq_true hkept
      refine ⟨hc, ?_⟩
      change m + keepMinutes ≤ _
      omega
    · rw [if_neg hzero, if_neg hdue] at h ⊢
      exact ⟨h, hyoung c h⟩

/-- Each counter tells of an error, the next removal is due between the last error and `keepMinutes`
after it, and before any counter is twice as old. -/
structure Timely (t : Throttle) (steps : List Step) : Prop where
  distinct : (t.counters.map (·.fingerprint)).Nodup
  sighted : ∀ c ∈ t.counters, (c.fingerprint, c.minute) ∈ sightings steps
  idle : t.nextPurge = 0 → t.counters = []
  ahead : ∀ s ∈ sightings steps, s.2 < t.nextPurge
  due : ∀ m, (∀ s ∈ sightings steps, s.2 ≤ m) → t.nextPurge ≤ m + keepMinutes
  young : ∀ c ∈ t.counters, t.nextPurge ≤ c.minute + 2 * keepMinutes

theorem start_timely (max : Nat) : Timely { maxPerMinute := max } [] where
  distinct := List.nodup_nil
  sighted := fun _ hc => by cases hc
  idle := fun _ => rfl
  ahead := fun _ hs => by cases hs
  due := fun _ _ => Nat.zero_le _
  young := fun _ hc => by cases hc

theorem purge_timely (h : t.Timely steps) (cutoff : Nat) :
    (t.purge cutoff).Timely (steps ++ [.purge cutoff]) where
  distinct := distinct_purge h.distinct
  sighted := by
    intro c hc
    rw [sightings_purge]
    exact h.sighted c (List.mem_of_mem_filter hc)
  idle := by
    intro hzero
    rw [purge, h.idle hzero, List.filter_nil]
  ahead := by
    rw [sightings_purge]
    exact h.ahead
  due := by
    rw [sightings_purge]
    exact h.due
  young := fun c hc => h.young c (List.mem_of_mem_filter hc)

theorem pass_timely (h : t.Timely steps) (e : ErrorChain) {minute : Nat}
    (hs : ∀ s ∈ sightings steps, s.2 ≤ minute) :
    (t.pass e minute).1.Timely (steps ++ [.see e minute]) := by
  obtain ⟨hahead, hdue⟩ := nextPurge_tidy (h.due minute hs)
  have hcounter : ∀ c ∈ (t.pass e minute).1.counters,
      c ∈ (t.tidy minute).counters ∨ c.fingerprint = Fingerprint.ofError e ∧ c.minute = minute :=
    fun c hc => mem_bump hc
  constructor
  case distinct => exact nodup_bump (distinct_tidy h.distinct)
  case sighted =>
    intro c hc
    rw [sightings_see, List.mem_append]
    rcases hcounter c hc with hold | ⟨hf, hm⟩
    · exact Or.inl (h.sighted c (mem_tidy h.idle h.young hold).1)
    · right
      rw [hf, hm]
      exact List.mem_singleton_self _
  case idle =>
    intro hzero
    exact absurd hzero (Nat.ne_zero_of_lt hahead)
  case ahead =>
    intro s hmem
    rw [sightings_see, List.mem_append, List.mem_singleton] at hmem
    rcases hmem with hmem | rfl
    · exact Nat.lt_of_le_of_lt (hs s hmem) hahead
    · exact hahead
  case due =>
    intro m hm
    have hle : minute ≤ m := hm (Fingerprint.ofError e, minute) (by simp [sightings_see])
    exact hdue.trans (Nat.add_le_add_right hle keepMinutes)
  case young =>
    intro c hc
    rcases hcounter c hc with hold | ⟨-, hm⟩
    · exact (mem_tidy h.idle h.young hold).2
    · rw [hm]
      refine hdue.trans (Nat.add_le_add_left ?_ minute)
      exact Nat.le_mul_of_pos_left keepMinutes (Nat.succ_pos 1)

theorem chronological_see {e : ErrorChain} {minute : Nat} :
    Chronological (steps ++ [.see e minute]) ↔
      Chronological steps ∧ ∀ s ∈ sightings steps, s.2 ≤ minute := by
  simp [Chronological, sightings_see, List.pairwise_append]

theorem run_timely (max : Nat) (h : Chronological steps) :
    (run { maxPerMinute := max } steps).Timely steps := by
  induction steps using List.reverseRecOn with
  | nil => exact start_timely max
  | append_singleton steps step ih =>
    rw [run_append]
    cases step with
    | see e minute =>
      obtain ⟨hsteps, hlast⟩ := chronological_see.mp h
      exact pass_timely (ih hsteps) e hlast
    | purge cutoff =>
      rw [Chronological, sightings_purge] at h
      exact purge_timely (ih h) cutoff

theorem tally_run (max : Nat) (h : Chronological steps)
    (hlast : ∀ n, (f, n) ∈ sightings steps → n ≤ m)
    (hcutoff : ∀ cutoff, .purge cutoff ∈ steps → cutoff ≤ m)
    (hkeep : ∀ s ∈ sightings steps, s.2 ≤ m + keepMinutes) :
    tally (run { maxPerMinute := max } steps).counters f m =
      min (seen steps f m) Counter.countMax := by
  induction steps using List.reverseRecOn with
  | nil => rfl
  | append_singleton steps step ih =>
    have hcutoffs : ∀ cutoff, .purge cutoff ∈ steps → cutoff ≤ m :=
      fun cutoff hmem => hcutoff cutoff (List.mem_append_left _ hmem)
    rw [run_append]
    cases step with
    | purge cutoff =>
      rw [sightings_purge] at hlast hkeep
      rw [Chronological, sightings_purge] at h
      have hdistinct := (run_timely max h).distinct
      have hle : cutoff ≤ m := hcutoff cutoff (by simp)
      rw [next, purge, tally_filter hdistinct hle, ih h hlast hcutoffs hkeep, seen_append]
      rfl
    | see e minute =>
      rw [sightings_see] at hlast hkeep
      obtain ⟨hsteps, hlater⟩ := chronological_see.mp h
      have hdistinct := (run_timely max hsteps).distinct
      have hbefore := ih hsteps (fun n hn => hlast n (List.mem_append_left _ hn)) hcutoffs
        fun s hs => hkeep s (List.mem_append_left _ hs)
      have hminute : minute ≤ m + keepMinutes :=
        hkeep (Fingerprint.ofError e, minute) (by simp)
      apply tally_pass hdistinct e hminute hbefore
      rintro rfl hme
      -- the error is an earlier one, so none of its fingerprint has come as far as `m`
      have hearlier : minute < m := Nat.lt_of_le_of_ne (hlast minute (by simp)) hme
      apply Nat.eq_zero_of_not_pos
      intro hpos
      exact absurd (hlater _ (seen_pos_iff.mp hpos)) (Nat.not_le_of_lt hearlier)

theorem le_of_lastMinute (h : Chronological steps) (hlast : lastMinute? steps = some m) :
    (∃ f, (f, m) ∈ sightings steps) ∧ ∀ s ∈ sightings steps, s.2 ≤ m := by
  obtain ⟨⟨f, _⟩, hget, rfl⟩ := Option.map_eq_some_iff.mp hlast
  obtain ⟨front, hfront⟩ := List.getLast?_eq_some_iff.mp hget
  rw [Chronological, hfront, List.pairwise_append] at h
  rw [hfront]
  refine ⟨⟨f, by simp⟩, ?_⟩
  intro s hs
  rw [List.mem_append, List.mem_singleton] at hs
  rcases hs with hs | rfl
  · exact h.2.2 s hs _ (List.mem_singleton_self _)
  · exact Nat.le_refl _

/-- After an error of minute `m`, counters are of the last 30 minutes, so there are no more of them
than fingerprints seen in these, whatever is removed on request. The counter of a fingerprint last
seen within the last 15 minutes is there and has the full count, unless a removal on request was
meant for it. -/
theorem memory_bounded (max : Nat) (h : Chronological steps)
    (hlast : lastMinute? steps = some m) :
    let t := run { maxPerMinute := max } steps
    (∀ c ∈ t.counters, m ≤ c.minute + 29) ∧
    t.tracked ≤ (recent steps m).card ∧
    ∀ f minute, (f, minute) ∈ sightings steps →
      (∀ n, (f, n) ∈ sightings steps → n ≤ minute) →
      (∀ cutoff, .purge cutoff ∈ steps → cutoff ≤ minute) → m ≤ minute + 15 →
      ⟨f, minute, min (seen steps f minute) Counter.countMax⟩ ∈ t.counters := by
  intro t
  have ht : t.Timely steps := run_timely max h
  obtain ⟨⟨g, hg⟩, hle⟩ := le_of_lastMinute h hlast
  have hyoung : ∀ c ∈ t.counters, m ≤ c.minute + 29 := by
    intro c hc
    have hahead : m < t.nextPurge := ht.ahead (g, m) hg
    have hold := ht.young c hc
    unfold keepMinutes at hold
    omega
  refine ⟨hyoung, ?_, ?_⟩
  · have hsubset : (t.counters.map (·.fingerprint)).toFinset ⊆ recent steps m := by
      intro f hf
      obtain ⟨c, hc, rfl⟩ := List.mem_map.mp (List.mem_toFinset.mp hf)
      exact mem_recent.mpr ⟨c.minute, ht.sighted c hc, hyoung c hc⟩
    calc t.tracked = (t.counters.map (·.fingerprint)).length := (List.length_map _).symm
      _ = (t.counters.map (·.fingerprint)).toFinset.card :=
        (List.toFinset_card_of_nodup ht.distinct).symm
      _ ≤ (recent steps m).card := Finset.card_le_card hsubset
  · intro f minute hseen hnewest hcutoff hkeep
    have htally : tally t.counters f minute = min (seen steps f minute) Counter.countMax :=
      tally_run max h hnewest hcutoff fun s hs => (hle s hs).trans hkeep
    have hpos : 0 < min (seen steps f minute) Counter.countMax :=
      lt_min (seen_pos_iff.mpr hseen) (by decide)
    rw [← htally] at hpos ⊢
    exact mem_of_tally_pos hpos

theorem memory_bounded_of_two :
    let error := fun kind => (⟨⟨"after 30 s", kind, none, .empty, []⟩, []⟩ : ErrorChain)
    let steps : List Step :=
      [.see (error "Timeout") 100, .see (error "Timeout") 100, .purge 90,
        .see (error "Refused") 115]
    let t := run { maxPerMinute := 1 } steps
    Chronological steps ∧ lastMinute? steps = some 115 ∧
    t.tracked ≤ (recent steps 115).card ∧
    ⟨Fingerprint.ofError (error "Timeout"), 100, 2⟩ ∈ t.counters := by
  intro error steps t
  have hsightings : sightings steps = [(Fingerprint.ofError (error "Timeout"), 100),
      (Fingerprint.ofError (error "Timeout"), 100), (Fingerprint.ofError (error "Refused"), 115)] :=
    rfl
  have hordered : Chronological steps := by
    rw [Chronological, hsightings]
    simp
  have hlast : lastMinute? steps = some 115 := rfl
  have hother : Fingerprint.ofError (error "Refused") ≠ Fingerprint.ofError (error "Timeout") := by
    decide +kernel
  have hnewest : ∀ n, (Fingerprint.ofError (error "Timeout"), n) ∈ sightings steps → n ≤ 100 := by
    intro n hn
    have hn : n = 100 := by simpa [hsightings, hother.symm] using hn
    exact Nat.le_of_eq hn
  have hseen : seen steps (Fingerprint.ofError (error "Timeout")) 100 = 2 := by
    simp [steps, seen, Step.isOf]
  obtain ⟨-, htracked, hkept⟩ := memory_bounded 1 hordered hlast
  have hcounter := hkept (Fingerprint.ofError (error "Timeout")) 100 (by simp [hsightings]) hnewest
    (by simp [steps]) (Nat.le_refl 115)
  rw [hseen] at hcounter
  exact ⟨hordered, hlast, htracked, hcounter⟩

end Throttle
end LogDelivery
