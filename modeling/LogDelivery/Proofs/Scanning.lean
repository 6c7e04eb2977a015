import LogDelivery.Proofs.Places

/-!
# Scans

A scan of a text reports the leftmost match, goes on where that ended, and leaves out an empty match
right there; it ends when no place is left at which a match could be reported. This fixes all that
the search for a pattern reports in a text.
-/
namespace LogDelivery.Pattern

variable {p : Pattern} {text : Array Char} {last : Option Nat} {fuel i k s e : Nat}
  {l l' : List (Nat × Nat)}

/-- The end of the match that is reported at a place: of the preferred one, unless it is empty and
stands where the one before ended. -/
def reported? (p : Pattern) (text : Array Char) (last : Option Nat) (k : Nat) : Option Nat :=
  (p.ends text k).head?.filter fun e => ¬ (k = e ∧ last = some e)

/-- What a pattern reports from a place on; `last` is where the match before ended. -/
inductive Scan (p : Pattern) (text : Array Char) : Option Nat → Nat → List (Nat × Nat) → Prop
  | done {last : Option Nat} {i : Nat}
      (passed : ∀ k, i ≤ k → k ≤ text.size → p.reported? text last k = none) : Scan p text last i []
  | next {last : Option Nat} {i s e : Nat} {rest : List (Nat × Nat)} (start : i ≤ s)
      (inside : s ≤ text.size) (passed : ∀ k, i ≤ k → k < s → p.reported? text last k = none)
      (found : p.reported? text last s = some e) (onward : Scan p text (some e) e rest) :
      Scan p text last i ((s, e) :: rest)

theorem reported?_of_head? (h : (p.ends text k).head? = some e)
    (hlast : ¬ (k = e ∧ last = some e)) : p.reported? text last k = some e := by
  rw [reported?, h, Option.filter_some, if_pos (decide_eq_true hlast)]

theorem reported?_of_ends (h : p.ends text k = []) : p.reported? text last k = none := by
  simp [reported?, h]

theorem head?_of_reported? (h : p.reported? text last k = some e) :
    (p.ends text k).head? = some e ∧ ¬ (k = e ∧ last = some e) := by
  obtain ⟨hhead, hlast⟩ := Option.filter_eq_some_iff.mp h
  exact ⟨hhead, of_decide_eq_true hlast⟩

theorem mem_of_reported? (h : p.reported? text last k = some e) : e ∈ p.ends text k :=
  List.mem_of_head? (head?_of_reported? h).1

theorem le_of_findFrom (h : p.findFrom text fuel i = some (s, e)) : s ≤ i + fuel := by
  induction fuel generalizing i with
  | zero =>
    obtain ⟨_, -, heq⟩ := Option.map_eq_some_iff.mp h
    exact Nat.le_of_eq (Prod.mk.inj heq).1.symm
  | succ fuel ih =>
    rw [findFrom] at h
    split at h
    · obtain ⟨rfl, -⟩ := Prod.mk.inj (Option.some.inj h)
      exact Nat.le_add_right ..
    · have hle := ih h
      omega

theorem le_of_find (h : p.find text i = some (s, e)) : s ≤ text.size := by
  unfold find at h
  split at h
  · have hle := le_of_findFrom h
    omega
  · cases h

theorem findNext_eq_some (hlast : ∀ m, last = some m → m = i)
    (h : p.findNext text last i = some (s, e)) :
    i ≤ s ∧ s ≤ text.size ∧ (∀ k, i ≤ k → k < s → p.reported? text last k = none) ∧
      p.reported? text last s = some e := by
  unfold findNext at h
  split at h
  · next s' e' hfind =>
    obtain ⟨hstart, hhead, hnone⟩ := find_eq_some hfind
    split at h
    · next hempty =>
      -- the empty match stands at `i`, so the one that is reported stands behind it
      obtain ⟨rfl, hsame⟩ := hempty
      obtain rfl := hlast s' hsame
      obtain ⟨hstart', hhead', hnone'⟩ := find_eq_some h
      refine ⟨Nat.le_of_succ_le hstart', le_of_find h, ?_, reported?_of_head? hhead' ?_⟩
      · intro k hk hks
        rcases Nat.eq_or_lt_of_le hk with rfl | hlt
        · simp [reported?, hhead, hsame]
        · exact reported?_of_ends (hnone' k hlt hks)
      · rintro ⟨rfl, hback⟩
        have hbehind := hlast s hback
        omega
    · next hempty =>
      obtain ⟨rfl, rfl⟩ := Prod.mk.inj (Option.some.inj h)
      exact ⟨hstart, le_of_find hfind, fun k hk hks => reported?_of_ends (hnone k hk hks),
        reported?_of_head? hhead hempty⟩
  · cases h

theorem findNext_eq_none (hlast : ∀ m, last = some m → m = i)
    (h : p.findNext text last i = none) (hk : i ≤ k) (hsize : k ≤ text.size) :
    p.reported? text last k = none := by
  unfold findNext at h
  split at h
  · next s e hfind =>
    split at h
    · next hempty =>
      obtain ⟨rfl, hsame⟩ := hempty
      obtain rfl := hlast s hsame
      rcases Nat.eq_or_lt_of_le hk with rfl | hlt
      · simp [reported?, (find_eq_some hfind).2.1, hsame]
      · exact reported?_of_ends (find_eq_none h hlt hsize)
    · cases h
  · next hfind => exact reported?_of_ends (find_eq_none hfind hk hsize)

namespace Scan

theorem of_findNext (hlast : ∀ m, last = some m → m = i)
    (h : ∀ s e, i ≤ s → s ≤ text.size → p.reported? text last s = some e →
      p.Scan text (some e) e (p.spansFrom text fuel (some e) e)) :
    p.Scan text last i (p.spansFrom text (fuel + 1) last i) := by
  rw [spansFrom]
  cases hnext : p.findNext text last i with
  | none => exact .done fun k hk hsize => findNext_eq_none hlast hnext hk hsize
  | some x =>
    obtain ⟨s, e⟩ := x
    obtain ⟨hstart, hinside, hpassed, hfound⟩ := findNext_eq_some hlast hnext
    exact .next hstart hinside hpassed hfound (h s e hstart hinside hfound)

theorem of_enough (hi : i ≤ text.size) (h : 2 * (text.size - i) + 1 ≤ fuel) :
    p.Scan text (some i) i (p.spansFrom text fuel (some i) i) := by
  induction fuel generalizing i with
  | zero => omega
  | succ fuel ih =>
    apply of_findNext (by simp)
    intro s e hs hsize hfound
    have hse := le_of_mem_ends (mem_of_reported? hfound)
    have hesize := le_size_of_mem_ends hsize (mem_of_reported? hfound)
    have hnew : ¬ (s = e ∧ i = e) := by
      simpa using (head?_of_reported? hfound).2
    exact ih hesize (by omega)

theorem unique (h : p.Scan text last i l) (h' : p.Scan text last i l') : l = l' := by
  induction h generalizing l' with
  | done passed =>
    cases h' with
    | done => rfl
    | next start inside _ found => simp [passed _ start inside] at found
  | @next last i s e rest start inside passed found onward ih =>
    cases h' with
    | done passed' => simp [passed' s start inside] at found
    | @next _ _ s' e' rest' start' inside' passed' found' onward' =>
      obtain hlt | rfl | hlt := Nat.lt_trichotomy s s'
      · simp [passed' s start hlt] at found
      · obtain rfl : e = e' := Option.some.inj (found.symm.trans found')
        rw [ih onward']
      · simp [passed s' start' hlt] at found'

end Scan

/-- The matches in a text are what its scan reports. -/
theorem scan_iff : p.Scan text none 0 l ↔ l = p.spans text := by
  have hscan : p.Scan text none 0 (p.spans text) := by
    apply Scan.of_findNext (by simp)
    intro s e _ hsize hfound
    exact Scan.of_enough (le_size_of_mem_ends hsize (mem_of_reported? hfound)) (by omega)
  constructor
  · intro h
    exact h.unique hscan
  · rintro rfl
    exact hscan

theorem spans_eq_nil (h : ∀ k ≤ text.size, p.ends text k = []) : p.spans text = [] :=
  (scan_iff.mp (.done fun k _ hk => reported?_of_ends (h k hk))).symm

theorem Scan.bounds (h : p.Scan text last i l) :
    ∀ x ∈ l, i ≤ x.1 ∧ x.1 ≤ x.2 ∧ x.2 ≤ text.size := by
  induction h with
  | done => simp
  | next start inside _ found _ ih =>
    have hle := le_of_mem_ends (mem_of_reported? found)
    have hsize := le_size_of_mem_ends inside (mem_of_reported? found)
    refine List.forall_mem_cons.mpr ⟨⟨start, hle, hsize⟩, fun x hx => ?_⟩
    exact ⟨Nat.le_trans (Nat.le_trans start hle) (ih x hx).1, (ih x hx).2⟩

end LogDelivery.Pattern
