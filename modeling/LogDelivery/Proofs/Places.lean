import LogDelivery.Pattern.Size
import LogDelivery.Proofs.Matching
import Mathlib.Data.Finset.Card
import Mathlib.Data.Finset.Range

/-!
# Places that matches reach

Where a match can end follows from the single characters that its pattern takes. A match never
leaves the text, no place is listed twice, and so an open repetition, which enters each place once,
comes to its end before its fuel does. Texts in which the single characters and the conditions on
places are the same have the same matches.
-/
namespace LogDelivery.Pattern

open Unicode

/-- A place with those that follow from it and the others, the preferred ones first. -/
def chained (greedy : Bool) (inner : List Nat) (p : Nat) (others : List Nat) : List Nat :=
  if greedy then inner ++ p :: others else p :: inner ++ others

section Walks

variable {step step' : Nat → List Nat} {Good : Nat → Prop} {greedy : Bool} {n fuel p q : Nat}
  {places rest inner others : List Nat} {seen : Nat}

theorem mem_chained : q ∈ chained greedy inner p others ↔ q ∈ inner ∨ q = p ∨ q ∈ others := by
  cases greedy
  · simp [chained, or_left_comm]
  · simp [chained]

theorem walk_cons (h : seen.testBit p = false) :
    walk step greedy (fuel + 1) (p :: rest) seen =
      let inner := walk step greedy fuel (step p) (seen ||| (1 <<< p))
      let others := walk step greedy fuel rest inner.2
      (chained greedy inner.1 p others.1, others.2) := by
  rw [walk, if_neg (Bool.eq_false_iff.mp h)]
  rfl

theorem limitedWalk_cons {seen : List (Nat × Nat)} (h : seen.contains (n, p) = false) :
    limitedWalk step greedy (n + 1) (p :: rest) seen =
      let inner := limitedWalk step greedy n (step p)
        (if (step p).length ≤ 1 then seen else (n, p) :: seen)
      let others := limitedWalk step greedy (n + 1) rest inner.2
      (chained greedy inner.1 p others.1, others.2) := by
  rw [limitedWalk, if_neg (Bool.eq_false_iff.mp h)]
  rfl

theorem repeatStep_stays (hstep : ∀ q, Good q → ∀ r ∈ step q, Good r)
    (h : ∀ q ∈ places, Good q) : ∀ q ∈ repeatStep step n places, Good q := by
  induction n generalizing places with
  | zero => exact h
  | succ n ih =>
    cases places with
    | nil => exact h
    | cons p rest =>
      change ∀ q ∈ repeatStep step n (distinct 0 ((p :: rest).flatMap step)), Good q
      refine ih fun r hr => ?_
      obtain ⟨q, hq, hr⟩ := List.mem_flatMap.mp (mem_distinct_zero.mp hr)
      exact hstep q (h q hq) r hr

theorem limitedWalk_stays (hstep : ∀ q, Good q → ∀ r ∈ step q, Good r)
    (h : ∀ q ∈ places, Good q) (seen : List (Nat × Nat)) :
    ∀ q ∈ (limitedWalk step greedy n places seen).1, Good q := by
  induction n generalizing places seen with
  | zero => cases places <;> simp_all [limitedWalk]
  | succ n ihn =>
    induction places generalizing seen with
    | nil => simp [limitedWalk]
    | cons p rest ih =>
      obtain ⟨hp, hrest⟩ := List.forall_mem_cons.mp h
      cases hseen : seen.contains (n, p) with
      | true =>
        rw [limitedWalk, if_pos hseen]
        exact ih hrest seen
      | false =>
        intro q hq
        rw [limitedWalk_cons hseen] at hq
        rcases mem_chained.mp hq with hq | rfl | hq
        · exact ihn (hstep p hp) _ q hq
        · exact hp
        · exact ih hrest _ q hq

theorem walk_stays (hstep : ∀ q, Good q → ∀ r ∈ step q, Good r)
    (h : ∀ q ∈ places, Good q) (seen : Nat) :
    ∀ q ∈ (walk step greedy fuel places seen).1, Good q := by
  induction fuel generalizing places seen with
  | zero => simp [walk]
  | succ fuel ih =>
    cases places with
    | nil => simp [walk]
    | cons p rest =>
      obtain ⟨hp, hrest⟩ := List.forall_mem_cons.mp h
      cases hseen : seen.testBit p with
      | true =>
        rw [walk, if_pos hseen]
        exact ih hrest seen
      | false =>
        intro q hq
        rw [walk_cons hseen] at hq
        rcases mem_chained.mp hq with hq | rfl | hq
        · exact ih (hstep p hp) _ q hq
        · exact hp
        · exact ih hrest _ q hq

theorem repeatStep_congr (hsame : ∀ q, Good q → step' q = step q)
    (hstep : ∀ q, Good q → ∀ r ∈ step q, Good r) (h : ∀ q ∈ places, Good q) :
    repeatStep step' n places = repeatStep step n places := by
  induction n generalizing places with
  | zero => rfl
  | succ n ih =>
    cases places with
    | nil => rfl
    | cons p rest =>
      have hnext : (p :: rest).flatMap step' = (p :: rest).flatMap step :=
        List.flatMap_congr fun q hq => hsame q (h q hq)
      change repeatStep step' n (distinct 0 ((p :: rest).flatMap step')) =
        repeatStep step n (distinct 0 ((p :: rest).flatMap step))
      rw [hnext]
      refine ih fun r hr => ?_
      obtain ⟨q, hq, hr⟩ := List.mem_flatMap.mp (mem_distinct_zero.mp hr)
      exact hstep q (h q hq) r hr

theorem limitedWalk_congr (hsame : ∀ q, Good q → step' q = step q)
    (hstep : ∀ q, Good q → ∀ r ∈ step q, Good r) (h : ∀ q ∈ places, Good q)
    (seen : List (Nat × Nat)) :
    limitedWalk step' greedy n places seen = limitedWalk step greedy n places seen := by
  induction n generalizing places seen with
  | zero => cases places <;> simp [limitedWalk]
  | succ n ihn =>
    induction places generalizing seen with
    | nil => simp [limitedWalk]
    | cons p rest ih =>
      obtain ⟨hp, hrest⟩ := List.forall_mem_cons.mp h
      cases hseen : seen.contains (n, p) with
      | true => rw [limitedWalk, limitedWalk, if_pos hseen, if_pos hseen, ih hrest]
      | false =>
        rw [limitedWalk_cons hseen, limitedWalk_cons hseen]
        simp only [hsame p hp, ihn (hstep p hp), ih hrest]

theorem walk_congr (hsame : ∀ q, Good q → step' q = step q)
    (hstep : ∀ q, Good q → ∀ r ∈ step q, Good r) (h : ∀ q ∈ places, Good q) (seen : Nat) :
    walk step' greedy fuel places seen = walk step greedy fuel places seen := by
  induction fuel generalizing places seen with
  | zero => rfl
  | succ fuel ih =>
    cases places with
    | nil => rfl
    | cons p rest =>
      obtain ⟨hp, hrest⟩ := List.forall_mem_cons.mp h
      cases hseen : seen.testBit p with
      | true => rw [walk, walk, if_pos hseen, if_pos hseen, ih hrest]
      | false =>
        rw [walk_cons hseen, walk_cons hseen]
        simp only [hsame p hp, ih (hstep p hp), ih hrest]

theorem nodup_distinct (l : List Nat) (seen : Nat) : (distinct seen l).Nodup := by
  induction l generalizing seen with
  | nil => simp [distinct]
  | cons p rest ih =>
    rw [distinct]
    split
    · exact ih seen
    · refine List.nodup_cons.mpr ⟨fun hp => ?_, ih _⟩
      have hfree := (mem_distinct.mp hp).2
      simp [Nat.testBit_or, Nat.one_shiftLeft] at hfree

theorem nodup_repeatStep (h : places.Nodup) : (repeatStep step n places).Nodup := by
  induction n generalizing places with
  | zero => exact h
  | succ n ih =>
    cases places with
    | nil => exact h
    | cons p rest => exact ih (nodup_distinct ..)

theorem testBit_enter : (seen ||| (1 <<< p)).testBit q = (seen.testBit q || p == q) := by
  rw [Nat.testBit_or, Nat.one_shiftLeft, Nat.testBit_two_pow]
  rfl

theorem nodup_chained (hi : inner.Nodup) (ho : others.Nodup) (hp : p ∉ inner) (hp' : p ∉ others)
    (hd : inner.Disjoint others) : (chained greedy inner p others).Nodup := by
  have hgreedy : (inner ++ p :: others).Nodup := by
    refine List.nodup_append'.mpr ⟨hi, List.nodup_cons.mpr ⟨hp', ho⟩, ?_⟩
    exact List.disjoint_cons_right.mpr ⟨hp, hd⟩
  cases greedy
  · exact List.perm_middle.nodup_iff.mp hgreedy
  · exact hgreedy

/-- A walk lists the places that it enters, each once and none that was entered before. -/
theorem walk_enters (step : Nat → List Nat) (greedy : Bool) (fuel : Nat) (places : List Nat)
    (seen : Nat) :
    let w := walk step greedy fuel places seen
    w.1.Nodup ∧ (∀ q ∈ w.1, seen.testBit q = false) ∧
      ∀ q, w.2.testBit q ↔ seen.testBit q ∨ q ∈ w.1 := by
  induction fuel generalizing places seen with
  | zero => simp [walk]
  | succ fuel ih =>
    cases places with
    | nil => simp [walk]
    | cons p rest =>
      cases hseen : seen.testBit p with
      | true =>
        rw [walk, if_pos hseen]
        exact ih rest seen
      | false =>
        rw [walk_cons hseen]
        obtain ⟨hi, hinew, hientered⟩ := ih (step p) (seen ||| (1 <<< p))
        obtain ⟨ho, honew, hoentered⟩ :=
          ih rest (walk step greedy fuel (step p) (seen ||| (1 <<< p))).2
        have hentered : ∀ q, (walk step greedy fuel (step p) (seen ||| (1 <<< p))).2.testBit q ↔
            seen.testBit q ∨ p = q ∨
              q ∈ (walk step greedy fuel (step p) (seen ||| (1 <<< p))).1 := by
          intro q
          rw [hientered, testBit_enter, Bool.or_eq_true, beq_iff_eq, or_assoc]
        have hbefore : ∀ q, (walk step greedy fuel (step p) (seen ||| (1 <<< p))).2.testBit q =
            false → seen.testBit q = false ∧ p ≠ q ∧
              q ∉ (walk step greedy fuel (step p) (seen ||| (1 <<< p))).1 := by
          intro q hq
          have hnot := mt (hentered q).mpr (Bool.eq_false_iff.mp hq)
          simpa [not_or] using hnot
        refine ⟨nodup_chained hi ho (fun hp => ?_) (fun hp => ?_) (fun q hq hq' => ?_),
          fun q hq => ?_, fun q => ?_⟩
        · have hnew := hinew p hp
          simp at hnew
        · exact (hbefore p (honew p hp)).2.1 rfl
        · exact (hbefore q (honew q hq')).2.2 hq
        · rcases mem_chained.mp hq with hq | rfl | hq
          · have hnew := hinew q hq
            rw [testBit_enter, Bool.or_eq_false_iff] at hnew
            exact hnew.1
          · exact hseen
          · exact (hbefore q (honew q hq)).1
        · rw [hoentered, hentered, mem_chained, eq_comm (a := p)]
          tauto

def unseen (bound seen : Nat) : Nat :=
  ((Finset.range bound).filter fun q => seen.testBit q = false).card

theorem unseen_lt {bound seen' : Nat} (hp : p < bound) (hnew : seen.testBit p = false)
    (hentered : seen'.testBit p) (hkept : ∀ q, seen.testBit q → seen'.testBit q) :
    unseen bound seen' < unseen bound seen := by
  refine Finset.card_lt_card (Finset.ssubset_iff_of_subset ?_ |>.mpr ⟨p, ?_, ?_⟩)
  · intro q hq
    obtain ⟨hlt, hfree⟩ := Finset.mem_filter.mp hq
    refine Finset.mem_filter.mpr ⟨hlt, Bool.eq_false_iff.mpr fun hq' => ?_⟩
    rw [hkept q hq'] at hfree
    cases hfree
  · exact Finset.mem_filter.mpr ⟨Finset.mem_range.mpr hp, hnew⟩
  · simp [hentered]

/-- With fuel for each place that is listed, and for all that could be listed when a new one is
entered, more of it changes nothing. -/
theorem walk_of_enough {bound fuel' : Nat} (hstep : ∀ q < bound, (step q).length ≤ bound)
    (hstays : ∀ q < bound, ∀ r ∈ step q, r < bound) (hplaces : ∀ q ∈ places, q < bound)
    (h : places.length + bound * unseen bound seen ≤ fuel) (h' : fuel ≤ fuel') :
    walk step greedy fuel' places seen = walk step greedy fuel places seen := by
  induction fuel generalizing fuel' places seen with
  | zero =>
    obtain rfl := List.eq_nil_of_length_eq_zero (by omega : places.length = 0)
    cases fuel' <;> rfl
  | succ fuel ih =>
    obtain ⟨fuel', rfl⟩ : ∃ f, fuel' = f + 1 := ⟨fuel' - 1, by omega⟩
    have hle : fuel ≤ fuel' := by omega
    cases places with
    | nil => rfl
    | cons p rest =>
      obtain ⟨hp, hrest⟩ := List.forall_mem_cons.mp hplaces
      rw [List.length_cons] at h
      cases hseen : seen.testBit p with
      | true =>
        rw [walk, walk, if_pos hseen, if_pos hseen]
        exact ih hrest (by omega) hle
      | false =>
        obtain ⟨-, -, hentered⟩ :=
          walk_enters step greedy fuel (step p) (seen ||| (1 <<< p))
        have hkept : ∀ q, seen.testBit q → (seen ||| (1 <<< p)).testBit q := by
          intro q hq
          rw [testBit_enter, hq, Bool.true_or]
        have hself : (seen ||| (1 <<< p)).testBit p := by simp
        have hfewer := unseen_lt hp hseen hself hkept
        have hfewer' := unseen_lt hp hseen ((hentered p).mpr (Or.inl hself))
          fun q hq => (hentered q).mpr (Or.inl (hkept q hq))
        have hinner := Nat.mul_le_mul_left bound (Nat.succ_le_of_lt hfewer)
        have hothers := Nat.mul_le_mul_left bound (Nat.succ_le_of_lt hfewer')
        have hlength := hstep p hp
        rw [Nat.mul_succ] at hinner hothers
        have hsame : walk step greedy fuel' (step p) (seen ||| (1 <<< p)) =
            walk step greedy fuel (step p) (seen ||| (1 <<< p)) :=
          ih (hstays p hp) (by omega) hle
        rw [walk_cons hseen, walk_cons hseen, hsame]
        simp only
        rw [ih hrest (by omega) hle]

end Walks

def classes : Pattern → List CodeSet
  | .nothing | .look _ => []
  | .one s => [s]
  | .seq a b | .either a b => a.classes ++ b.classes
  | .group p | .opt _ p | .times _ p | .upTo _ _ p | .many _ p => p.classes

def looks : Pattern → List Look
  | .nothing | .one _ => []
  | .look l => [l]
  | .seq a b | .either a b => a.looks ++ b.looks
  | .group p | .opt _ p | .times _ p | .upTo _ _ p | .many _ p => p.looks

section Ends

variable {p a b : Pattern} {text text' : Array Char} {i j n : Nat} {greedy : Bool}
  {Good : Nat → Prop}

section Repetitions

variable (hstep : ∀ q, Good q → ∀ r ∈ p.ends text q, Good r)

include hstep

theorem times_stays (hi : Good i) (hj : j ∈ (Pattern.times n p).ends text i) : Good j :=
  repeatStep_stays hstep (by simpa using hi) j hj

theorem upTo_stays (hi : Good i) (hj : j ∈ (Pattern.upTo n greedy p).ends text i) : Good j := by
  rw [ends, mem_distinct_zero] at hj
  exact limitedWalk_stays hstep (by simpa using hi) [] j hj

theorem many_stays (hi : ∀ q ∈ p.ends text i, Good q)
    (hj : j ∈ (Pattern.many greedy p).ends text i) : Good j := by
  rw [ends] at hj
  refine walk_stays (fun q hq r hr => ?_) hi 0 j hj
  split at hr
  · cases hr
  · exact hstep q hq r hr

end Repetitions

/-- What holds of a place and is kept by single characters is kept by matches. -/
theorem ends_stay (hone : ∀ s ∈ p.classes, ∀ q, Good q → ∀ r ∈ (Pattern.one s).ends text q, Good r)
    (hi : Good i) (hj : j ∈ p.ends text i) : Good j := by
  induction p generalizing i j with
  | nothing => exact List.mem_singleton.mp hj ▸ hi
  | one s => exact hone s (List.mem_singleton.mpr rfl) i hi j hj
  | look l => exact (mem_ends_look.mp hj).1 ▸ hi
  | seq a b iha ihb =>
    rw [classes, List.forall_mem_append] at hone
    obtain ⟨m, hm, hj⟩ := mem_ends_seq.mp hj
    exact ihb hone.2 (iha hone.1 hi hm) hj
  | either a b iha ihb =>
    rw [classes, List.forall_mem_append] at hone
    rcases mem_ends_either.mp hj with hj | hj
    · exact iha hone.1 hi hj
    · exact ihb hone.2 hi hj
  | group p ih => exact ih hone hi hj
  | opt greedy p ih =>
    rcases mem_ends_opt.mp hj with rfl | hj
    · exact hi
    · exact ih hone hi hj
  | times n p ih => exact times_stays (fun q hq r hr => ih hone hq hr) hi hj
  | upTo n greedy p ih => exact upTo_stays (fun q hq r hr => ih hone hq hr) hi hj
  | many greedy p ih =>
    exact many_stays (fun q hq r hr => ih hone hq hr) (fun q hq => ih hone hi hq) hj

theorem le_of_mem_ends (hj : j ∈ p.ends text i) : i ≤ j := by
  refine ends_stay (fun s _ q hq r hr => ?_) (Nat.le_refl i) hj
  obtain ⟨c, -, -, rfl⟩ := mem_ends_one.mp hr
  exact Nat.le_succ_of_le hq

theorem ends_le_of_closed (hone : ∀ s ∈ p.classes, ∀ c, text[n]? = some c → ¬ s.contains c.toNat)
    (hi : i ≤ n) (hj : j ∈ p.ends text i) : j ≤ n := by
  have hstay : ∀ s ∈ p.classes, ∀ q ≤ n, ∀ r ∈ (Pattern.one s).ends text q, r ≤ n := by
    intro s hs q hq r hr
    obtain ⟨c, hc, hin, rfl⟩ := mem_ends_one.mp hr
    rcases Nat.eq_or_lt_of_le hq with rfl | hlt
    · exact absurd hin (hone s hs c hc)
    · exact hlt
  have hle := ends_stay hstay hi hj
  exact hle

theorem le_size_of_mem_ends (hi : i ≤ text.size) (hj : j ∈ p.ends text i) : j ≤ text.size :=
  ends_le_of_closed (by simp) hi hj

theorem nodup_ends (p : Pattern) (text : Array Char) (i : Nat) : (p.ends text i).Nodup := by
  induction p generalizing i with
  | nothing => exact List.nodup_singleton i
  | one s =>
    rw [ends]
    split
    · split <;> simp
    · exact List.nodup_nil
  | look l =>
    rw [ends]
    split <;> simp
  | seq a b iha ihb => exact nodup_distinct ..
  | either a b iha ihb => exact nodup_distinct ..
  | group p ih => exact ih i
  | opt greedy p ih => exact nodup_distinct ..
  | times n p ih => exact nodup_repeatStep (List.nodup_singleton i)
  | upTo n greedy p ih => exact nodup_distinct ..
  | many greedy p ih => exact (walk_enters ..).1

theorem length_ends_le (hi : i ≤ text.size) : (p.ends text i).length ≤ text.size + 1 := by
  rw [← List.toFinset_card_of_nodup (nodup_ends p text i), ← Finset.card_range (text.size + 1)]
  refine Finset.card_le_card fun j hj => Finset.mem_range.mpr ?_
  exact Nat.lt_succ_of_le (le_size_of_mem_ends hi (List.mem_toFinset.mp hj))

theorem ends_many_of_enough {fuel : Nat} (hi : i ≤ text.size) (h : (text.size + 2) ^ 2 ≤ fuel) :
    (Pattern.many greedy p).ends text i =
      (walk (fun q => if q = i then [] else p.ends text q) greedy fuel (p.ends text i) 0).1 := by
  have hstays : ∀ q < text.size + 1, ∀ r ∈ p.ends text q, r < text.size + 1 := fun q hq r hr =>
    Nat.lt_succ_of_le (le_size_of_mem_ends (Nat.le_of_lt_succ hq) hr)
  have hi' := Nat.lt_succ_of_le hi
  have hfew : unseen (text.size + 1) 0 ≤ text.size + 1 := by
    unfold unseen
    simp
  have hfuel : (p.ends text i).length + (text.size + 1) * unseen (text.size + 1) 0 ≤
      (text.size + 2) ^ 2 := by
    calc (p.ends text i).length + (text.size + 1) * unseen (text.size + 1) 0
        ≤ (text.size + 1) + (text.size + 1) * (text.size + 1) :=
          Nat.add_le_add (length_ends_le hi) (Nat.mul_le_mul_left _ hfew)
      _ = (text.size + 1) * (text.size + 2) := (Nat.add_comm ..).trans (Nat.mul_succ ..).symm
      _ ≤ (text.size + 2) * (text.size + 2) := Nat.mul_le_mul_right _ (Nat.le_succ _)
      _ = (text.size + 2) ^ 2 := (Nat.pow_two _).symm
  rw [ends]
  refine congrArg Prod.fst (walk_of_enough ?_ ?_ (hstays i hi') hfuel h).symm
  · intro q hq
    split
    · exact Nat.zero_le _
    · exact length_ends_le (Nat.le_of_lt_succ hq)
  · intro q hq r hr
    split at hr
    · cases hr
    · exact hstays q hq r hr

/-- Two texts are alike to a pattern, at the places where a match can come by. -/
structure Alike (p : Pattern) (text text' : Array Char) (Good : Nat → Prop) : Prop where
  inside : ∀ i, Good i → i ≤ text.size
  longer : text.size ≤ text'.size
  one : ∀ s ∈ p.classes, ∀ i, Good i → (Pattern.one s).ends text' i = (Pattern.one s).ends text i
  stays : ∀ s ∈ p.classes, ∀ i, Good i → ∀ j ∈ (Pattern.one s).ends text i, Good j
  look : ∀ l ∈ p.looks, ∀ i, Good i → l.holds text' i = l.holds text i

namespace Alike

theorem of_part (h : p.Alike text text' Good) (hc : a.classes ⊆ p.classes)
    (hl : a.looks ⊆ p.looks) : a.Alike text text' Good :=
  ⟨h.inside, h.longer, fun s hs => h.one s (hc hs), fun s hs => h.stays s (hc hs),
    fun l hl' => h.look l (hl hl')⟩

theorem keeps (h : p.Alike text text' Good) (hi : Good i) (hj : j ∈ p.ends text i) : Good j :=
  ends_stay h.stays hi hj

theorem ends_eq (h : p.Alike text text' Good) (hi : Good i) : p.ends text' i = p.ends text i := by
  induction p generalizing i with
  | nothing => rfl
  | one s => exact h.one s (List.mem_singleton.mpr rfl) i hi
  | look l => rw [ends, ends, h.look l (List.mem_singleton.mpr rfl) i hi]
  | seq a b iha ihb =>
    have ha := h.of_part (a := a) (List.subset_append_left ..) (List.subset_append_left ..)
    have hb := h.of_part (a := b) (List.subset_append_right ..) (List.subset_append_right ..)
    rw [ends, ends, iha ha hi]
    congr 1
    exact List.flatMap_congr fun m hm => ihb hb (ha.keeps hi hm)
  | either a b iha ihb =>
    have ha := h.of_part (a := a) (List.subset_append_left ..) (List.subset_append_left ..)
    have hb := h.of_part (a := b) (List.subset_append_right ..) (List.subset_append_right ..)
    rw [ends, ends, iha ha hi, ihb hb hi]
  | group p ih => exact ih (h.of_part (List.Subset.refl _) (List.Subset.refl _)) hi
  | opt greedy p ih =>
    rw [ends, ends, ih (h.of_part (List.Subset.refl _) (List.Subset.refl _)) hi]
  | times n p ih =>
    have hp := h.of_part (a := p) (List.Subset.refl _) (List.Subset.refl _)
    exact repeatStep_congr (fun q hq => ih hp hq) (fun q hq r hr => hp.keeps hq hr)
      (by simpa using hi)
  | upTo n greedy p ih =>
    have hp := h.of_part (a := p) (List.Subset.refl _) (List.Subset.refl _)
    rw [ends, ends, limitedWalk_congr (fun q hq => ih hp hq) (fun q hq r hr => hp.keeps hq hr)
      (by simpa using hi) []]
  | many greedy p ih =>
    have hp := h.of_part (a := p) (List.Subset.refl _) (List.Subset.refl _)
    have hfuel := Nat.pow_le_pow_left (Nat.add_le_add_right h.longer 2) 2
    rw [ends_many_of_enough (h.inside i hi) hfuel, ends, ih hp hi]
    refine congrArg Prod.fst (walk_congr ?_ ?_ (fun q hq => hp.keeps hi hq) 0)
    · intro q hq
      rw [ih hp hq]
    · intro q hq r hr
      split at hr
      · cases hr
      · exact hp.keeps hq hr

end Alike

def opensWith (c : Char) : Pattern → Bool
  | .nothing | .look _ => false
  | .one s => s.contains c.toNat
  | .seq a b => a.opensWith c || (a.canBeEmpty && b.opensWith c)
  | .either a b => a.opensWith c || b.opensWith c
  | .group p | .opt _ p | .times _ p | .upTo _ _ p | .many _ p => p.opensWith c

theorem lt_of_mem_ends (h : p.canBeEmpty = false) (hj : j ∈ p.ends text i) : i < j := by
  induction p generalizing i j with
  | one s =>
    obtain ⟨c, -, -, rfl⟩ := mem_ends_one.mp hj
    exact Nat.lt_succ_self i
  | seq a b iha ihb =>
    obtain ⟨m, hm, hj⟩ := mem_ends_seq.mp hj
    rcases Bool.and_eq_false_iff.mp h with h | h
    · exact Nat.lt_of_lt_of_le (iha h hm) (le_of_mem_ends hj)
    · exact Nat.lt_of_le_of_lt (le_of_mem_ends hm) (ihb h hj)
  | either a b iha ihb =>
    obtain ⟨ha, hb⟩ := Bool.or_eq_false_iff.mp h
    rcases mem_ends_either.mp hj with hj | hj
    · exact iha ha hj
    · exact ihb hb hj
  | group p ih => exact ih h hj
  | many greedy p ih =>
    exact many_stays (fun q hq r hr => Nat.lt_of_lt_of_le hq (le_of_mem_ends hr))
      (fun q hq => ih h hq) hj
  | times n p ih =>
    obtain ⟨hn, hp⟩ := Bool.or_eq_false_iff.mp h
    obtain ⟨n, rfl⟩ := Nat.exists_eq_add_one_of_ne_zero (by simpa using hn)
    have hfirst : ∀ q ∈ distinct 0 ([i].flatMap (p.ends text)), i < q := fun q hq =>
      ih hp (by simpa using hq)
    exact repeatStep_stays (fun q hq r hr => Nat.lt_of_lt_of_le hq (le_of_mem_ends hr)) hfirst j hj
  | _ => cases h

/-- A step that is not the first one changes nothing about the first character. -/
theorem opens_step {P : Nat → Prop} (ih : ∀ {q r}, r ∈ p.ends text q → r = q ∨ P q) {q r : Nat}
    (hq : q = i ∨ P i) (hr : r ∈ p.ends text q) : r = i ∨ P i := by
  rcases hq with rfl | hi
  · exact ih hr
  · exact Or.inr hi

theorem opens_of_mem_ends (hj : j ∈ p.ends text i) :
    j = i ∨ ∃ c, text[i]? = some c ∧ p.opensWith c := by
  induction p generalizing i j with
  | nothing => exact Or.inl (List.mem_singleton.mp hj)
  | one s =>
    obtain ⟨c, hc, hs, -⟩ := mem_ends_one.mp hj
    exact Or.inr ⟨c, hc, hs⟩
  | look l => exact Or.inl (mem_ends_look.mp hj).1
  | seq a b iha ihb =>
    obtain ⟨m, hm, hmj⟩ := mem_ends_seq.mp hj
    rcases iha hm with rfl | ⟨c, hc, ha⟩
    · cases hempty : a.canBeEmpty with
      | true =>
        exact (ihb hmj).imp_right fun ⟨c, hc, hb⟩ => ⟨c, hc, by simp [opensWith, hempty, hb]⟩
      | false => exact absurd (lt_of_mem_ends hempty hm) (Nat.lt_irrefl m)
    · exact Or.inr ⟨c, hc, by simp [opensWith, ha]⟩
  | either a b iha ihb =>
    rcases mem_ends_either.mp hj with hj | hj
    · exact (iha hj).imp_right fun ⟨c, hc, ha⟩ => ⟨c, hc, by simp [opensWith, ha]⟩
    · exact (ihb hj).imp_right fun ⟨c, hc, hb⟩ => ⟨c, hc, by simp [opensWith, hb]⟩
  | group p ih => exact ih hj
  | opt greedy p ih => exact (mem_ends_opt.mp hj).elim Or.inl fun hj => ih hj
  | times n p ih => exact times_stays (fun q hq r hr => opens_step ih hq hr) (Or.inl rfl) hj
  | upTo n greedy p ih => exact upTo_stays (fun q hq r hr => opens_step ih hq hr) (Or.inl rfl) hj
  | many greedy p ih =>
    exact many_stays (fun q hq r hr => opens_step ih hq hr) (fun q hq => ih hq) hj

end Ends

end LogDelivery.Pattern
