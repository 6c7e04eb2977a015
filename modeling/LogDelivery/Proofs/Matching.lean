import LogDelivery.Pattern.Basic
import Mathlib.Computability.Language

/-!
# What patterns match

A pattern without conditions on places and without open repetition matches the words of a
language, wherever they stand. The search for matches misses no place at which one could begin.
-/
namespace LogDelivery.Pattern

open Unicode (CodeSet)

theorem mem_distinct {l : List Nat} {seen x : Nat} :
    x ∈ distinct seen l ↔ x ∈ l ∧ seen.testBit x = false := by
  induction l generalizing seen with
  | nil => simp [distinct]
  | cons p rest ih =>
    cases hp : seen.testBit p with
    | true =>
      rw [distinct, if_pos hp, ih, List.mem_cons]
      constructor
      · rintro ⟨hx, hs⟩
        exact ⟨Or.inr hx, hs⟩
      · rintro ⟨rfl | hx, hs⟩
        · rw [hp] at hs
          cases hs
        · exact ⟨hx, hs⟩
    | false =>
      rw [distinct, if_neg (by simp [hp]), List.mem_cons, List.mem_cons, ih]
      by_cases hx : x = p
      · simp [hx, hp]
      · simp [hx, Nat.testBit_or, Nat.one_shiftLeft, Ne.symm hx]

@[simp] theorem mem_distinct_zero {l : List Nat} {x : Nat} : x ∈ distinct 0 l ↔ x ∈ l := by
  simp [mem_distinct]

def Reads (cs : List Char) (i : Nat) (w : List Char) : Prop := w <+: cs.drop i

section Reads

variable {cs u v w : List Char} {c : Char} {i k : Nat}

@[simp] theorem reads_nil : Reads cs i [] := List.nil_prefix

theorem reads_append : Reads cs i (u ++ v) ↔ Reads cs i u ∧ Reads cs (i + u.length) v := by
  rw [Reads, Reads, Reads, ← List.drop_drop]
  constructor
  · rintro ⟨rest, hrest⟩
    rw [← hrest, List.append_assoc]
    exact ⟨List.prefix_append .., by simp⟩
  · rintro ⟨⟨rest, hrest⟩, hv⟩
    rw [← hrest, List.drop_left] at hv
    rw [← hrest]
    exact (List.prefix_append_right_inj u).mpr hv

theorem reads_iff_getElem? : Reads cs i w ↔ ∀ k < w.length, cs[i + k]? = w[k]? := by
  rw [Reads, List.prefix_iff_getElem?]
  refine forall_congr' fun k => forall_congr' fun hk => ?_
  rw [List.getElem?_drop, List.getElem?_eq_getElem hk]

theorem reads_singleton : Reads cs i [c] ↔ cs[i]? = some c := by
  simp [reads_iff_getElem?]

theorem reads_congr {cs' : List Char}
    (h : ∀ k, i ≤ k → k < i + w.length → cs'[k]? = cs[k]?) : Reads cs' i w ↔ Reads cs i w := by
  simp only [reads_iff_getElem?]
  refine forall_congr' fun k => forall_congr' fun hk => ?_
  rw [h (i + k) (Nat.le_add_right i k) (Nat.add_lt_add_left hk i)]

end Reads

/-- The words that a pattern matches where its conditions on places hold. -/
def language : Pattern → Language Char
  | .nothing | .look _ => 1
  | .one s => {w | ∃ c, s.contains c.toNat ∧ w = [c]}
  | .seq a b => a.language * b.language
  | .either a b => a.language + b.language
  | .group p => p.language
  | .opt _ p => 1 + p.language
  | .times n p => p.language ^ n
  | .upTo n _ p => (1 + p.language) ^ n
  | .many _ p => p.language * KStar.kstar p.language

def isPlain : Pattern → Bool
  | .nothing | .one _ => true
  | .look _ | .upTo .. | .many .. => false
  | .seq a b | .either a b => a.isPlain && b.isPlain
  | .group p | .opt _ p | .times _ p => p.isPlain

/-- The text says a word of a language from one place to another. -/
def Finds (L : Language Char) (cs : List Char) (i j : Nat) : Prop :=
  ∃ w ∈ L, Reads cs i w ∧ j = i + w.length

section Finds

variable {L M : Language Char} {cs : List Char} {i j : Nat}

@[simp] theorem finds_one : Finds 1 cs i j ↔ j = i := by
  simp [Finds, Language.mem_one]

theorem finds_add : Finds (L + M) cs i j ↔ Finds L cs i j ∨ Finds M cs i j := by
  simp only [Finds, Language.mem_add, or_and_right, exists_or]

theorem finds_mul : Finds (L * M) cs i j ↔ ∃ m, Finds L cs i m ∧ Finds M cs m j := by
  constructor
  · rintro ⟨w, hw, hr, rfl⟩
    obtain ⟨u, hu, v, hv, rfl⟩ := Language.mem_mul.mp hw
    obtain ⟨hru, hrv⟩ := reads_append.mp hr
    exact ⟨i + u.length, ⟨u, hu, hru, rfl⟩, v, hv, hrv,
      by rw [List.length_append, Nat.add_assoc]⟩
  · rintro ⟨m, ⟨u, hu, hru, rfl⟩, v, hv, hrv, rfl⟩
    exact ⟨u ++ v, Language.mem_mul.mpr ⟨u, hu, v, hv, rfl⟩, reads_append.mpr ⟨hru, hrv⟩,
      by rw [List.length_append, Nat.add_assoc]⟩

theorem finds_one_character {s : Unicode.CodeSet} :
    Finds (Pattern.one s).language cs i j ↔
      ∃ c, cs[i]? = some c ∧ s.contains c.toNat ∧ j = i + 1 := by
  constructor
  · rintro ⟨w, ⟨c, hc, rfl⟩, hr, rfl⟩
    exact ⟨c, reads_singleton.mp hr, hc, rfl⟩
  · rintro ⟨c, hi, hc, rfl⟩
    exact ⟨[c], ⟨c, hc, rfl⟩, reads_singleton.mpr hi, rfl⟩

end Finds

variable {cs : List Char}

theorem mem_repeatStep {step : Nat → List Nat} {L : Language Char}
    (h : ∀ i j, j ∈ step i ↔ Finds L cs i j) (n : Nat) {places : List Nat} {j : Nat} :
    j ∈ repeatStep step n places ↔ ∃ i ∈ places, Finds (L ^ n) cs i j := by
  induction n generalizing places with
  | zero => simp [repeatStep]
  | succ n ih =>
    cases places with
    | nil => simp [repeatStep]
    | cons p rest =>
      have hstep : repeatStep step (n + 1) (p :: rest) =
          repeatStep step n (distinct 0 ((p :: rest).flatMap step)) := rfl
      rw [hstep, ih]
      simp only [mem_distinct_zero, List.mem_flatMap, h, pow_succ', finds_mul]
      constructor
      · rintro ⟨m, ⟨i, hi, hm⟩, hj⟩
        exact ⟨i, hi, m, hm, hj⟩
      · rintro ⟨i, hi, m, hm, hj⟩
        exact ⟨m, ⟨i, hi, hm⟩, hj⟩

section Parts

variable {text : Array Char} {p a b : Pattern} {s : CodeSet} {l : Look} {greedy : Bool} {i j : Nat}

theorem mem_ends_one :
    j ∈ (Pattern.one s).ends text i ↔ ∃ c, text[i]? = some c ∧ s.contains c.toNat ∧ j = i + 1 := by
  rw [ends]
  cases text[i]? with
  | none => simp
  | some c => by_cases hs : s.contains c.toNat <;> simp [hs]

theorem mem_ends_look : j ∈ (Pattern.look l).ends text i ↔ j = i ∧ l.holds text i := by
  rw [ends]
  split <;> simp [*]

theorem mem_ends_either :
    j ∈ (Pattern.either a b).ends text i ↔ j ∈ a.ends text i ∨ j ∈ b.ends text i := by
  simp [ends]

theorem mem_ends_opt : j ∈ (Pattern.opt greedy p).ends text i ↔ j = i ∨ j ∈ p.ends text i := by
  cases greedy <;> simp [ends, or_comm]

theorem mem_ends_seq :
    j ∈ (Pattern.seq a b).ends text i ↔ ∃ m ∈ a.ends text i, j ∈ b.ends text m := by
  simp [ends]

end Parts

/-- The matches that begin at a place end behind the words of the language. -/
theorem mem_ends_iff {p : Pattern} (hp : p.isPlain) {i j : Nat} :
    j ∈ p.ends cs.toArray i ↔ Finds p.language cs i j := by
  induction p generalizing i j with
  | nothing => simp [ends, language]
  | one s => rw [finds_one_character, mem_ends_one, List.getElem?_toArray]
  | look l => cases hp
  | seq a b iha ihb =>
    rw [isPlain, Bool.and_eq_true] at hp
    simp only [mem_ends_seq, iha hp.1, ihb hp.2, language, finds_mul]
  | either a b iha ihb =>
    rw [isPlain, Bool.and_eq_true] at hp
    simp only [mem_ends_either, iha hp.1, ihb hp.2, language, finds_add]
  | group p ih => exact ih hp
  | opt greedy p ih => rw [mem_ends_opt, ih hp, language, finds_add, finds_one]
  | times n p ih =>
    rw [ends, mem_repeatStep (fun i j => ih hp), language]
    simp
  | upTo n greedy p ih => cases hp
  | many greedy p ih => cases hp

section Search

variable {p : Pattern} {text text' : Array Char} {i k s e : Nat}

theorem findFrom_eq_none {fuel : Nat} (h : p.findFrom text fuel i = none) (hi : i ≤ k)
    (hk : k ≤ i + fuel) : p.ends text k = [] := by
  induction fuel generalizing i with
  | zero =>
    obtain rfl : k = i := Nat.le_antisymm hk hi
    simpa [findFrom] using h
  | succ fuel ih =>
    rw [findFrom] at h
    split at h
    · cases h
    · next hends =>
      rcases Nat.eq_or_lt_of_le hi with rfl | hlt
      · exact List.head?_eq_none_iff.mp hends
      · exact ih h hlt (by omega)

theorem findFrom_eq_some {fuel : Nat} (h : p.findFrom text fuel i = some (s, e)) :
    i ≤ s ∧ (p.ends text s).head? = some e ∧ ∀ k, i ≤ k → k < s → p.ends text k = [] := by
  induction fuel generalizing i with
  | zero =>
    obtain ⟨e', he, heq⟩ := Option.map_eq_some_iff.mp h
    obtain ⟨rfl, rfl⟩ := Prod.mk.inj heq
    exact ⟨Nat.le_refl i, he, fun k hi hk => absurd hk (Nat.not_lt.mpr hi)⟩
  | succ fuel ih =>
    rw [findFrom] at h
    split at h
    · next e' he =>
      obtain ⟨rfl, rfl⟩ := Prod.mk.inj (Option.some.inj h)
      exact ⟨Nat.le_refl i, he, fun k hi hk => absurd hk (Nat.not_lt.mpr hi)⟩
    · next hends =>
      obtain ⟨hle, he, hnone⟩ := ih h
      refine ⟨Nat.le_of_succ_le hle, he, fun k hi hk => ?_⟩
      rcases Nat.eq_or_lt_of_le hi with rfl | hlt
      · exact List.head?_eq_none_iff.mp hends
      · exact hnone k hlt hk

theorem find_eq_some (h : p.find text i = some (s, e)) :
    i ≤ s ∧ (p.ends text s).head? = some e ∧ ∀ k, i ≤ k → k < s → p.ends text k = [] := by
  unfold find at h
  split at h
  · exact findFrom_eq_some h
  · cases h

theorem find_eq_none (h : p.find text i = none) (hi : i ≤ k) (hk : k ≤ text.size) :
    p.ends text k = [] := by
  rw [find, if_pos (Nat.le_trans hi hk)] at h
  exact findFrom_eq_none h hi (by omega)

theorem head?_ends_of_mem_spansFrom {fuel : Nat} {last : Option Nat}
    (h : (s, e) ∈ p.spansFrom text fuel last i) : (p.ends text s).head? = some e := by
  induction fuel generalizing last i with
  | zero => cases h
  | succ fuel ih =>
    rw [spansFrom] at h
    split at h
    · next s' e' hnext =>
      rcases List.mem_cons.mp h with heq | h
      · obtain ⟨rfl, rfl⟩ := Prod.mk.inj heq
        unfold findNext at hnext
        split at hnext
        · next s' e' hfind =>
          split at hnext
          · exact (find_eq_some hnext).2.1
          · obtain ⟨rfl, rfl⟩ := Prod.mk.inj (Option.some.inj hnext)
            exact (find_eq_some hfind).2.1
        · cases hnext
      · exact ih h
    · cases h

theorem head?_ends_of_mem_spans (h : (s, e) ∈ p.spans text) : (p.ends text s).head? = some e :=
  head?_ends_of_mem_spansFrom h

theorem exists_mem_spansFrom (hp : ∀ i j, j ∈ p.ends text i → i < j) (hk : p.ends text k ≠ [])
    (hsize : k ≤ text.size) {fuel : Nat} {last : Option Nat} (hi : i ≤ k) (hf : k < i + fuel) :
    ∃ x ∈ p.spansFrom text fuel last i, x.1 ≤ k ∧ k < x.2 := by
  induction fuel generalizing last i with
  | zero => omega
  | succ fuel ih =>
    cases hfind : p.find text i with
    | none => exact absurd (find_eq_none hfind hi hsize) hk
    | some x =>
      obtain ⟨s, e⟩ := x
      obtain ⟨his, he, hnone⟩ := find_eq_some hfind
      have hse : s < e := hp s e (List.mem_of_head? he)
      have hsk : s ≤ k := Nat.le_of_not_lt fun hlt => hk (hnone k hi hlt)
      have hnext : p.findNext text last i = some (s, e) := by
        simp [findNext, hfind, Nat.ne_of_lt hse]
      rw [spansFrom, hnext]
      by_cases hke : k < e
      · exact ⟨(s, e), List.mem_cons_self .., hsk, hke⟩
      · have hrest : ∃ x ∈ p.spansFrom text fuel (some e) e, x.1 ≤ k ∧ k < x.2 :=
          ih (Nat.le_of_not_lt hke) (by omega)
        obtain ⟨x, hx, hcover⟩ := hrest
        exact ⟨x, List.mem_cons_of_mem _ hx, hcover⟩

theorem exists_mem_spans (hp : ∀ i j, j ∈ p.ends text i → i < j) (hk : p.ends text k ≠ [])
    (hsize : k ≤ text.size) : ∃ x ∈ p.spans text, x.1 ≤ k ∧ k < x.2 :=
  exists_mem_spansFrom hp hk hsize (Nat.zero_le k) (by omega)

theorem findFrom_of_fewer (hfew : ∀ i, p.ends text i = [] → p.ends text' i = []) {fuel : Nat}
    (hkept : ∀ x, p.findFrom text fuel i = some x → (p.ends text' x.1).head? = some x.2) :
    p.findFrom text' fuel i = p.findFrom text fuel i := by
  induction fuel generalizing i with
  | zero =>
    cases hends : (p.ends text i).head? with
    | none => simp [findFrom, hfew i (List.head?_eq_none_iff.mp hends), hends]
    | some e => simp [findFrom, hkept (i, e) (by simp [findFrom, hends]), hends]
  | succ fuel ih =>
    cases hends : (p.ends text i).head? with
    | none =>
      simp only [findFrom, hends] at hkept
      simp [findFrom, hfew i (List.head?_eq_none_iff.mp hends), hends, ih hkept]
    | some e => simp [findFrom, hkept (i, e) (by simp [findFrom, hends]), hends]

theorem spansFrom_of_fewer (hs : text'.size = text.size) (hp : ∀ i j, j ∈ p.ends text i → i < j)
    (hfew : ∀ i, p.ends text i = [] → p.ends text' i = []) {fuel : Nat} {last : Option Nat}
    (hkept : ∀ x ∈ p.spansFrom text fuel last i, (p.ends text' x.1).head? = some x.2) :
    p.spansFrom text' fuel last i = p.spansFrom text fuel last i := by
  induction fuel generalizing last i with
  | zero => rfl
  | succ fuel ih =>
    have hfind : (∀ x, p.find text i = some x → (p.ends text' x.1).head? = some x.2) →
        p.find text' i = p.find text i := by
      intro h
      unfold find at h ⊢
      rw [hs]
      split
      · next hi =>
        rw [if_pos hi] at h
        exact findFrom_of_fewer hfew h
      · rfl
    cases hx : p.find text i with
    | none =>
      have hx' : p.find text' i = none := by
        rw [hfind (by simp [hx]), hx]
      simp [spansFrom, findNext, hx, hx']
    | some x =>
      obtain ⟨s, e⟩ := x
      have hse : s ≠ e := Nat.ne_of_lt (hp s e (List.mem_of_head? (find_eq_some hx).2.1))
      simp only [spansFrom, findNext, hx, hse, false_and, if_false] at hkept
      have hx' : p.find text' i = some (s, e) := by
        rw [hfind ?_, hx]
        intro y hy
        obtain rfl : (s, e) = y := Option.some.inj (hx.symm.trans hy)
        exact hkept (s, e) (List.mem_cons_self ..)
      have hrest := ih fun y hy => hkept y (List.mem_cons_of_mem _ hy)
      simp [spansFrom, findNext, hx, hx', hse, hrest]

/-- The search reports the same matches when none of those is lost and no other place gains one. -/
theorem spans_of_fewer (hs : text'.size = text.size) (hp : ∀ i j, j ∈ p.ends text i → i < j)
    (hfew : ∀ i, p.ends text i = [] → p.ends text' i = [])
    (hkept : ∀ x ∈ p.spans text, (p.ends text' x.1).head? = some x.2) :
    p.spans text' = p.spans text := by
  unfold spans at hkept ⊢
  rw [hs]
  exact spansFrom_of_fewer hs hp hfew hkept

end Search

end LogDelivery.Pattern
