import LogDelivery.Proofs.Scanning
import LogDelivery.Redaction.RuleBook

/-!
# What masking hides

Masking only ever replaces characters, those that the scans of its patterns cover, and what has been
replaced stays replaced. When all matches begin and end at boundaries of words, words are hidden as
a whole, so that no boundary appears where there was none.
-/
namespace LogDelivery

section Starred

variable {spans : List (Nat × Nat)} {cs : List Char} {i : Nat}

def Covered (spans : List (Nat × Nat)) (i : Nat) : Prop := ∃ s ∈ spans, s.1 ≤ i ∧ i < s.2

@[simp] theorem length_starred : (starred spans cs).length = cs.length := by
  simp [starred]

theorem getElem?_starred_of_covered (h : Covered spans i) (hi : i < cs.length) :
    (starred spans cs)[i]? = some '*' := by
  have hany : (spans.any fun s => s.1 ≤ i && i < s.2) = true := by
    obtain ⟨s, hs, hle, hlt⟩ := h
    exact List.any_eq_true.mpr ⟨s, hs, by simp [hle, hlt]⟩
  simp [starred, List.getElem?_mapIdx, hany, List.getElem?_eq_getElem hi]

theorem getElem?_starred_of_not_covered (h : ¬ Covered spans i) :
    (starred spans cs)[i]? = cs[i]? := by
  have hany : (spans.any fun s => s.1 ≤ i && i < s.2) = false := by
    refine List.any_eq_false.mpr fun s hs hin => h ⟨s, hs, ?_⟩
    simpa using hin
  simp [starred, List.getElem?_mapIdx, hany]

theorem getElem?_starred_of_star (h : cs[i]? = some '*') : (starred spans cs)[i]? = some '*' := by
  by_cases hc : Covered spans i
  · exact getElem?_starred_of_covered hc (List.getElem?_eq_some_iff.mp h).1
  · rwa [getElem?_starred_of_not_covered hc]

theorem covered_of_starred (h : (starred spans cs)[i]? = some '*') :
    cs[i]? = some '*' ∨ Covered spans i := by
  by_cases hc : Covered spans i
  · exact Or.inr hc
  · exact Or.inl (by rwa [getElem?_starred_of_not_covered hc] at h)

end Starred

namespace Pattern

def maskAll (patterns : List Pattern) (cs : List Char) : List Char :=
  patterns.foldl (fun cs p => p.mask cs) cs

variable {patterns before after : List Pattern} {p : Pattern} {cs : List Char} {i : Nat}

theorem maskAll_append : maskAll (before ++ after) cs = maskAll after (maskAll before cs) :=
  List.foldl_append

theorem maskAll_cons : maskAll (p :: after) cs = maskAll after (p.mask cs) := rfl

/-- What has been replaced stays replaced. -/
theorem star_maskAll (h : cs[i]? = some '*') : (maskAll patterns cs)[i]? = some '*' := by
  induction patterns generalizing cs with
  | nil => exact h
  | cons p patterns ih => exact ih (getElem?_starred_of_star h)

theorem star_maskAll_of_mask (h : (p.mask (maskAll before cs))[i]? = some '*') :
    (maskAll (before ++ p :: after) cs)[i]? = some '*' := by
  rw [maskAll_append, maskAll_cons]
  exact star_maskAll h

theorem length_maskAll : (maskAll patterns cs).length = cs.length := by
  induction patterns generalizing cs with
  | nil => rfl
  | cons p patterns ih => rw [maskAll_cons, ih, mask, length_starred]

theorem maskAll_of_no_ends
    (h : ∀ p ∈ patterns, ∀ i ≤ cs.length, p.ends cs.toArray i = []) : maskAll patterns cs = cs := by
  induction patterns with
  | nil => rfl
  | cons p patterns ih =>
    obtain ⟨hp, hrest⟩ := List.forall_mem_cons.mp h
    have hmask : p.mask cs = cs := by
      rw [mask, spans_eq_nil (by simpa using hp)]
      exact List.ext_getElem? fun i => getElem?_starred_of_not_covered (by simp [Covered])
    rw [maskAll_cons, hmask, ih hrest]

/-- A place is covered by the scan of some pattern in what the patterns before it have left. -/
def Reached (patterns : List Pattern) (cs : List Char) (i : Nat) : Prop :=
  ∃ before p after spans, patterns = before ++ p :: after ∧
    p.Scan (maskAll before cs).toArray none 0 spans ∧ Covered spans i

theorem lt_of_covered {spans : List (Nat × Nat)} (h : p.Scan cs.toArray none 0 spans)
    (hi : Covered spans i) : i < cs.length := by
  obtain ⟨x, hx, -, hlt⟩ := hi
  have hsize := (h.bounds x hx).2.2
  rw [List.size_toArray] at hsize
  exact Nat.lt_of_lt_of_le hlt hsize

theorem star_of_reached (h : Reached patterns cs i) : (maskAll patterns cs)[i]? = some '*' := by
  obtain ⟨before, p, after, spans, rfl, hscan, hcovered⟩ := h
  have hi := lt_of_covered hscan hcovered
  rw [scan_iff.mp hscan] at hcovered
  exact star_maskAll_of_mask (getElem?_starred_of_covered hcovered hi)

theorem reached_cons (h : Reached patterns (p.mask cs) i) : Reached (p :: patterns) cs i := by
  obtain ⟨before, q, after, spans, rfl, hcovered⟩ := h
  exact ⟨p :: before, q, after, spans, rfl, hcovered⟩

theorem kept_of_not_reached (h : ¬ Reached patterns cs i) : (maskAll patterns cs)[i]? = cs[i]? := by
  induction patterns generalizing cs with
  | nil => rfl
  | cons p patterns ih =>
    have hfirst : ¬ Covered (p.spans cs.toArray) i := fun hcovered =>
      h ⟨[], p, patterns, _, rfl, scan_iff.mpr rfl, hcovered⟩
    rw [maskAll_cons, ih fun hrest => h (reached_cons hrest)]
    exact getElem?_starred_of_not_covered hfirst

end Pattern

def letterAt (cs : List Char) (i : Nat) : Bool := Look.isLetter true cs[i]?

def boundaryAt (cs : List Char) (i : Nat) : Bool := (Look.boundary true).holds cs.toArray i

theorem boundaryAt_zero (cs : List Char) : boundaryAt cs 0 = letterAt cs 0 := by
  simp [boundaryAt, letterAt, Look.holds, Look.before?, Look.isLetter]

theorem boundaryAt_succ (cs : List Char) (i : Nat) :
    boundaryAt cs (i + 1) = (letterAt cs i != letterAt cs (i + 1)) := by
  simp [boundaryAt, letterAt, Look.holds, Look.before?]

theorem lt_of_letterAt {cs : List Char} {i : Nat} (h : letterAt cs i) : i < cs.length := by
  by_contra hge
  simp [letterAt, List.getElem?_eq_none (Nat.le_of_not_lt hge), Look.isLetter] at h

/-- Some characters of a text are hidden, of each word all or none. -/
structure Veils (cs cs' : List Char) : Prop where
  length : cs'.length = cs.length
  hidden : ∀ i : Nat, cs'[i]? ≠ cs[i]? → cs'[i]? = some '*'
  words : ∀ i : Nat, letterAt cs i → letterAt cs (i + 1) →
    (cs'[i]? = cs[i]? ↔ cs'[i + 1]? = cs[i + 1]?)

namespace Veils

variable {cs cs' cs'' : List Char} {i : Nat}

theorem refl (cs : List Char) : Veils cs cs := ⟨rfl, fun _ h => absurd rfl h, fun _ _ _ => by simp⟩

theorem shown_of_letter (h : Veils cs cs') (hl : letterAt cs' i) : cs'[i]? = cs[i]? := by
  by_contra hne
  rw [letterAt, h.hidden i hne] at hl
  exact absurd hl (by decide)

theorem letterAt_of_veiled (h : Veils cs cs') (hl : letterAt cs' i) : letterAt cs i := by
  rwa [letterAt, ← h.shown_of_letter hl]

theorem trans (h : Veils cs cs') (h' : Veils cs' cs'') : Veils cs cs'' := by
  have hshown : ∀ i, letterAt cs i →
      (cs''[i]? = cs[i]? ↔ cs'[i]? = cs[i]? ∧ cs''[i]? = cs'[i]?) := by
    intro i hl
    constructor
    · intro hi
      have hl'' : letterAt cs'' i := by rwa [letterAt, hi]
      have hi' := h'.shown_of_letter hl''
      exact ⟨hi'.symm.trans hi, hi'⟩
    · rintro ⟨hi, hi'⟩
      exact hi'.trans hi
  refine ⟨h'.length.trans h.length, fun i hi => ?_, fun i hl hl' => ?_⟩
  · by_cases hi' : cs''[i]? = cs'[i]?
    · rw [hi']
      exact h.hidden i (hi' ▸ hi)
    · exact h'.hidden i hi'
  · rw [hshown i hl, hshown (i + 1) hl', h.words i hl hl']
    refine and_congr_right fun hi => ?_
    have hi' : cs'[i]? = cs[i]? := (h.words i hl hl').mpr hi
    exact h'.words i (by rwa [letterAt, hi']) (by rwa [letterAt, hi])

/-- No boundary appears. -/
theorem boundaryAt_of_veiled (h : Veils cs cs') (hb : boundaryAt cs' i) : boundaryAt cs i := by
  cases i with
  | zero =>
    rw [boundaryAt_zero] at hb ⊢
    exact h.letterAt_of_veiled hb
  | succ i =>
    rw [boundaryAt_succ] at hb ⊢
    by_contra hsame
    have heq : letterAt cs i = letterAt cs (i + 1) := by simpa using hsame
    -- the side that is a letter is shown, so the other side of the word is shown too
    cases hl : letterAt cs' i with
    | true =>
      have hi := h.letterAt_of_veiled hl
      have hi' : letterAt cs (i + 1) := heq ▸ hi
      have hshown := (h.words i hi hi').mp (h.shown_of_letter hl)
      have hl' : letterAt cs' (i + 1) := by rwa [letterAt, hshown]
      simp [hl, hl'] at hb
    | false =>
      have hl' : letterAt cs' (i + 1) := by simpa [hl] using hb
      have hi' := h.letterAt_of_veiled hl'
      have hi : letterAt cs i := heq ▸ hi'
      have hshown := (h.words i hi hi').mpr (h.shown_of_letter hl')
      have hlt : letterAt cs' i := by rwa [letterAt, hshown]
      rw [hl] at hlt
      cases hlt

theorem boundaryAt_of_first (h : Veils cs cs') (hb : boundaryAt cs i) (hl : letterAt cs' i) :
    boundaryAt cs' i := by
  have hl₀ := h.letterAt_of_veiled hl
  cases i with
  | zero => rwa [boundaryAt_zero]
  | succ i =>
    have hbefore : letterAt cs i = false := by simpa [boundaryAt_succ, hl₀] using hb
    have hbefore' : ¬ letterAt cs' i := fun hi => by simp [h.letterAt_of_veiled hi] at hbefore
    simp [boundaryAt_succ, hl, hbefore']

theorem boundaryAt_of_last (h : Veils cs cs') (hb : boundaryAt cs (i + 1)) (hl : letterAt cs' i) :
    boundaryAt cs' (i + 1) := by
  have hl₀ := h.letterAt_of_veiled hl
  have hafter : letterAt cs (i + 1) = false := by simpa [boundaryAt_succ, hl₀] using hb
  have hafter' : ¬ letterAt cs' (i + 1) := fun hi => by simp [h.letterAt_of_veiled hi] at hafter
  simp [boundaryAt_succ, hl, hafter']

end Veils

theorem veils_starred {spans : List (Nat × Nat)} {cs : List Char}
    (h : ∀ s ∈ spans, boundaryAt cs s.1 ∧ boundaryAt cs s.2) : Veils cs (starred spans cs) where
  length := length_starred
  hidden := by
    intro i hi
    have hc : Covered spans i := by
      by_contra hc
      exact hi (getElem?_starred_of_not_covered hc)
    have hlt : i < cs.length := by
      by_contra hge
      have hge := Nat.le_of_not_lt hge
      exact hi (by rw [List.getElem?_eq_none (by simpa using hge), List.getElem?_eq_none hge])
    exact getElem?_starred_of_covered hc hlt
  words := by
    intro i hl hl'
    have hinner : ¬ boundaryAt cs (i + 1) := by simp [boundaryAt_succ, hl, hl']
    -- a span that held only one of the two letters would begin or end between them
    have hcovered : Covered spans i ↔ Covered spans (i + 1) := by
      constructor
      · rintro ⟨s, hs, hle, hlt⟩
        refine ⟨s, hs, Nat.le_succ_of_le hle, Nat.lt_of_le_of_ne hlt fun heq => hinner ?_⟩
        exact heq ▸ (h s hs).2
      · rintro ⟨s, hs, hle, hlt⟩
        refine ⟨s, hs, Nat.le_of_lt_succ (Nat.lt_of_le_of_ne hle fun heq => hinner ?_),
          Nat.lt_of_succ_lt hlt⟩
        have hstart := (h s hs).1
        rwa [heq] at hstart
    have hshown : ∀ k, letterAt cs k → ((starred spans cs)[k]? = cs[k]? ↔ ¬ Covered spans k) := by
      intro k hk
      refine ⟨fun hsame hc => ?_, getElem?_starred_of_not_covered⟩
      have hlt := lt_of_letterAt hk
      rw [letterAt, ← hsame, getElem?_starred_of_covered hc hlt] at hk
      exact absurd hk (by decide)
    rw [hshown i hl, hshown (i + 1) hl', hcovered]

end LogDelivery
