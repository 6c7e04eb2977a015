import LogDelivery.Proofs.Masking
import LogDelivery.Redaction.SecretKind

/-!
# Patterns that find numbers

The patterns of the known kinds find numbers: digits, with a fixed number of other characters among
them, that stand between boundaries of words. A number has one end, and masking other words neither
makes a number nor breaks one that it leaves alone.
-/
namespace LogDelivery

/-- What all words of a language have in common: how many of the characters are no digits, whether
there may be none at all, and whether the first and the last one are digits if there are any. -/
structure Shape where
  gaps : Nat
  empty : Bool
  opens : Bool
  closes : Bool
  deriving DecidableEq, Repr

namespace Shape

def nothing : Shape := ⟨0, true, true, true⟩

def digit : Shape := ⟨0, false, true, true⟩

def gap : Shape := ⟨1, false, false, false⟩

def number (gaps : Nat) : Shape := ⟨gaps, false, true, true⟩

def ofSet? (s : Unicode.CodeSet) : Option Shape :=
  if s.ranges.all fun r => 48 ≤ r.1 && r.2 ≤ 57 then some digit
  else if s.ranges.all fun r => (r.2 < 48 || 57 < r.1) && (r.2 < 42 || 42 < r.1) then some gap
  else none

def seq (f g : Shape) : Shape where
  gaps := f.gaps + g.gaps
  empty := f.empty && g.empty
  opens := f.opens && (!f.empty || g.opens)
  closes := g.closes && (!g.empty || f.closes)

def either? (f g : Shape) : Option Shape :=
  if f.gaps = g.gaps then
    some ⟨f.gaps, f.empty || g.empty, f.opens && g.opens, f.closes && g.closes⟩
  else none

def times (f : Shape) : (n : Nat) → Shape
  | 0 => nothing
  | n + 1 => f.seq (f.times n)

structure Fits (f : Shape) (w : List Char) : Prop where
  plain : '*' ∉ w
  gaps : w.countP (!·.isDigit) = f.gaps
  empty : w = [] → f.empty
  opens : f.opens → ∀ c ∈ w.head?, c.isDigit
  closes : f.closes → ∀ c ∈ w.getLast?, c.isDigit

variable {f g h : Shape} {u v w : List Char}

theorem nothing_fits : nothing.Fits [] := by
  constructor <;> simp [nothing]

theorem isDigit_iff {c : Char} : c.isDigit ↔ 48 ≤ c.toNat ∧ c.toNat ≤ 57 := by
  simp [Char.isDigit, UInt32.le_iff_toNat_le]

theorem ofSet_fits {s : Unicode.CodeSet} {c : Char} (hs : ofSet? s = some f)
    (hc : s.contains c.toNat) : f.Fits [c] := by
  obtain ⟨r, hr, hle, hge⟩ := Unicode.CodeSet.exists_range_of_contains hc
  unfold ofSet? at hs
  split at hs
  · next hall =>
    obtain rfl := Option.some.inj hs
    have hin := List.all_eq_true.mp hall r hr
    have hdigit : c.isDigit := by
      simp only [Bool.and_eq_true, decide_eq_true_eq] at hin
      exact isDigit_iff.mpr (by omega)
    have hplain : '*' ≠ c := by
      rintro rfl
      exact absurd hdigit (by decide)
    constructor <;> simp [digit, hdigit, hplain]
  · split at hs
    · next hall =>
      obtain rfl := Option.some.inj hs
      have hin := List.all_eq_true.mp hall r hr
      simp only [Bool.and_eq_true, Bool.or_eq_true, decide_eq_true_eq] at hin
      have hdigit : ¬ c.isDigit := fun h => by
        have h := isDigit_iff.mp h
        omega
      have hplain : '*' ≠ c := by
        rintro rfl
        have hstar : '*'.toNat = 42 := rfl
        omega
      constructor <;> simp [gap, hdigit, hplain]
    · cases hs

theorem Fits.append (hu : f.Fits u) (hv : g.Fits v) : (f.seq g).Fits (u ++ v) where
  plain := by simp [hu.plain, hv.plain]
  gaps := by simp [seq, hu.gaps, hv.gaps]
  empty := by
    intro h
    obtain ⟨hu', hv'⟩ := List.append_eq_nil_iff.mp h
    simp [seq, hu.empty hu', hv.empty hv']
  opens := by
    intro ho c hc
    simp only [seq, Bool.and_eq_true, Bool.or_eq_true, Bool.not_eq_true'] at ho
    cases u with
    | nil => exact hv.opens (ho.2.resolve_left (by simp [hu.empty rfl])) c hc
    | cons d u => exact hu.opens ho.1 c hc
  closes := by
    intro ho c hc
    simp only [seq, Bool.and_eq_true, Bool.or_eq_true, Bool.not_eq_true'] at ho
    cases v with
    | nil => exact hu.closes (ho.2.resolve_left (by simp [hv.empty rfl])) c (by simpa using hc)
    | cons d v => exact hv.closes ho.1 c (by simpa [List.getLast?_append] using hc)

theorem Fits.either (hs : f.either? g = some h) (hw : f.Fits w ∨ g.Fits w) : h.Fits w := by
  unfold either? at hs
  split at hs
  · next heq =>
    obtain rfl := Option.some.inj hs
    rcases hw with hw | hw
    · exact ⟨hw.plain, hw.gaps, fun h => by simp [hw.empty h],
        fun h => hw.opens (Bool.and_eq_true_iff.mp h).1,
        fun h => hw.closes (Bool.and_eq_true_iff.mp h).1⟩
    · exact ⟨hw.plain, hw.gaps.trans heq.symm, fun h => by simp [hw.empty h],
        fun h => hw.opens (Bool.and_eq_true_iff.mp h).2,
        fun h => hw.closes (Bool.and_eq_true_iff.mp h).2⟩
  · cases hs

theorem times_fits {L : Language Char} (h : ∀ u ∈ L, f.Fits u) {n : Nat} (hw : w ∈ L ^ n) :
    (f.times n).Fits w := by
  induction n generalizing w with
  | zero =>
    rw [pow_zero, Language.mem_one] at hw
    rw [hw]
    exact nothing_fits
  | succ n ih =>
    rw [pow_succ'] at hw
    obtain ⟨u, hu, v, hv, rfl⟩ := Language.mem_mul.mp hw
    exact (h u hu).append (ih hv)

end Shape

namespace Pattern

def shape? : Pattern → Option Shape
  | .nothing => some .nothing
  | .one s => Shape.ofSet? s
  | .seq a b => a.shape?.bind fun f => b.shape?.map f.seq
  | .either a b => a.shape?.bind fun f => b.shape?.bind f.either?
  | .group p => p.shape?
  | .opt _ p => p.shape?.bind Shape.nothing.either?
  | .times n p => p.shape?.map (·.times n)
  | .look _ | .upTo .. | .many .. => none

theorem fits_of_shape {p : Pattern} {f : Shape} (hp : p.shape? = some f) {w : List Char}
    (hw : w ∈ p.language) : f.Fits w := by
  induction p generalizing f w with
  | nothing =>
    obtain rfl := Option.some.inj hp
    rw [language, Language.mem_one] at hw
    rw [hw]
    exact Shape.nothing_fits
  | one s =>
    obtain ⟨c, hc, rfl⟩ := hw
    exact Shape.ofSet_fits hp hc
  | seq a b iha ihb =>
    obtain ⟨fa, hfa, hp⟩ := Option.bind_eq_some_iff.mp hp
    obtain ⟨fb, hfb, rfl⟩ := Option.map_eq_some_iff.mp hp
    obtain ⟨u, hu, v, hv, rfl⟩ := Language.mem_mul.mp hw
    exact (iha hfa hu).append (ihb hfb hv)
  | either a b iha ihb =>
    obtain ⟨fa, hfa, hp⟩ := Option.bind_eq_some_iff.mp hp
    obtain ⟨fb, hfb, hp⟩ := Option.bind_eq_some_iff.mp hp
    rw [language, Language.mem_add] at hw
    exact .either hp (hw.imp (iha hfa) (ihb hfb))
  | group p ih => exact ih hp hw
  | opt greedy p ih =>
    obtain ⟨fp, hfp, hp⟩ := Option.bind_eq_some_iff.mp hp
    rw [language, Language.mem_add, Language.mem_one] at hw
    refine .either hp (hw.imp ?_ (ih hfp))
    rintro rfl
    exact Shape.nothing_fits
  | times n p ih =>
    obtain ⟨fp, hfp, rfl⟩ := Option.map_eq_some_iff.mp hp
    exact Shape.times_fits (fun _ hu => ih hfp hu) hw
  | _ => cases hp

theorem isPlain_of_shape {p : Pattern} {f : Shape} (hp : p.shape? = some f) : p.isPlain := by
  induction p generalizing f with
  | nothing => rfl
  | one s => rfl
  | seq a b iha ihb =>
    obtain ⟨fa, hfa, hp⟩ := Option.bind_eq_some_iff.mp hp
    obtain ⟨fb, hfb, -⟩ := Option.map_eq_some_iff.mp hp
    simp [isPlain, iha hfa, ihb hfb]
  | either a b iha ihb =>
    obtain ⟨fa, hfa, hp⟩ := Option.bind_eq_some_iff.mp hp
    obtain ⟨fb, hfb, -⟩ := Option.bind_eq_some_iff.mp hp
    simp [isPlain, iha hfa, ihb hfb]
  | group p ih => exact ih hp
  | opt greedy p ih =>
    obtain ⟨fp, hfp, -⟩ := Option.bind_eq_some_iff.mp hp
    exact ih hfp
  | times n p ih =>
    obtain ⟨fp, hfp, -⟩ := Option.map_eq_some_iff.mp hp
    exact ih hfp
  | _ => cases hp

variable {cs : List Char} {i j : Nat}

theorem mem_ends_foldl {parts : List Pattern} {a : Pattern} :
    j ∈ (parts.foldl .seq a).ends cs.toArray i ↔
      ∃ m ∈ a.ends cs.toArray i, j ∈ (seqs parts).ends cs.toArray m := by
  induction parts generalizing a i with
  | nil => simp [seqs, ends]
  | cons q rest ih =>
    have hseqs : seqs (q :: rest) = rest.foldl .seq q := rfl
    rw [List.foldl_cons, ih, hseqs]
    simp only [mem_ends_seq, ih]
    constructor
    · rintro ⟨m, ⟨k, hk, hm⟩, hj⟩
      exact ⟨k, hk, m, hm, hj⟩
    · rintro ⟨k, hk, m, hm, hj⟩
      exact ⟨m, ⟨k, hk, hm⟩, hj⟩

theorem mem_ends_boundary :
    j ∈ (Pattern.look (.boundary true)).ends cs.toArray i ↔ j = i ∧ boundaryAt cs i :=
  mem_ends_look

theorem mem_ends_isolated {parts : List Pattern} (hp : (seqs parts).isPlain) :
    j ∈ (SecretKind.isolated parts).ends cs.toArray i ↔
      boundaryAt cs i ∧ Finds (seqs parts).language cs i j ∧ boundaryAt cs j := by
  have hparts : SecretKind.isolated parts =
      .seq (parts.foldl .seq (.look (.boundary true))) (.look (.boundary true)) := by
    simp [SecretKind.isolated, seqs]
  simp only [hparts, mem_ends_seq, mem_ends_foldl, mem_ends_boundary, mem_ends_iff hp]
  constructor
  · rintro ⟨_, ⟨_, ⟨rfl, hi⟩, hfinds⟩, rfl, hj⟩
    exact ⟨hi, hfinds, hj⟩
  · rintro ⟨hi, hfinds, hj⟩
    exact ⟨j, ⟨i, ⟨rfl, hi⟩, hfinds⟩, rfl, hj⟩

/-- The matches of a pattern are words between boundaries, all of one shape: a digit first, a digit
last and a fixed number of other characters. -/
def FindsNumbers (p : Pattern) : Prop :=
  ∃ (L : Language Char) (gaps : Nat), (∀ w ∈ L, (Shape.number gaps).Fits w) ∧
    ∀ cs i j, j ∈ p.ends cs.toArray i ↔ boundaryAt cs i ∧ Finds L cs i j ∧ boundaryAt cs j

theorem findsNumbers_isolated {parts : List Pattern} {gaps : Nat}
    (h : (seqs parts).shape? = some (.number gaps)) : (SecretKind.isolated parts).FindsNumbers :=
  ⟨_, gaps, fun _ hw => fits_of_shape h hw, fun _ _ _ => mem_ends_isolated (isPlain_of_shape h)⟩

theorem letterAt_of_digit {c : Char} (hi : cs[i]? = some c) (hc : c.isDigit) : letterAt cs i := by
  have hascii : c.toNat < 128 := Nat.lt_of_le_of_lt (Shape.isDigit_iff.mp hc).2 (by decide)
  simp [letterAt, hi, Look.isLetter, Unicode.isWord, hascii, Unicode.isAsciiWord, Char.isAlphanum,
    hc]

structure NumberAt (cs : List Char) (i j : Nat) : Prop where
  lt : i < j
  first : letterAt cs i
  last : letterAt cs (j - 1)
  plain : ∀ k, i ≤ k → k < j → cs[k]? ≠ some '*'

namespace FindsNumbers

variable {p : Pattern} {cs' : List Char} {j' : Nat}

theorem digits (hp : p.FindsNumbers) (h : j ∈ p.ends cs.toArray i) :
    i < j ∧ (∃ c, cs[i]? = some c ∧ c.isDigit) ∧ ∃ c, cs[j - 1]? = some c ∧ c.isDigit := by
  obtain ⟨L, gaps, hL, hends⟩ := hp
  obtain ⟨-, ⟨w, hw, hr, rfl⟩, -⟩ := (hends cs i j).mp h
  have hfits := hL w hw
  have hread := reads_iff_getElem?.mp hr
  have hne : w ≠ [] := fun hnil => Bool.false_ne_true (hfits.empty hnil)
  have hpos : 0 < w.length := List.length_pos_of_ne_nil hne
  refine ⟨Nat.lt_add_of_pos_right hpos, ?_, ?_⟩
  · have hhead := List.head?_eq_some_head hne
    have h0 := hread 0 hpos
    rw [← List.head?_eq_getElem?, hhead] at h0
    exact ⟨_, h0, hfits.opens rfl _ hhead⟩
  · have hlast := List.getLast?_eq_some_getLast hne
    have h1 := hread (w.length - 1) (Nat.sub_one_lt_of_lt hpos)
    rw [← List.getLast?_eq_getElem?, hlast, ← Nat.add_sub_assoc hpos] at h1
    exact ⟨_, h1, hfits.closes rfl _ hlast⟩

theorem numberAt (hp : p.FindsNumbers) (h : j ∈ p.ends cs.toArray i) : NumberAt cs i j := by
  obtain ⟨hlt, ⟨c, hc, hdigit⟩, c', hc', hdigit'⟩ := hp.digits h
  refine ⟨hlt, letterAt_of_digit hc hdigit, letterAt_of_digit hc' hdigit', ?_⟩
  intro k hik hkj hstar
  obtain ⟨L, gaps, hL, hends⟩ := hp
  obtain ⟨-, ⟨w, hw, hr, rfl⟩, -⟩ := (hends cs i j).mp h
  obtain ⟨d, rfl⟩ := Nat.exists_eq_add_of_le hik
  have hd : w[d]? = some '*' := by
    rw [← reads_iff_getElem?.mp hr d (by omega), hstar]
  exact (hL w hw).plain (List.mem_of_getElem? hd)

theorem boundaries (hp : p.FindsNumbers) (h : j ∈ p.ends cs.toArray i) :
    boundaryAt cs i ∧ boundaryAt cs j := by
  obtain ⟨L, gaps, -, hends⟩ := hp
  obtain ⟨hi, -, hj⟩ := (hends cs i j).mp h
  exact ⟨hi, hj⟩

/-- A longer match would have a digit right behind the boundary at the end of the shorter one, or one
gap more. -/
theorem end_le (hp : p.FindsNumbers) (h : j ∈ p.ends cs.toArray i) (h' : j' ∈ p.ends cs.toArray i) :
    j' ≤ j := by
  have hpos := Nat.ne_zero_of_lt (hp.numberAt h).lt
  have hlast := (hp.numberAt h).last
  have hbound := (hp.boundaries h).2
  obtain ⟨L, gaps, hL, hends⟩ := hp
  obtain ⟨-, ⟨w, hw, hr, rfl⟩, -⟩ := (hends cs i j).mp h
  obtain ⟨-, ⟨w', hw', hr', rfl⟩, -⟩ := (hends cs i j').mp h'
  by_contra hlt
  obtain ⟨v, rfl⟩ := List.prefix_of_prefix_length_le hr hr' (by omega)
  cases v with
  | nil => simp at hlt
  | cons c v =>
    have hgaps := (hL _ hw').gaps
    rw [List.countP_append, (hL _ hw).gaps, Shape.number, Nat.add_eq_left] at hgaps
    have hdigit : c.isDigit := by
      simpa using List.countP_eq_zero.mp hgaps c (List.mem_cons_self ..)
    have hnext : cs[i + w.length]? = some c :=
      reads_iff_getElem?.mp (reads_append.mp hr').2 0 (Nat.succ_pos _)
    have hletter := letterAt_of_digit hnext hdigit
    obtain ⟨k, hk⟩ := Nat.exists_eq_add_one_of_ne_zero hpos
    rw [hk] at hlast hbound hletter
    rw [Nat.add_sub_cancel] at hlast
    simp [boundaryAt_succ, hlast, hletter] at hbound

theorem end_unique (hp : p.FindsNumbers) (h : j ∈ p.ends cs.toArray i)
    (h' : j' ∈ p.ends cs.toArray i) : j' = j :=
  Nat.le_antisymm (hp.end_le h h') (hp.end_le h' h)

theorem head?_ends (hp : p.FindsNumbers) (h : j ∈ p.ends cs.toArray i) :
    (p.ends cs.toArray i).head? = some j := by
  cases hends : p.ends cs.toArray i with
  | nil =>
    rw [hends] at h
    cases h
  | cons k rest =>
    have hk : k ∈ p.ends cs.toArray i := by simp [hends]
    rw [List.head?_cons, hp.end_unique h hk]

/-- Masking other words makes no number: its characters and its boundaries were there before. -/
theorem ends_of_veiled (hp : p.FindsNumbers) (hv : Veils cs cs') (h : j ∈ p.ends cs'.toArray i) :
    j ∈ p.ends cs.toArray i := by
  have hshown : ∀ k, i ≤ k → k < j → cs'[k]? = cs[k]? := by
    intro k hik hkj
    by_contra hne
    exact (hp.numberAt h).plain k hik hkj (hv.hidden k hne)
  obtain ⟨hi, hj⟩ := hp.boundaries h
  obtain ⟨L, gaps, hL, hends⟩ := hp
  obtain ⟨-, ⟨w, hw, hr, rfl⟩, -⟩ := (hends cs' i j).mp h
  exact (hends cs i _).mpr ⟨hv.boundaryAt_of_veiled hi, ⟨w, hw, (reads_congr hshown).mp hr, rfl⟩,
    hv.boundaryAt_of_veiled hj⟩

theorem ends_eq_nil_of_veiled (hp : p.FindsNumbers) (hv : Veils cs cs')
    (h : p.ends cs.toArray i = []) : p.ends cs'.toArray i = [] := by
  refine List.eq_nil_iff_forall_not_mem.mpr fun j hj => ?_
  have hbefore := hp.ends_of_veiled hv hj
  rw [h] at hbefore
  cases hbefore

theorem ends_of_shown (hp : p.FindsNumbers) (hv : Veils cs cs') (h : j ∈ p.ends cs.toArray i)
    (hshown : ∀ k, i ≤ k → k < j → cs'[k]? = cs[k]?) : j ∈ p.ends cs'.toArray i := by
  have hn := hp.numberAt h
  obtain ⟨hi, hj⟩ := hp.boundaries h
  have hfirst : letterAt cs' i := by
    rw [letterAt, hshown i (Nat.le_refl i) hn.lt]
    exact hn.first
  obtain ⟨k, rfl⟩ := Nat.exists_eq_add_one_of_ne_zero (Nat.ne_zero_of_lt hn.lt)
  have hlast : letterAt cs' k := by
    rw [letterAt, hshown k (Nat.le_of_lt_succ hn.lt) (Nat.lt_succ_self k)]
    exact hn.last
  have hi' := hv.boundaryAt_of_first hi hfirst
  have hj' := hv.boundaryAt_of_last hj hlast
  obtain ⟨L, gaps, hL, hends⟩ := hp
  obtain ⟨-, ⟨w, hw, hr, hlength⟩, -⟩ := (hends cs i _).mp h
  rw [hlength] at hshown
  exact (hends cs' i _).mpr ⟨hi', ⟨w, hw, (reads_congr hshown).mpr hr, hlength⟩, hj'⟩

theorem veils_mask (hp : p.FindsNumbers) (cs : List Char) : Veils cs (p.mask cs) :=
  veils_starred fun _ hs => hp.boundaries (List.mem_of_head? (head?_ends_of_mem_spans hs))

/-- Nothing is left of what a pattern finds: each place where a match could begin is in one that
was replaced. -/
theorem ends_mask (hp : p.FindsNumbers) (cs : List Char) (i : Nat) :
    p.ends (p.mask cs).toArray i = [] := by
  refine List.eq_nil_iff_forall_not_mem.mpr fun j hj => ?_
  have h := hp.ends_of_veiled (hp.veils_mask cs) hj
  have hn := hp.numberAt h
  have hlt := lt_of_letterAt hn.first
  obtain ⟨x, hx, hcover⟩ := exists_mem_spans (fun _ _ h => (hp.numberAt h).lt)
    (List.ne_nil_of_mem h) (by simpa using Nat.le_of_lt hlt)
  have hstar := getElem?_starred_of_covered ⟨x, hx, hcover⟩ hlt
  exact (hp.numberAt hj).plain i (Nat.le_refl i) hn.lt hstar

end FindsNumbers

end Pattern

namespace SecretKind

theorem findsNumbers {kind : SecretKind} {p : Pattern} (hp : p ∈ kind.patterns) :
    p.FindsNumbers := by
  have hshape : ∃ parts gaps, p = isolated parts ∧
      (Pattern.seqs parts).shape? = some (.number gaps) := by
    cases kind with
    | creditCard =>
      simp only [patterns, List.mem_cons, List.not_mem_nil, or_false] at hp
      rcases hp with rfl | rfl | rfl | rfl | rfl | rfl | rfl
      iterate 6 exact ⟨_, 0, rfl, rfl⟩
      exact ⟨_, 3, rfl, rfl⟩
    | ssn => exact ⟨_, 2, List.mem_singleton.mp hp, rfl⟩
    | ip => exact ⟨_, 3, List.mem_singleton.mp hp, rfl⟩
  obtain ⟨parts, gaps, rfl, h⟩ := hshape
  exact Pattern.findsNumbers_isolated h

end SecretKind

end LogDelivery
