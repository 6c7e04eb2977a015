import LogDelivery.Proofs.Numbers

/-!
# What rule books hide

A rule book for known kinds of secrets leaves none of what it looks for. Patterns are applied to
what the ones before have left, so a pattern need not hide all that it would hide alone: a match
may have lost a part to another one. Matches that are apart from those of the patterns before are
hidden as if there were no other pattern.
-/
namespace LogDelivery

namespace Pattern

variable {patterns before after : List Pattern} {p : Pattern} {cs : List Char} {i : Nat}

theorem veils_maskAll (h : ∀ p ∈ patterns, p.FindsNumbers) (cs : List Char) :
    Veils cs (maskAll patterns cs) := by
  induction patterns generalizing cs with
  | nil => exact .refl cs
  | cons p rest ih =>
    have hp := (h p (List.mem_cons_self ..)).veils_mask cs
    exact hp.trans (ih (fun q hq => h q (List.mem_cons_of_mem _ hq)) (p.mask cs))

theorem ends_maskAll (h : ∀ p ∈ patterns, p.FindsNumbers) (hp : p ∈ patterns) (i : Nat) :
    p.ends (maskAll patterns cs).toArray i = [] := by
  obtain ⟨before, after, rfl⟩ := List.append_of_mem hp
  rw [maskAll_append, maskAll_cons]
  have hafter : ∀ q ∈ after, q.FindsNumbers := fun q hq => h q (by simp [hq])
  exact (h p hp).ends_eq_nil_of_veiled (veils_maskAll hafter _) ((h p hp).ends_mask _ i)

/-- What a pattern finds in a text is apart from all that another one could find there. -/
def Apart (p q : Pattern) (cs : List Char) : Prop :=
  ∀ x ∈ p.spans cs.toArray, ∀ i j, j ∈ q.ends cs.toArray i → j ≤ x.1 ∨ x.2 ≤ i

/-- What is hidden was part of a match in the text that came in. -/
theorem exists_match_of_hidden (h : ∀ p ∈ patterns, p.FindsNumbers) {k : Nat}
    (hk : (maskAll patterns cs)[k]? ≠ cs[k]?) :
    ∃ q ∈ patterns, ∃ i j, j ∈ q.ends cs.toArray i ∧ i ≤ k ∧ k < j := by
  induction patterns generalizing cs with
  | nil => exact absurd rfl hk
  | cons q rest ih =>
    by_cases hq : (q.mask cs)[k]? = cs[k]?
    · rw [maskAll_cons, ← hq] at hk
      obtain ⟨q', hmem, i, j, hj, hin⟩ := ih (fun p hp => h p (List.mem_cons_of_mem _ hp)) hk
      have hveils := (h q (List.mem_cons_self ..)).veils_mask cs
      have hj' := (h q' (List.mem_cons_of_mem _ hmem)).ends_of_veiled hveils hj
      exact ⟨q', List.mem_cons_of_mem _ hmem, i, j, hj', hin⟩
    · have hcovered : Covered (q.spans cs.toArray) k := by
        by_contra hc
        exact hq (getElem?_starred_of_not_covered hc)
      obtain ⟨⟨s, e⟩, hx, hin⟩ := hcovered
      exact ⟨q, List.mem_cons_self .., s, e, List.mem_of_head? (head?_ends_of_mem_spans hx), hin⟩

theorem spans_maskAll_of_apart (h : ∀ q ∈ p :: before, q.FindsNumbers)
    (hapart : ∀ q ∈ before, p.Apart q cs) :
    p.spans (maskAll before cs).toArray = p.spans cs.toArray := by
  have hp := h p (List.mem_cons_self ..)
  have hbefore : ∀ q ∈ before, q.FindsNumbers := fun q hq => h q (List.mem_cons_of_mem _ hq)
  have hveils := veils_maskAll hbefore cs
  refine spans_of_fewer (by simp [hveils.length]) (fun i j hj => (hp.numberAt hj).lt)
    (fun i hi => hp.ends_eq_nil_of_veiled hveils hi) fun x hx => ?_
  have hmatch := List.mem_of_head? (head?_ends_of_mem_spans hx)
  refine hp.head?_ends (hp.ends_of_shown hveils hmatch fun k hk hk' => ?_)
  -- a place that is hidden lies in a match of a pattern before, which is apart from this one
  by_contra hhidden
  obtain ⟨q, hq, i, j, hj, hi, hij⟩ := exists_match_of_hidden hbefore hhidden
  rcases hapart q hq x hx i j hj with hle | hle <;> omega

theorem star_maskAll_of_apart (h : ∀ q ∈ p :: before, q.FindsNumbers)
    (hapart : ∀ q ∈ before, p.Apart q cs) (hi : (p.mask cs)[i]? = some '*') :
    (maskAll (before ++ p :: after) cs)[i]? = some '*' := by
  rcases covered_of_starred hi with hstar | hcovered
  · exact star_maskAll hstar
  · have hlt : i < cs.length := by
      rw [← length_starred]
      exact (List.getElem?_eq_some_iff.mp hi).1
    have hlength := (veils_maskAll (fun q hq => h q (List.mem_cons_of_mem p hq)) cs).length
    refine star_maskAll_of_mask (getElem?_starred_of_covered ?_ (hlength ▸ hlt))
    rwa [spans_maskAll_of_apart h hapart]

end Pattern

namespace RuleBook

open Pattern (maskAll Reached)

variable {book : RuleBook} {rule r : Rule}

theorem maskChars_eq (book : RuleBook) (cs : List Char) :
    book.maskChars cs = maskAll book.patterns cs := rfl

theorem toList_mask (book : RuleBook) (s : String) :
    (book.mask s).toList = maskAll book.patterns s.toList := by
  simp [mask, maskChars_eq]

/-- Whatever the patterns are, a masked text has as many characters as the text that came in. Those
that a scan covers are replaced, and the others are what they were. With no match of any pattern,
the text stays as it is. -/
theorem mask_place_by_place (book : RuleBook) (s : String) :
    (book.mask s).length = s.length ∧
      (∀ i, Reached book.patterns s.toList i → (book.mask s).toList[i]? = some '*') ∧
      (∀ i, ¬ Reached book.patterns s.toList i → (book.mask s).toList[i]? = s.toList[i]?) ∧
      ((∀ p ∈ book.patterns, ∀ i ≤ s.length, p.ends s.toList.toArray i = []) →
        book.mask s = s) := by
  rw [← String.length_toList, ← String.length_toList, toList_mask]
  refine ⟨Pattern.length_maskAll, fun i => Pattern.star_of_reached,
    fun i => Pattern.kept_of_not_reached, fun h => ?_⟩
  rw [mask, maskChars_eq, Pattern.maskAll_of_no_ends h, String.ofList_toList]

def ofKinds (kinds : List SecretKind) : RuleBook := kinds.foldl enable empty

theorem mem_insert : r ∈ book.insert rule ↔ r ∈ book ∧ r.label ≠ rule.label ∨ r = rule := by
  simp [insert, remove]

theorem mem_ofKinds {kinds : List SecretKind} :
    r ∈ ofKinds kinds ↔ ∃ kind ∈ kinds, r = ⟨kind.label, kind.patterns⟩ := by
  induction kinds using List.reverseRecOn with
  | nil => simp [ofKinds, empty]
  | append_singleton kinds last ih =>
    have hlast : ofKinds (kinds ++ [last]) = (ofKinds kinds).enable last := by
      simp [ofKinds]
    rw [hlast, enable, mem_insert, ih]
    constructor
    · rintro (⟨⟨kind, hkind, rfl⟩, -⟩ | rfl)
      · exact ⟨kind, by simp [hkind], rfl⟩
      · exact ⟨last, by simp, rfl⟩
    · rintro ⟨kind, hkind, rfl⟩
      by_cases hsame : kind = last
      · exact Or.inr (by rw [hsame])
      · have hlabel : kind.label ≠ last.label := by
          revert hsame
          cases kind <;> cases last <;> decide
        exact Or.inl ⟨⟨kind, by simpa [hsame] using hkind, rfl⟩, hlabel⟩

theorem mem_patterns_ofKinds {kinds : List SecretKind} {p : Pattern} :
    p ∈ (ofKinds kinds).patterns ↔ ∃ kind ∈ kinds, p ∈ kind.patterns := by
  simp [patterns, mem_ofKinds]

/-- Whatever the kinds and the order in which they are enabled: no pattern of theirs matches
anywhere in a masked text, so that masking it again changes nothing. -/
theorem masked_text_has_no_match (kinds : List SecretKind) (s : String) :
    (∀ kind ∈ kinds, ∀ p ∈ kind.patterns, ∀ i,
      p.ends ((ofKinds kinds).mask s).toList.toArray i = []) ∧
    (ofKinds kinds).mask ((ofKinds kinds).mask s) = (ofKinds kinds).mask s := by
  have hfinds : ∀ p ∈ (ofKinds kinds).patterns, p.FindsNumbers := by
    intro p hp
    obtain ⟨kind, -, hp⟩ := mem_patterns_ofKinds.mp hp
    exact SecretKind.findsNumbers hp
  have hnone : ∀ p ∈ (ofKinds kinds).patterns, ∀ i,
      p.ends ((ofKinds kinds).mask s).toList.toArray i = [] := by
    intro p hp i
    rw [toList_mask]
    exact Pattern.ends_maskAll hfinds hp i
  refine ⟨fun kind hkind p hp => hnone p (mem_patterns_ofKinds.mpr ⟨kind, hkind, hp⟩), ?_⟩
  rw [mask, maskChars_eq, Pattern.maskAll_of_no_ends fun p hp i _ => hnone p hp i, String.ofList_toList]

theorem remove_of_not_has {label : String} (h : book.has label = false) :
    book.remove label = book := by
  refine List.filter_eq_self.mpr fun r hr => ?_
  have hr' := List.any_eq_false.mp h r hr
  simpa using hr'

theorem patterns_insert_of_not_has (h : book.has rule.label = false) :
    (book.insert rule).patterns = book.patterns ++ rule.patterns := by
  simp [insert, remove_of_not_has h, patterns]

/-- A rule under a new label only hides more. A pattern hides what it finds in what the ones before
it have left; if all these are of known kinds, and what it finds in the text is apart from what
they could find there, it hides all that it would hide alone. -/
theorem hides_what_is_apart (book : RuleBook) (s : String) :
    (∀ rule, book.has rule.label = false → ∀ i : Nat, (book.mask s).toList[i]? = some '*' →
      ((book.insert rule).mask s).toList[i]? = some '*') ∧
    ∀ before p after, book.patterns = before ++ p :: after → ∀ i : Nat,
      ((p.mask (maskAll before s.toList))[i]? = some '*' →
        (book.mask s).toList[i]? = some '*') ∧
      ((∀ q ∈ p :: before, ∃ kind : SecretKind, q ∈ kind.patterns) →
        (∀ q ∈ before, p.Apart q s.toList) →
        (p.mask s.toList)[i]? = some '*' → (book.mask s).toList[i]? = some '*') := by
  constructor
  · intro rule hnew i hi
    rw [toList_mask] at hi ⊢
    rw [patterns_insert_of_not_has hnew, Pattern.maskAll_append]
    exact Pattern.star_maskAll hi
  · intro before p after hpatterns i
    rw [toList_mask, hpatterns]
    refine ⟨Pattern.star_maskAll_of_mask, fun hknown hapart hi => ?_⟩
    refine Pattern.star_maskAll_of_apart (fun q hq => ?_) hapart hi
    obtain ⟨kind, hq⟩ := hknown q hq
    exact SecretKind.findsNumbers hq

/-- Alone, the number at the start would be hidden. With credit cards first, its end goes to the
groups of four, and the rest is no number any more. Enabled again, credit cards come last and lose
what they have hidden before. -/
theorem number_shown_by_another_rule :
    let s := "123-45-6789-1111-2222-3333"
    (usual.mask s = "123-45-*******************" ∧
      (usual.enable .creditCard).mask s = "***********-1111-2222-3333") ∧
    ¬ ∀ (book : RuleBook) (s : String) (p : Pattern), p ∈ book.patterns → ∀ i : Nat,
      (p.mask s.toList)[i]? = some '*' → (book.mask s).toList[i]? = some '*' := by
  have hmask : usual.mask "123-45-6789-1111-2222-3333" = "123-45-*******************" := by
    decide +kernel
  refine ⟨⟨hmask, by decide +kernel⟩, fun h => ?_⟩
  have hstar := h usual "123-45-6789-1111-2222-3333" SecretKind.ssnNumber (by decide) 0
    (by decide +kernel)
  rw [hmask] at hstar
  exact absurd hstar (by decide)

end RuleBook
end LogDelivery
