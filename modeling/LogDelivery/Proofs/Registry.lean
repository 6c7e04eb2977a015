import LogDelivery.Redaction.RuleBook
import Mathlib.Data.List.Basic
import Mathlib.Data.List.Induction

/-!
# Changes of the rules

The rules of a running system are changed while others use copies of them. Which rules are in force
is said without a rule book: those that have been put in and to whose labels nothing has been done
since. They stand in the order in which they have been put in, and no change reaches a copy.
-/
namespace LogDelivery

/-- The rules in force, and the copies that have been taken of them. -/
structure Registry where
  book : RuleBook := .empty
  copies : List RuleBook := []

namespace Registry

inductive Step where
  | enable (kind : SecretKind)
  | disable (kind : SecretKind)
  | add (label pattern : String)
  | remove (label : String)
  | copy

inductive Answer where
  | done
  | removed (existed : Bool)
  | refused (fault : Pattern.Fault)
  deriving DecidableEq, Repr

def next (r : Registry) : Step → Registry
  | .enable kind => { r with book := r.book.enable kind }
  | .disable kind => { r with book := r.book.remove kind.label }
  | .add label pattern =>
    match r.book.add label pattern with
    | .ok book => { r with book }
    | .error _ => r
  | .remove label => { r with book := r.book.remove label }
  | .copy => { r with copies := r.copies ++ [r.book] }

def answer (r : Registry) : Step → Answer
  | .enable _ | .copy => .done
  | .disable kind => .removed (r.book.has kind.label)
  | .add label pattern =>
    match r.book.add label pattern with
    | .ok _ => .done
    | .error fault => .refused fault
  | .remove label => .removed (r.book.has label)

def run (steps : List Step) : Registry := steps.foldl next {}

def Step.rule? : Step → Option Rule
  | .enable kind => some ⟨kind.label, kind.patterns⟩
  | .add label pattern => (Pattern.compile pattern).toOption.map fun p => ⟨label, [p]⟩
  | _ => none

def Step.label? : Step → Option String
  | .disable kind => some kind.label
  | .remove label => some label
  | step => step.rule?.map (·.label)

/-- The rule has been put in by the step at this place, and nothing has been done to its label since. -/
structure InForce (steps : List Step) (place : Nat) (rule : Rule) : Prop where
  putIn : steps[place]?.bind Step.rule? = some rule
  kept : ∀ step ∈ steps.drop (place + 1), step.label? ≠ some rule.label

variable {r : Registry} {steps : List Step} {step : Step} {place other : Nat} {rule rule' : Rule}

theorem Step.label?_of_rule? (h : step.rule? = some rule) : step.label? = some rule.label := by
  cases step with
  | enable kind => exact congrArg (Option.map (·.label)) h
  | add label pattern => exact congrArg (Option.map (·.label)) h
  | _ => cases h

theorem Step.of_rule? (h : step.rule? = some rule) :
    (∃ kind, step = .enable kind ∧ rule = ⟨kind.label, kind.patterns⟩) ∨
      ∃ pattern p, step = .add rule.label pattern ∧ Pattern.compile pattern = .ok p ∧
        rule.patterns = [p] := by
  cases step with
  | enable kind => exact Or.inl ⟨kind, rfl, (Option.some.inj h).symm⟩
  | add label pattern =>
    obtain ⟨p, hp, rfl⟩ := Option.map_eq_some_iff.mp h
    refine Or.inr ⟨pattern, p, rfl, ?_, rfl⟩
    cases hc : Pattern.compile pattern <;> simp_all [Except.toOption]
  | _ => cases h

theorem InForce.lt (h : InForce steps place rule) : place < steps.length := by
  by_contra hge
  have hputIn := h.putIn
  rw [List.getElem?_eq_none (Nat.le_of_not_lt hge)] at hputIn
  cases hputIn

theorem inForce_append :
    InForce (steps ++ [step]) place rule ↔
      (InForce steps place rule ∧ step.label? ≠ some rule.label) ∨
        (place = steps.length ∧ step.rule? = some rule) := by
  constructor
  · intro h
    have hlt := h.lt
    rw [List.length_append, List.length_singleton] at hlt
    rcases Nat.lt_or_eq_of_le (Nat.le_of_lt_succ hlt) with hlt | rfl
    · have hputIn := h.putIn
      have hkept := h.kept
      rw [List.getElem?_append_left hlt] at hputIn
      rw [List.drop_append_of_le_length hlt] at hkept
      exact Or.inl ⟨⟨hputIn, fun s hs => hkept s (List.mem_append_left _ hs)⟩,
        hkept step (by simp)⟩
    · exact Or.inr ⟨rfl, by simpa using h.putIn⟩
  · rintro (⟨h, hstep⟩ | ⟨rfl, hrule⟩)
    · refine ⟨by rw [List.getElem?_append_left h.lt, h.putIn], ?_⟩
      rw [List.drop_append_of_le_length h.lt]
      intro s hs
      rcases List.mem_append.mp hs with hs | hs
      · exact h.kept s hs
      · rwa [List.mem_singleton.mp hs]
    · exact ⟨by simpa using hrule, by simp⟩

theorem InForce.label_ne (h : InForce steps place rule) (h' : InForce steps other rule')
    (hlt : place < other) : rule.label ≠ rule'.label := by
  intro heq
  obtain ⟨step, hstep, hrule⟩ := Option.bind_eq_some_iff.mp h'.putIn
  have hmem : step ∈ steps.drop (place + 1) :=
    List.mem_of_getElem? (i := other - (place + 1)) (by
      rw [List.getElem?_drop, Nat.add_sub_cancel' hlt, hstep])
  exact h.kept step hmem (heq ▸ Step.label?_of_rule? hrule)

theorem next_add_ok {label pattern : String} {p : Pattern} (h : Pattern.compile pattern = .ok p) :
    r.next (.add label pattern) = { r with book := r.book.insert ⟨label, [p]⟩ } := by
  simp [next, RuleBook.add, h, Except.map]

theorem next_add_error {label pattern : String} {fault : Pattern.Fault}
    (h : Pattern.compile pattern = .error fault) : r.next (.add label pattern) = r := by
  simp [next, RuleBook.add, h, Except.map]

theorem answer_add_eq_refused_iff {label pattern : String} {fault : Pattern.Fault} :
    r.answer (.add label pattern) = .refused fault ↔ Pattern.compile pattern = .error fault := by
  cases h : Pattern.compile pattern <;> simp [answer, RuleBook.add, h, Except.map]

theorem book_next :
    (r.next step).book =
      r.book.filter (fun rule => step.label? ≠ some rule.label) ++ step.rule?.toList := by
  have hfilter : ∀ label : String,
      r.book.remove label = r.book.filter fun rule => some label ≠ some rule.label := by
    intro label
    refine List.filter_congr fun rule _ => ?_
    simp [eq_comm]
  cases step with
  | enable kind => simp [next, RuleBook.enable, RuleBook.insert, hfilter, Step.label?, Step.rule?]
  | disable kind => simp [next, hfilter, Step.label?, Step.rule?]
  | add label pattern =>
    cases h : Pattern.compile pattern with
    | ok p =>
      simp [next_add_ok h, RuleBook.insert, hfilter, Step.label?, Step.rule?, h, Except.toOption]
    | error fault => simp [next_add_error h, Step.label?, Step.rule?, h, Except.toOption]
  | remove label => simp [next, hfilter, Step.label?, Step.rule?]
  | copy => simp [next, Step.label?, Step.rule?]

theorem run_append (steps more : List Step) : run (steps ++ more) = more.foldl next (run steps) :=
  List.foldl_append

/-- The rules of a registry with the places at which they have been put in. -/
theorem book_run (steps : List Step) :
    ∃ entries : List (Nat × Rule), entries.map (·.2) = (run steps).book ∧
      entries.Pairwise (fun a b => a.1 < b.1) ∧
      ∀ place rule, (place, rule) ∈ entries ↔ InForce steps place rule := by
  induction steps using List.reverseRecOn with
  | nil =>
    refine ⟨[], rfl, .nil, fun place rule => ?_⟩
    simp only [List.not_mem_nil, false_iff]
    exact fun h => absurd h.lt (Nat.not_lt_zero place)
  | append_singleton steps step ih =>
    obtain ⟨entries, hbook, hascending, hentries⟩ := ih
    refine ⟨entries.filter (fun e => step.label? ≠ some e.2.label) ++
      step.rule?.toList.map (steps.length, ·), ?_, ?_, ?_⟩
    · have hrun : run (steps ++ [step]) = (run steps).next step := run_append steps [step]
      rw [hrun, book_next, ← hbook, List.map_append, List.filter_map, List.map_map]
      simp [Function.comp_def]
    · refine List.pairwise_append.mpr ⟨hascending.filter _, ?_, ?_⟩
      · cases step.rule? <;> simp
      · rintro ⟨place, rule⟩ he e' he'
        obtain ⟨rule', -, rfl⟩ := List.mem_map.mp he'
        exact ((hentries place rule).mp (List.mem_filter.mp he |>.1)).lt
    · intro place rule
      rw [inForce_append, ← hentries, List.mem_append, List.mem_filter]
      simp [@eq_comm _ place, and_comm (a := step.rule? = some rule)]

theorem has_eq_true_iff {book : RuleBook} {label : String} :
    book.has label = true ↔ label ∈ book.labels := by
  simp [RuleBook.has, RuleBook.labels]

theorem copies_next (r : Registry) (step : Step) :
    ∃ more, (r.next step).copies = r.copies ++ more := by
  cases step with
  | add label pattern =>
    simp only [next]
    split <;> exact ⟨[], by simp⟩
  | copy => exact ⟨[r.book], rfl⟩
  | _ => exact ⟨[], by simp [next]⟩

theorem copies_foldl (r : Registry) (steps : List Step) :
    ∃ more, (steps.foldl next r).copies = r.copies ++ more := by
  induction steps generalizing r with
  | nil => exact ⟨[], by simp⟩
  | cons step steps ih =>
    obtain ⟨first, hfirst⟩ := r.copies_next step
    obtain ⟨more, hmore⟩ := ih (r.next step)
    exact ⟨first ++ more, by rw [List.foldl_cons, hmore, hfirst, List.append_assoc]⟩

/-- Whatever has been asked of a registry, its rules are those in force, in the order in which they
have been put in, each label once; a rule is a whole kind or a pattern that can be used. Who removes a
rule is told whether there was one, who adds a pattern that cannot be used changes nothing, and a
copy masks what the rules masked when it was taken, whatever is asked later. -/
theorem rules_follow_history (steps : List Step) :
    let r := run steps
    r.book.labels.Nodup ∧
    (∃ entries : List (Nat × Rule), entries.map (·.2) = r.book ∧
      entries.Pairwise (fun a b => a.1 < b.1) ∧
      ∀ place rule, (place, rule) ∈ entries ↔ InForce steps place rule) ∧
    (∀ rule ∈ r.book,
      (∃ kind, .enable kind ∈ steps ∧ rule = ⟨kind.label, kind.patterns⟩) ∨
      ∃ pattern p, .add rule.label pattern ∈ steps ∧ Pattern.compile pattern = .ok p ∧
        rule.patterns = [p]) ∧
    (∀ kind, r.answer (.disable kind) = .removed (kind.label ∈ r.book.labels)) ∧
    (∀ label, r.answer (.remove label) = .removed (label ∈ r.book.labels)) ∧
    (∀ label pattern fault,
      (r.answer (.add label pattern) = .refused fault ↔ Pattern.compile pattern = .error fault) ∧
      (Pattern.compile pattern = .error fault → r.next (.add label pattern) = r)) ∧
    ∀ later s, ((run (steps ++ .copy :: later)).copies[r.copies.length]?).map (·.mask s) =
      some (r.book.mask s) := by
  intro r
  have hhas : ∀ label, r.book.has label = decide (label ∈ r.book.labels) := fun label =>
    Bool.eq_iff_iff.mpr (by rw [has_eq_true_iff, decide_eq_true_iff])
  obtain ⟨entries, hbook, hascending, hentries⟩ := book_run steps
  refine ⟨?_, ⟨entries, hbook, hascending, hentries⟩, ?_, fun kind => congrArg _ (hhas _),
    fun label => congrArg _ (hhas label),
    fun label pattern fault => ⟨answer_add_eq_refused_iff, next_add_error⟩, ?_⟩
  · rw [show r.book = entries.map (·.2) from hbook.symm, RuleBook.labels, List.map_map]
    refine List.pairwise_map.mpr (hascending.imp_of_mem fun {a b} ha hb hlt => ?_)
    exact ((hentries a.1 a.2).mp ha).label_ne ((hentries b.1 b.2).mp hb) hlt
  · intro rule hrule
    obtain ⟨⟨place, rule⟩, he, rfl⟩ := List.mem_map.mp (hbook ▸ hrule)
    obtain ⟨step, hstep, hputIn⟩ := Option.bind_eq_some_iff.mp ((hentries place rule).mp he).putIn
    have hmem := List.mem_of_getElem? hstep
    rcases Step.of_rule? hputIn with ⟨kind, rfl, hrule⟩ | ⟨pattern, p, rfl, hp, hpatterns⟩
    · exact Or.inl ⟨kind, hmem, hrule⟩
    · exact Or.inr ⟨pattern, p, hmem, hp, hpatterns⟩
  · intro later s
    obtain ⟨more, hmore⟩ := copies_foldl (r.next .copy) later
    have hrun : run (steps ++ .copy :: later) = later.foldl next (r.next .copy) :=
      run_append steps (.copy :: later)
    rw [hrun, hmore]
    simp [next]

example :
    (run [.enable .ssn, .enable .ip, .add "ssn" "[0-9]", .add "ip" "(unclosed", .copy,
      .remove "ip"]).book.labels = ["ssn"] := by
  decide +kernel

end Registry
end LogDelivery
