import LogDelivery.Event
import Mathlib.Data.ENat.Lattice
import Mathlib.Logic.Function.Iterate

/-!
# Walks along errors

The chain of an error is built from the error that the application has, walked along to its root, and
visited node by node to change it. These are loops of different kinds, and each counts in its own way. All
of them stop at the same node, or at the end of a chain that is shorter.
-/
namespace LogDelivery

namespace ErrorSource

variable {ε : Type} (E : ErrorSource ε) (e : ε)

def behind (i : Nat) : Option ε := (Option.bind · E.cause)^[i] (some e)

/-- The number of errors from one to its last cause, infinite if no cause is the last. -/
noncomputable def length : ℕ∞ := ⨅ (i : Nat) (_ : E.behind e i = none), (i : ℕ∞)

theorem natCast_le_length (n : Nat) :
    (n : ℕ∞) ≤ E.length e ↔ ∀ i, E.behind e i = none → n ≤ i := by
  simp [length, le_iInf_iff]

theorem length_eq_top_iff : E.length e = ⊤ ↔ ∀ i, E.behind e i ≠ none := by
  simp [length, iInf_eq_top]

end ErrorSource

namespace ErrorChain

variable {α ε σ : Type}

theorem eq_of_nodes {x y : ErrorChain} (h : x.nodes = y.nodes) : x = y := by
  obtain ⟨houter, hcauses⟩ := List.cons.inj h
  rw [ErrorChain.mk.injEq]
  exact ⟨houter, hcauses⟩

section Following

variable (next : α → Option α)

theorem following_none (room : Nat) : following next room none = [] := by
  cases room <;> rfl

theorem getElem?_following (room : Nat) (o : Option α) (i : Nat) :
    (following next room o)[i]? = if i < room then (Option.bind · next)^[i] o else none := by
  induction room generalizing o i with
  | zero => rfl
  | succ room ih =>
    cases o with
    | none =>
      have hnone : (Option.bind · next)^[i] none = none := Function.iterate_fixed rfl i
      rw [following_none, hnone, ite_self]
      rfl
    | some a =>
      cases i with
      | zero => rfl
      | succ i =>
        rw [following, List.getElem?_cons_succ, ih, Function.iterate_succ_apply]
        simp only [Nat.add_lt_add_iff_right, Option.bind_some]

theorem take_following {less room : Nat} (h : less ≤ room) (o : Option α) :
    (following next room o).take less = following next less o := by
  refine List.ext_getElem? fun i => ?_
  rw [getElem?_following, List.getElem?_take, getElem?_following]
  by_cases hi : i < less
  · rw [if_pos hi, if_pos (hi.trans_le h), if_pos hi]
  · rw [if_neg hi, if_neg hi]

end Following

theorem outer_following (room : Nat) (e : ErrorChain) :
    (following cause room (some e)).map (·.outer) = e.nodes.take room := by
  induction room generalizing e with
  | zero => rfl
  | succ room ih =>
    obtain ⟨outer, causes⟩ := e
    cases causes with
    | nil => simp [following, cause, following_none, nodes]
    | cons below rest => exact congrArg (outer :: ·) (ih ⟨below, rest⟩)

theorem reached_eq (e : ErrorChain) : e.reached = e.nodes.take maxReach := outer_following maxReach e

theorem length_walk (e : ErrorChain) : e.walk.length = min maxReach e.nodes.length := by
  rw [← List.length_map (·.outer), walk, outer_following, List.length_take]

theorem getLast?_walk (e : ErrorChain) : e.walk.getLast? = some e.root := by
  have hne : e.walk ≠ [] := List.cons_ne_nil _ _
  rw [root, List.getLast?_eq_some_getLast hne, Option.getD_some]

section Visits

variable (visit : σ → ErrorChain → σ × ErrorChain)

def visitEach (s : σ) : List ErrorChain → σ × List ErrorNode
  | [] => (s, [])
  | e :: rest =>
    let (s, e) := visit s e
    let (s, left) := visitEach s rest
    (s, e.outer :: left)

/-- A visit that writes to the outer node of an error at most. -/
def KeepsCauses : Prop := ∀ s e, (visit s e).2.causes = e.causes

variable {visit} {depth room : Nat}

theorem visitFrom_of_ge (h : maxReach ≤ depth) (s : σ) (e : ErrorChain) :
    visitFrom visit depth s e = (s, e) := by
  rw [visitFrom, if_pos h]

theorem visitFrom_of_lt (h : depth < maxReach) (s : σ) (e : ErrorChain) :
    visitFrom visit depth s e =
      match (visit s e).2.cause with
      | none => visit s e
      | some below =>
        let later := visitFrom visit (depth + 1) (visit s e).1 below
        (later.1, (visit s e).2.causedBy later.2) := by
  rw [visitFrom]
  exact if_neg (Nat.not_le.mpr h)

theorem nodes_of_cause_none {e : ErrorChain} (h : e.cause = none) : e.nodes = [e.outer] := by
  obtain ⟨outer, causes⟩ := e
  cases causes with
  | nil => rfl
  | cons below rest => cases h

theorem cause_congr {x y : ErrorChain} (h : x.causes = y.causes) : x.cause = y.cause := by
  rw [cause, cause, h]

/-- The rest of a chain is visited as it was at the beginning, as every visit keeps it. -/
theorem visitFrom_eq (hkeep : KeepsCauses visit) (hroom : depth + room = maxReach) (s : σ)
    (e : ErrorChain) :
    let walked := visitEach visit s (following cause room (some e))
    (visitFrom visit depth s e).1 = walked.1 ∧
      (visitFrom visit depth s e).2.nodes = walked.2 ++ e.nodes.drop room := by
  induction room generalizing depth s e with
  | zero =>
    rw [visitFrom_of_ge (by omega)]
    exact ⟨rfl, rfl⟩
  | succ room ih =>
    rw [visitFrom_of_lt (by omega), cause_congr (hkeep s e)]
    obtain ⟨outer, causes⟩ := e
    cases causes with
    | nil =>
      have hc : (visit s ⟨outer, []⟩).2.causes = [] := hkeep s ⟨outer, []⟩
      simp [cause, following, following_none, visitEach, nodes, hc]
    | cons below rest =>
      have hnext : depth + 1 + room = maxReach := by omega
      obtain ⟨hstate, hnodes⟩ := ih hnext (visit s ⟨outer, below :: rest⟩).1 ⟨below, rest⟩
      exact ⟨hstate, congrArg (_ :: ·) hnodes⟩

theorem length_visitEach (s : σ) (walked : List ErrorChain) :
    (visitEach visit s walked).2.length = walked.length := by
  induction walked generalizing s with
  | nil => rfl
  | cons e rest ih => exact congrArg (· + 1) (ih (visit s e).1)

def recording (visit : σ → ErrorChain → σ × ErrorChain) (s : σ × List ErrorNode) (e : ErrorChain) :
    (σ × List ErrorNode) × ErrorChain :=
  (((visit s.1 e).1, s.2 ++ [(visit s.1 e).2.outer]), (visit s.1 e).2)

/-- Whatever a visit writes, later ones go on from there and come back to no node. -/
theorem visitFrom_recording (hroom : depth + room = maxReach) (s : σ) (seen : List ErrorNode)
    (e : ErrorChain) :
    let left := visitFrom visit depth s e
    visitFrom (recording visit) depth (s, seen) e =
      ((left.1, seen ++ left.2.nodes.take room), left.2) := by
  induction room generalizing depth s seen e with
  | zero =>
    have hge : maxReach ≤ depth := by omega
    rw [visitFrom_of_ge hge, visitFrom_of_ge hge]
    simp
  | succ room ih =>
    have hlt : depth < maxReach := by omega
    rw [visitFrom_of_lt hlt, visitFrom_of_lt hlt]
    simp only [recording]
    cases hc : (visit s e).2.cause with
    | none => simp [nodes_of_cause_none hc]
    | some below =>
      have hnext : depth + 1 + room = maxReach := by omega
      simp only [ih hnext]
      simp [causedBy, nodes]

theorem keepsCauses_mapOuter (f : ErrorNode → ErrorNode) :
    KeepsCauses fun (_ : Unit) e => ((), e.mapOuter f) :=
  fun _ _ => rfl

theorem visitEach_mapOuter (f : ErrorNode → ErrorNode) (walked : List ErrorChain) :
    (visitEach (fun _ e => ((), e.mapOuter f)) () walked).2 = (walked.map (·.outer)).map f := by
  induction walked with
  | nil => rfl
  | cons e rest ih => exact congrArg (f e.outer :: ·) ih

theorem nodes_mapReached (f : ErrorNode → ErrorNode) (e : ErrorChain) :
    (e.mapReached f).nodes = (e.nodes.take maxReach).map f ++ e.nodes.drop maxReach := by
  rw [mapReached, visitReached,
    (visitFrom_eq (keepsCauses_mapOuter f) (Nat.zero_add maxReach) () e).2, visitEach_mapOuter,
    outer_following]

end Visits

section Building

variable (E : ErrorSource ε)

theorem gather_eq (texts : List String) (o : Option ε) :
    gather E texts o = texts ++ (following E.cause (maxReach - texts.length) o).map E.text := by
  induction texts, o using gather.induct E with
  | case1 texts => rw [gather, following_none, List.map_nil, List.append_nil]
  | case2 texts e h =>
    rw [gather, if_pos h, Nat.sub_eq_zero_of_le h]
    exact (List.append_nil texts).symm
  | case3 texts e h ih =>
    have hroom : maxReach - texts.length = maxReach - (texts ++ [E.text e]).length + 1 := by
      rw [List.length_append, List.length_singleton]
      omega
    rw [gather, if_neg h, ih, hroom, following, List.map_cons, List.append_assoc]
    rfl

theorem ofTexts?_cons (text : String) (texts : List String) :
    ofTexts? (text :: texts) = some ⟨plainNode text, texts.map plainNode⟩ := by
  rw [ofTexts?, List.foldl_reverse]
  induction texts generalizing text with
  | nil => rfl
  | cons next rest ih =>
    rw [List.foldr_cons, ih]
    rfl

theorem nodes_ofSource (e : ε) :
    (ofSource E e).nodes =
      (following E.cause maxReach (some e)).map fun c => plainNode (E.text c) := by
  rw [ofSource, gather_eq, List.singleton_append, ofTexts?_cons, Option.getD_some, nodes,
    List.map_map]
  rfl

theorem getElem?_ofSource (e : ε) (i : Nat) :
    (ofSource E e).nodes[i]? =
      if i < maxReach then (E.behind e i).map fun c => plainNode (E.text c) else none := by
  rw [nodes_ofSource, List.getElem?_map, getElem?_following]
  split <;> rfl

theorem length_ofSource_le_iff (e : ε) (i : Nat) :
    (ofSource E e).nodes.length ≤ i ↔ maxReach ≤ i ∨ E.behind e i = none := by
  rw [← List.getElem?_eq_none_iff, getElem?_ofSource]
  by_cases h : i < maxReach
  · rw [if_pos h, Option.map_eq_none_iff, or_iff_right (Nat.not_le.mpr h)]
  · rw [if_neg h]
    exact iff_of_true rfl (Or.inl (Nat.not_lt.mp h))

theorem length_ofSource (e : ε) :
    ((ofSource E e).nodes.length : ℕ∞) = min (E.length e) maxReach := by
  refine ENat.eq_of_forall_natCast_le_iff fun n => ?_
  rw [le_min_iff, E.natCast_le_length, Nat.cast_le, Nat.cast_le]
  constructor
  · intro h
    refine ⟨fun i hnone => ?_, ?_⟩
    · exact h.trans ((length_ofSource_le_iff E e i).mpr (Or.inr hnone))
    · exact h.trans ((length_ofSource_le_iff E e maxReach).mpr (Or.inl le_rfl))
  · rintro ⟨hlength, hreach⟩
    -- the first place without a node: a walk stops there, or the causes are at their end
    rcases (length_ofSource_le_iff E e _).mp le_rfl with hstop | hnone
    · exact hreach.trans hstop
    · exact hlength _ hnone

theorem text_following_ofMessages (room : Nat) (message : String) (causes : List String) :
    (following ErrorSource.ofMessages.cause room (some (message, causes))).map (·.1) =
      (message :: causes).take room := by
  induction room generalizing message causes with
  | zero => rfl
  | succ room ih =>
    cases causes with
    | nil => simp [following, ErrorSource.ofMessages, following_none]
    | cons next rest => exact congrArg (message :: ·) (ih next rest)

theorem ofMessages_eq (message : String) (causes : List String) :
    ofMessages message causes =
      ⟨plainNode message, (causes.take (maxReach - 1)).map plainNode⟩ := by
  have hnodes : (ofMessages message causes).nodes =
      ((message :: causes).take maxReach).map plainNode := by
    rw [ofMessages, nodes_ofSource, ← text_following_ofMessages, List.map_map]
    rfl
  exact eq_of_nodes hnodes

end Building

theorem root_causedBy (e : ErrorChain) {below : ErrorChain} (h : below.nodes.length < maxReach) :
    (e.causedBy below).root = below.root := by
  have hlength : below.walk.length ≤ maxReach - 1 := by
    rw [length_walk]
    omega
  have hshort : following cause (maxReach - 1) (some below) = below.walk := by
    rw [← take_following cause (Nat.sub_le maxReach 1)]
    exact List.take_of_length_le hlength
  have hwalk : (e.causedBy below).walk = e.causedBy below :: below.walk :=
    congrArg (_ :: ·) hshort
  have hlast := (e.causedBy below).getLast?_walk
  rw [hwalk, List.getLast?_cons, below.getLast?_walk, Option.getD_some] at hlast
  exact (Option.some.inj hlast).symm

variable (E : ErrorSource ε) (x : ε) (e below : ErrorChain)
  (visit : σ → ErrorChain → σ × ErrorChain) (s : σ)

/-- An error that the application has becomes a chain with a node for each error down to its last cause,
the outer one first, up to `maxReach` of them, also if there is no last cause. A walk along a chain reaches
as many of its nodes, and the root is the last of them; it stays the root with another error in front, if
the chain is shorter than a walk may be. Visits are made to the errors that a walk reaches, one to each and
in the same order, and nothing changes but what they write to the outer nodes of these errors. If a visit
writes to causes as well, those that it leaves are visited next: the nodes as visits leave them are those
that a walk reaches afterwards. -/
theorem walks_agree :
    ((ofSource E x).nodes.length : ℕ∞) = min (E.length x) maxReach ∧
    (∀ i < maxReach, (ofSource E x).nodes[i]? = (E.behind x i).map fun c => plainNode (E.text c)) ∧
    e.walk.map (·.outer) = e.nodes.take maxReach ∧
    e.walk.getLast? = some e.root ∧
    (below.nodes.length < maxReach → (e.causedBy below).root = below.root) ∧
    (e.visitReached (recording visit) (s, [])).1.2 = (e.visitReached visit s).2.reached ∧
    (KeepsCauses visit →
      (e.visitReached visit s).1 = (visitEach visit s e.walk).1 ∧
      (e.visitReached visit s).2.nodes = (visitEach visit s e.walk).2 ++ e.nodes.drop maxReach ∧
      (e.visitReached visit s).2.nodes.length = e.nodes.length) := by
  refine ⟨length_ofSource E x, ?_, outer_following maxReach e, e.getLast?_walk, e.root_causedBy, ?_, ?_⟩
  · intro i hi
    rw [getElem?_ofSource, if_pos hi]
  · rw [visitReached, visitFrom_recording (Nat.zero_add maxReach), reached_eq]
    rfl
  · intro hkeep
    obtain ⟨hstate, hnodes⟩ := visitFrom_eq hkeep (Nat.zero_add maxReach) s e
    refine ⟨hstate, hnodes, ?_⟩
    rw [visitReached, hnodes, List.length_append, length_visitEach, List.length_drop]
    have hlength := e.length_walk
    rw [walk] at hlength
    omega

def endless : ErrorSource Unit := ⟨fun _ => "again", some⟩

def dozen : ErrorChain := ⟨plainNode "outer", List.replicate 11 (plainNode "inner")⟩

def tally (n : Nat) (e : ErrorChain) : Nat × ErrorChain :=
  (n + 1, e.mapOuter fun m => { m with message := m.message ++ "!" })

theorem walks_agree_on_dozen :
    let single : ErrorChain := ⟨plainNode "single", []⟩
    endless.length () = ⊤ ∧ (ofSource endless ()).nodes.length = 10 ∧
    single.nodes.length < maxReach ∧ (dozen.causedBy single).root = single ∧
    KeepsCauses tally ∧ (dozen.visitReached tally 0).1 = 10 ∧
    (dozen.visitReached tally 0).2.nodes.map (·.message) =
      "outer!" :: (List.replicate 9 "inner!" ++ ["inner", "inner"]) := by
  intro single
  have hendless : endless.length () = ⊤ := by
    refine (endless.length_eq_top_iff ()).mpr fun i hnone => ?_
    have hsame : endless.behind () i = some () := Function.iterate_fixed rfl i
    exact absurd (hsame.symm.trans hnone) (Option.some_ne_none ())
  have hshort : single.nodes.length < maxReach := by decide
  have hkeep : KeepsCauses tally := fun _ _ => rfl
  obtain ⟨hlength, -, -, -, hroot, -, hvisits⟩ := walks_agree endless () dozen single tally 0
  obtain ⟨hcount, hnodes, -⟩ := hvisits hkeep
  rw [hendless, min_top_left, Nat.cast_inj] at hlength
  refine ⟨hendless, hlength, hshort, hroot hshort, hkeep, ?_, ?_⟩
  · rw [hcount]
    rfl
  · rw [hnodes]
    decide

end ErrorChain
end LogDelivery
