import LogDelivery.Proofs.Threshold
import LogDelivery.Proofs.Utf8
import LogDelivery.Proofs.Walks

/-!
# What fingerprints are made of

The bytes that stand for an error fall apart in one way only: no text has the byte that closes it, and
the first byte of a word tells whether a text follows. So errors are counted together when their
innermost nodes have the same traits, and otherwise only if the hash takes different bytes to the same
number.
-/
namespace LogDelivery

/-- What a fingerprint is made of: a kind, a code, and the method of the first frame. -/
structure Traits where
  kind : String
  code : Option String
  method : Option String
  deriving DecidableEq

def ErrorNode.traits (n : ErrorNode) : Traits := ⟨n.kind, n.code, n.frames.head?.map (·.method)⟩

namespace ErrorChain

theorem getLast?_reached (e : ErrorChain) : e.reached.getLast? = some e.innermost := by
  rw [reached, List.getLast?_map, e.getLast?_walk]
  rfl

theorem nodes_innermost (e : ErrorChain) :
    e.nodes[min e.nodes.length maxReach - 1]? = some e.innermost := by
  have hpos : 0 < min maxReach e.nodes.length := Nat.lt_min.mpr ⟨by decide, Nat.succ_pos _⟩
  rw [← e.getLast?_reached, reached_eq, List.getLast?_eq_getElem?, List.length_take, Nat.min_comm,
    List.getElem?_take_of_lt (by omega)]

end ErrorChain

namespace Fingerprint

def inputOf (t : Traits) : List UInt8 :=
  textInput t.kind ++ optionalInput t.code ++ optionalInput t.method

theorem input_eq (e : ErrorChain) : input e = inputOf e.innermost.traits := rfl

theorem closing_not_mem (s : String) : (0xFF : UInt8) ∉ s.toUTF8.toList := by
  rw [Text.toUTF8_toList, List.mem_flatMap]
  rintro ⟨c, -, hbyte⟩
  rcases Text.toNat_of_mem_encodeChar hbyte with ⟨-, hlt⟩ | ⟨-, hlt⟩
  · exact absurd hlt (by decide)
  · exact absurd hlt (by decide)

theorem eq_of_toUTF8 {s t : String} (h : s.toUTF8.toList = t.toUTF8.toList) : s = t := by
  have hread := Text.decodeUtf8_toUTF8 s
  rw [h, Text.decodeUtf8_toUTF8] at hread
  exact (Except.ok.inj hread).symm

theorem eq_of_append_cons {α : Type} {x : α} {front front' rest rest' : List α} (h : x ∉ front)
    (h' : x ∉ front') (heq : front ++ x :: rest = front' ++ x :: rest') :
    front = front' ∧ rest = rest' := by
  induction front generalizing front' with
  | nil =>
    cases front' with
    | nil => exact ⟨rfl, (List.cons.inj heq).2⟩
    | cons y front' => exact absurd (List.mem_cons.mpr (.inl (List.cons.inj heq).1)) h'
  | cons y front ih =>
    cases front' with
    | nil => exact absurd (List.mem_cons.mpr (.inl (List.cons.inj heq).1.symm)) h
    | cons y' front' =>
      obtain ⟨rfl, htail⟩ := List.cons.inj heq
      obtain ⟨rfl, hrest⟩ := ih (List.not_mem_of_not_mem_cons h) (List.not_mem_of_not_mem_cons h') htail
      exact ⟨rfl, hrest⟩

variable {a b : List UInt8}

theorem textInput_append {s t : String} (h : textInput s ++ a = textInput t ++ b) :
    s = t ∧ a = b := by
  simp only [textInput, List.append_assoc, List.singleton_append] at h
  obtain ⟨hbytes, hrest⟩ := eq_of_append_cons (closing_not_mem s) (closing_not_mem t) h
  exact ⟨eq_of_toUTF8 hbytes, hrest⟩

theorem optionalInput_append {s t : Option String} (h : optionalInput s ++ a = optionalInput t ++ b) :
    s = t ∧ a = b := by
  -- the words for an absent and for a present text differ in the first byte
  have hfirst : ∀ (s : String) (a b : List UInt8),
      optionalInput none ++ a ≠ optionalInput (some s) ++ b := by
    intro s a b heq
    exact absurd (List.cons.inj heq).1 (by decide)
  cases s with
  | none =>
    cases t with
    | none => exact ⟨rfl, List.append_cancel_left h⟩
    | some t => exact absurd h (hfirst t a b)
  | some s =>
    cases t with
    | none => exact absurd h.symm (hfirst s b a)
    | some t =>
      simp only [optionalInput, List.append_assoc] at h
      obtain ⟨rfl, hrest⟩ := textInput_append (List.append_cancel_left h)
      exact ⟨rfl, hrest⟩

theorem inputOf_injective : Function.Injective inputOf := by
  rintro ⟨kind, code, method⟩ ⟨kind', code', method'⟩ h
  simp only [inputOf, List.append_assoc] at h
  obtain ⟨rfl, htail⟩ := textInput_append h
  obtain ⟨rfl, hlast⟩ := optionalInput_append htail
  have hclosed : optionalInput method ++ [] = optionalInput method' ++ [] := by simpa using hlast
  obtain ⟨rfl, -⟩ := optionalInput_append hclosed
  rfl

theorem input_eq_iff {x y : ErrorChain} :
    input x = input y ↔ x.innermost.traits = y.innermost.traits := by
  rw [input_eq, input_eq, inputOf_injective.eq_iff]

end Fingerprint

namespace Throttle

def countersOf (fingerprint : UInt64) (cs : List Counter) : List Counter :=
  cs.filter fun c => c.fingerprint = fingerprint

theorem countersOf_bump {f g : UInt64} (h : f ≠ g) (minute : Nat) (cs : List Counter) :
    countersOf g (bump f minute cs).1 = countersOf g cs := by
  induction cs with
  | nil => simp [countersOf, bump, h]
  | cons c cs ih =>
    unfold countersOf at ih ⊢
    by_cases hc : c.fingerprint = f
    · simp [bump, hc, h]
    · rw [bump, if_neg hc, List.filter_cons, List.filter_cons, ih]

end Throttle

namespace Fingerprint

/-- Two errors are hashed from the same bytes exactly if the last nodes that walks along them reach have
the same kind, the same code and the same method in the first frame. If they have not, then either the
hash takes different bytes to one number, or to see the one error leaves the counters of the other
alone, old ones that are removed in passing aside. -/
theorem input_unambiguous (x y : ErrorChain) :
    (∀ e : ErrorChain, e.nodes[min e.nodes.length ErrorChain.maxReach - 1]? = some e.innermost) ∧
    (input x = input y ↔ x.innermost.kind = y.innermost.kind ∧ x.innermost.code = y.innermost.code ∧
      x.innermost.frames.head?.map (·.method) = y.innermost.frames.head?.map (·.method)) ∧
    (x.innermost.traits ≠ y.innermost.traits →
      (input x ≠ input y ∧ fnv1a (input x) = fnv1a (input y)) ∨
      ∀ (t : Throttle) (minute : Nat),
        Throttle.countersOf (ofError y) (t.pass x minute).1.counters =
          Throttle.countersOf (ofError y) (t.tidy minute).counters) := by
  refine ⟨ErrorChain.nodes_innermost, ?_, ?_⟩
  · rw [input_eq_iff, ErrorNode.traits, ErrorNode.traits, Traits.mk.injEq]
  · intro hne
    by_cases hhash : fnv1a (input x) = fnv1a (input y)
    · exact Or.inl ⟨mt input_eq_iff.mp hne, hhash⟩
    · exact Or.inr fun t minute => Throttle.countersOf_bump hhash minute _

end Fingerprint
end LogDelivery
