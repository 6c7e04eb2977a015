import LogDelivery.Event.Document
import LogDelivery.Proofs.Walks
import LogDelivery.Redaction.Redactor
import Mathlib.Data.List.Forall2

/-!
# Redaction of errors

A document says all nodes of an error, but redaction changes only those that a walk reaches. So
nothing is written unmasked exactly when there is nothing to mask further down.
-/
namespace LogDelivery

namespace Document

def field? (name : String) : Document → Option Document
  | .record fields => fields.lookup name
  | _ => none

/-- The document of an error so many causes down. -/
def inward : (depth : Nat) → Document → Option Document
  | 0, d => some d
  | depth + 1, d => (d.field? "inner").bind (inward depth)

theorem lookup_cons (key name : String) (d : Document) (fields : List (String × Document)) :
    ((name, d) :: fields).lookup key = if key = name then some d else fields.lookup key := by
  by_cases h : key = name
  · simp [h]
  · simp [List.lookup_cons, beq_false_of_ne h, h]

theorem lookup_optional (key name : String) (d : Option Document) :
    (optional name d).lookup key = if key = name then d else none := by
  cases d with
  | none => simp [optional]
  | some d => simp [optional, lookup_cons]

end Document

namespace ErrorNode

/-- The message and the data of a node as they are written; empty data is not. -/
def written (n : ErrorNode) : Option Document × Option Document :=
  (some (.text n.message), if n.data.isEmpty then none else some n.data.document)

def masked (book : RuleBook) (n : ErrorNode) : ErrorNode :=
  { n with message := book.mask n.message, data := n.data.mapValues book.mask }

end ErrorNode

def Document.written (d : Document) (depth : Nat) : Option (Option Document × Option Document) :=
  (d.inward depth).map fun n => (n.field? "message", n.field? "data")

/-- The document of an event has, of all that is subject to masking, what masking makes of it. -/
structure Event.MaskedIn (book : RuleBook) (e : Event) (d : Document) : Prop where
  message : d.field? "message" = e.message.map fun text => .text (book.mask text)
  tags : d.field? "tags" =
    if e.tags.isEmpty then none else some (e.tags.mapValues book.mask).document
  error : ∀ depth, (d.field? "error").bind (·.written depth) =
    e.error.bind fun chain => (chain.nodes[depth]?).map fun n => (n.masked book).written

theorem Tags.lookup_field (t : Tags) (key name : String) :
    (t.field name).lookup key =
      if key = name then (if t.isEmpty then none else some t.document) else none := by
  by_cases ht : t.isEmpty <;> simp [Tags.field, Document.lookup_cons, ht]

namespace ErrorNode

theorem lookup_frames (n : ErrorNode) {key : String} (hf : key ≠ "frames") :
    (if n.frames.isEmpty then [] else
      [("frames", Document.list (n.frames.map Frame.document))]).lookup key = none := by
  by_cases h : n.frames.isEmpty <;> simp [h, hf, Document.lookup_cons]

theorem lookup_fields (n : ErrorNode) {key : String} (hm : key ≠ "message")
    (ht : key ≠ "error_type") (hc : key ≠ "error_type_code") (hf : key ≠ "frames") :
    n.fields.lookup key = (n.data.field "data").lookup key := by
  rw [fields, List.lookup_append, List.lookup_append, List.lookup_append, n.lookup_frames hf,
    Document.lookup_optional]
  simp [Document.lookup_cons, hm, ht, hc]

theorem field_message (n : ErrorNode) (rest : List ErrorNode) :
    (n.nested rest).field? "message" = some (.text n.message) := by
  cases rest <;> rfl

theorem field_data (n : ErrorNode) (rest : List ErrorNode) :
    (n.nested rest).field? "data" = if n.data.isEmpty then none else some n.data.document := by
  have hfields : n.fields.lookup "data" =
      if n.data.isEmpty then none else some n.data.document := by
    rw [n.lookup_fields (by simp) (by simp) (by simp) (by simp), Tags.lookup_field, if_pos rfl]
  cases rest with
  | nil => exact hfields
  | cons cause rest =>
    simp [nested, Document.field?, List.lookup_append, hfields, Document.lookup_cons]

theorem field_inner (n : ErrorNode) (rest : List ErrorNode) :
    (n.nested rest).field? "inner" = rest.head?.map fun cause => cause.nested rest.tail := by
  have hfields : n.fields.lookup "inner" = none := by
    rw [n.lookup_fields (by simp) (by simp) (by simp) (by simp), Tags.lookup_field,
      if_neg (by simp)]
  cases rest with
  | nil => exact hfields
  | cons cause rest => simp [nested, Document.field?, List.lookup_append, hfields]

theorem inward_nested (n : ErrorNode) (rest : List ErrorNode) (depth : Nat) :
    (n.nested rest).inward depth =
      ((n :: rest)[depth]?).map fun m => m.nested ((n :: rest).drop (depth + 1)) := by
  induction depth generalizing n rest with
  | zero => rfl
  | succ depth ih =>
    rw [Document.inward, field_inner]
    cases rest with
    | nil => rfl
    | cons cause rest => exact ih cause rest

end ErrorNode

theorem ErrorChain.written_document (e : ErrorChain) (depth : Nat) :
    e.document.written depth = (e.nodes[depth]?).map ErrorNode.written := by
  have hinward : e.document.inward depth =
      (e.nodes[depth]?).map fun m => m.nested (e.nodes.drop (depth + 1)) :=
    e.outer.inward_nested e.causes depth
  rw [Document.written, hinward, Option.map_map]
  congr 1
  funext n
  simp [ErrorNode.written, ErrorNode.field_message, ErrorNode.field_data]

namespace Event

theorem field_message (e : Event) : e.document.field? "message" = e.message.map .text := by
  simp [document, Document.field?, List.lookup_append, Document.lookup_cons,
    Document.lookup_optional, Tags.lookup_field]

theorem field_error (e : Event) :
    e.document.field? "error" = e.error.map ErrorChain.document := by
  simp [document, Document.field?, List.lookup_append, Document.lookup_cons,
    Document.lookup_optional, Tags.lookup_field]

theorem field_tags (e : Event) :
    e.document.field? "tags" = if e.tags.isEmpty then none else some e.tags.document := by
  simp [document, Document.field?, List.lookup_append, Document.lookup_cons,
    Document.lookup_optional, Tags.lookup_field]

end Event

theorem Tags.mapValues_isEmpty (f : String → String) (t : Tags) :
    (t.mapValues f).isEmpty = t.isEmpty := by
  simp [Tags.isEmpty, Tags.mapValues]

theorem Tags.mapValues_of_isEmpty (f : String → String) {t : Tags} (h : t.isEmpty) :
    t.mapValues f = t := by
  obtain ⟨entries, hs⟩ := t
  have he : entries = [] := by simpa [Tags.isEmpty] using h
  subst he
  rfl

theorem Tags.eq_of_document {t u : Tags} (h : t.document = u.document) : t = u := by
  obtain ⟨entries, hs⟩ := t
  obtain ⟨others, ho⟩ := u
  have hmap : entries.map (fun e => (e.1, Document.text e.2)) =
      others.map fun e => (e.1, Document.text e.2) := Document.record.inj h
  have hinj : Function.Injective fun e : String × String => (e.1, Document.text e.2) := by
    rintro ⟨name, value⟩ ⟨name', value'⟩ he
    simpa using he
  obtain rfl := List.map_injective_iff.mpr hinj hmap
  rfl

namespace ErrorNode

theorem masked_eq_of_written {book : RuleBook} {n : ErrorNode}
    (h : n.written = (n.masked book).written) : n.masked book = n := by
  obtain ⟨hmessage, hdata⟩ := Prod.mk.inj h
  have hm : n.message = book.mask n.message := by
    simpa [masked] using hmessage
  have hd : n.data = n.data.mapValues book.mask := by
    by_cases he : n.data.isEmpty
    · exact (Tags.mapValues_of_isEmpty book.mask he).symm
    · have hdocument : n.data.document = (n.data.mapValues book.mask).document := by
        simpa [masked, Tags.mapValues_isEmpty, he] using hdata
      exact Tags.eq_of_document hdocument
  rw [masked, ← hm, ← hd]

end ErrorNode

namespace ErrorChain

variable {book : RuleBook} {e : ErrorChain}

theorem nodes_mapReached_of_lt (f : ErrorNode → ErrorNode) {depth : Nat} (h : depth < maxReach) :
    (e.mapReached f).nodes[depth]? = (e.nodes[depth]?).map f := by
  rw [nodes_mapReached]
  by_cases hd : depth < e.nodes.length
  · have hlt : depth < ((e.nodes.take maxReach).map f).length := by
      rw [List.length_map, List.length_take]
      omega
    rw [List.getElem?_append_left hlt, List.getElem?_map, List.getElem?_take_of_lt h]
  · have hle : e.nodes.length ≤ depth := Nat.not_lt.mp hd
    have hall : e.nodes.drop maxReach = [] := List.drop_eq_nil_of_le (by omega)
    rw [hall, List.append_nil, List.getElem?_map, List.getElem?_take_of_lt h]

theorem nodes_mapReached_of_le (f : ErrorNode → ErrorNode) {depth : Nat} (h : maxReach ≤ depth) :
    (e.mapReached f).nodes[depth]? = e.nodes[depth]? := by
  have hmap : ((e.nodes.take maxReach).map f).length = (e.nodes.take maxReach).length :=
    List.length_map f
  rw [nodes_mapReached]
  conv_rhs => rw [← List.take_append_drop maxReach e.nodes]
  rw [List.getElem?_append_right (by simp; omega), List.getElem?_append_right (by simp; omega),
    hmap]

/-- Masking reaches so far. -/
theorem written_masked_of_lt {depth : Nat} (h : depth < maxReach) :
    (e.mapReached (·.masked book)).document.written depth =
      (e.nodes[depth]?).map fun n => (n.masked book).written := by
  rw [written_document, nodes_mapReached_of_lt _ h, Option.map_map]
  rfl

theorem written_masked_of_le {depth : Nat} (h : maxReach ≤ depth) :
    (e.mapReached (·.masked book)).document.written depth = e.document.written depth := by
  rw [written_document, written_document, nodes_mapReached_of_le _ h]

theorem masked_throughout_iff :
    (∀ depth, (e.mapReached (·.masked book)).document.written depth =
      (e.nodes[depth]?).map fun n => (n.masked book).written) ↔
    ∀ n ∈ e.nodes.drop maxReach, n.masked book = n := by
  constructor
  · intro h n hn
    obtain ⟨i, hi⟩ := List.mem_iff_getElem?.mp hn
    rw [List.getElem?_drop] at hi
    have hdepth := h (maxReach + i)
    rw [written_masked_of_le (Nat.le_add_right _ i), written_document, hi] at hdepth
    exact ErrorNode.masked_eq_of_written (Option.some.inj hdepth)
  · intro h depth
    by_cases hd : depth < maxReach
    · exact written_masked_of_lt hd
    · have hle : maxReach ≤ depth := Nat.not_lt.mp hd
      rw [written_masked_of_le hle, written_document]
      cases hn : e.nodes[depth]? with
      | none => rfl
      | some n =>
        have hmem : n ∈ e.nodes.drop maxReach := by
          refine List.mem_iff_getElem?.mpr ⟨depth - maxReach, ?_⟩
          rw [List.getElem?_drop, Nat.add_sub_cancel' hle, hn]
        rw [Option.map_some, Option.map_some, h n hmem]

end ErrorChain

namespace Redactor

theorem maskedIn_iff (book : RuleBook) (e : Event) :
    e.MaskedIn book (maskEvent book e).document ↔
      ∀ chain, e.error = some chain → ∀ n ∈ chain.nodes.drop ErrorChain.maxReach,
        n.masked book = n := by
  have hmessage : (maskEvent book e).document.field? "message" =
      e.message.map fun text => .text (book.mask text) := by
    rw [Event.field_message, maskEvent, Option.map_map]
    rfl
  have htags : (maskEvent book e).document.field? "tags" =
      if e.tags.isEmpty then none else some (e.tags.mapValues book.mask).document := by
    rw [Event.field_tags, maskEvent, Tags.mapValues_isEmpty]
  have herror : ∀ depth, ((maskEvent book e).document.field? "error").bind (·.written depth) =
      e.error.bind fun chain => (chain.mapReached (·.masked book)).document.written depth := by
    intro depth
    rw [Event.field_error]
    cases he : e.error with
    | none => simp [maskEvent, he]
    | some chain =>
      rw [maskEvent, he]
      rfl
  constructor
  · intro h chain hchain
    refine ErrorChain.masked_throughout_iff.mp fun depth => ?_
    have hdepth := h.error depth
    rw [herror, hchain] at hdepth
    exact hdepth
  · intro h
    refine ⟨hmessage, htags, fun depth => ?_⟩
    rw [herror]
    cases he : e.error with
    | none => rfl
    | some chain => exact ErrorChain.masked_throughout_iff.mpr (h chain he) depth

/-- With masking on and marks off, nothing that is subject to masking is written as it was,
exactly when masking would change nothing in the nodes that no walk reaches. -/
theorem redaction_complete_iff (book : RuleBook) (b : Batch) :
    List.Forall₂ (Event.MaskedIn book) b.events
      ((⟨true, false⟩ : Redactor).apply book b |>.events.map Event.document) ↔
    ∀ e ∈ b.events, ∀ chain, e.error = some chain →
      ∀ n ∈ chain.nodes.drop ErrorChain.maxReach, n.masked book = n := by
  have hdocuments : ((⟨true, false⟩ : Redactor).apply book b).events.map Event.document =
      b.events.map fun e => (maskEvent book e).document := by
    simp [apply]
  rw [hdocuments, List.forall₂_map_right_iff, List.forall₂_same]
  exact forall₂_congr fun e _ => maskedIn_iff book e

def buried : ErrorChain where
  outer := ⟨"cause", "E", none, .empty, []⟩
  causes := List.replicate 9 ⟨"cause", "E", none, .empty, []⟩ ++
    [⟨"ssn 123-45-6789", "E", none, .empty, []⟩]

theorem redaction_incomplete :
    let book := RuleBook.empty.enable .ssn
    let b : Batch := ⟨⟨"app", "test", "host", "logger", "linux", none⟩,
      [.ofError .error buried 1]⟩
    ¬ List.Forall₂ (Event.MaskedIn book) b.events
      ((⟨true, false⟩ : Redactor).apply book b |>.events.map Event.document) := by
  intro book b h
  have hmasked : (Event.ofError .error buried 1).MaskedIn book
      (maskEvent book (.ofError .error buried 1)).document := by
    cases h with
    | cons hfirst _ => exact hfirst
  have hlast : (⟨"ssn 123-45-6789", "E", none, .empty, []⟩ : ErrorNode) ∈
      buried.nodes.drop ErrorChain.maxReach := List.mem_singleton_self _
  have hsame := (maskedIn_iff book _).mp hmasked buried rfl _ hlast
  have hmessage : book.mask "ssn 123-45-6789" = "ssn 123-45-6789" :=
    congrArg ErrorNode.message hsame
  exact absurd hmessage (by decide +kernel)

end Redactor
end LogDelivery
