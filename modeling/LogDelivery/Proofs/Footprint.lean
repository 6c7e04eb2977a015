import LogDelivery.Proofs.Marking

/-!
# What redaction leaves alone

Redaction changes texts, and of these only messages, tag values and the data of errors. All else in a
batch is after it as it was before, in every event and in every node of an error. A text that is masked
has as many characters as before; a message that is marked has those of the mark in addition.
-/
namespace LogDelivery

/-- Some characters of a text are replaced by asterisks. -/
structure Screened (s t : String) : Prop where
  length : t.length = s.length
  stars : ∀ i : Nat, t.toList[i]? = s.toList[i]? ∨ t.toList[i]? = some '*'

section Alike

variable (M V : String → String → Prop)

def Tags.Alike (t u : Tags) : Prop :=
  List.Forall₂ (fun a b => b.1 = a.1 ∧ V a.2 b.2) t.entries u.entries

structure ErrorNode.Alike (n m : ErrorNode) : Prop where
  message : M n.message m.message
  kind : m.kind = n.kind
  code : m.code = n.code
  data : n.data.Alike V m.data
  frames : m.frames = n.frames

def ErrorChain.Alike (x y : ErrorChain) : Prop :=
  List.Forall₂ (ErrorNode.Alike M V) x.nodes y.nodes

structure Event.Alike (e f : Event) : Prop where
  message : Option.Rel M e.message f.message
  level : f.level = e.level
  timestamp : f.timestamp = e.timestamp
  thread : f.thread = e.thread
  location : f.location = e.location
  error : Option.Rel (ErrorChain.Alike M V) e.error f.error
  tags : e.tags.Alike V f.tags

end Alike

section

variable {M V : String → String → Prop}

theorem rel_map {α : Type} {R : α → α → Prop} {f : α → α} (h : ∀ a, R a (f a)) (o : Option α) :
    Option.Rel R o (o.map f) := by
  cases o with
  | none => exact .none
  | some a => exact .some (h a)

theorem Tags.alike_mapValues {f : String → String} (hf : ∀ s, V s (f s)) (t : Tags) :
    t.Alike V (t.mapValues f) :=
  List.forall₂_map_right_iff.mpr (List.forall₂_same.mpr fun e _ => ⟨rfl, hf e.2⟩)

theorem ErrorNode.alike_refl (hM : ∀ s, M s s) (hV : ∀ s, V s s) (n : ErrorNode) : n.Alike M V n :=
  ⟨hM _, rfl, rfl, List.forall₂_same.mpr fun e _ => ⟨rfl, hV e.2⟩, rfl⟩

/-- Nodes that a walk does not reach stay as they are, and so does their number. -/
theorem ErrorChain.alike_mapReached {f : ErrorNode → ErrorNode} (hM : ∀ s, M s s) (hV : ∀ s, V s s)
    (hf : ∀ n : ErrorNode, n.Alike M V (f n)) (x : ErrorChain) : x.Alike M V (x.mapReached f) := by
  have hreached : List.Forall₂ (ErrorNode.Alike M V) (x.nodes.take maxReach)
      ((x.nodes.take maxReach).map f) :=
    List.forall₂_map_right_iff.mpr (List.forall₂_same.mpr fun n _ => hf n)
  have hrest : List.Forall₂ (ErrorNode.Alike M V) (x.nodes.drop maxReach) (x.nodes.drop maxReach) :=
    List.forall₂_same.mpr fun n _ => n.alike_refl hM hV
  have hboth : List.Forall₂ (ErrorNode.Alike M V) (x.nodes.take maxReach ++ x.nodes.drop maxReach)
      ((x.nodes.take maxReach).map f ++ x.nodes.drop maxReach) := List.rel_append hreached hrest
  rwa [List.take_append_drop, ← nodes_mapReached] at hboth

end

theorem Tags.mapValues_id (t : Tags) : t.mapValues id = t := by
  rw [Tags.mk.injEq, mapValues]
  exact List.map_id _

theorem ErrorChain.mapReached_id (x : ErrorChain) : x.mapReached id = x := by
  apply eq_of_nodes
  rw [nodes_mapReached, List.map_id, List.take_append_drop]

theorem ErrorChain.mapReached_mapReached (f g : ErrorNode → ErrorNode) (x : ErrorChain) :
    (x.mapReached f).mapReached g = x.mapReached (g ∘ f) := by
  apply eq_of_nodes
  apply List.ext_getElem?
  intro depth
  by_cases h : depth < maxReach
  · rw [nodes_mapReached_of_lt g h, nodes_mapReached_of_lt f h, nodes_mapReached_of_lt (g ∘ f) h,
      Option.map_map]
  · have hle := Nat.le_of_not_lt h
    rw [nodes_mapReached_of_le g hle, nodes_mapReached_of_le f hle, nodes_mapReached_of_le (g ∘ f) hle]

namespace Redactor

/-- A text that is not marked. -/
def screened (r : Redactor) (book : RuleBook) (s : String) : String :=
  if r.masks then book.mask s else s

def redactNode (r : Redactor) (book : RuleBook) (n : ErrorNode) : ErrorNode :=
  { n with message := r.redacted book n.message, data := n.data.mapValues (r.screened book) }

def redactEvent (r : Redactor) (book : RuleBook) (e : Event) : Event :=
  { e with
    message := e.message.map (r.redacted book)
    tags := e.tags.mapValues (r.screened book)
    error := e.error.map (·.mapReached (r.redactNode book)) }

theorem redactEvent_of_nothing {r : Redactor} {book : RuleBook} (hm : r.redacted book = id)
    (hv : r.screened book = id) (e : Event) : r.redactEvent book e = e := by
  have hnode : r.redactNode book = id := by
    funext n
    rw [redactNode, hm, hv, Tags.mapValues_id]
    rfl
  rw [redactEvent, hm, hv, hnode, Option.map_id, Tags.mapValues_id]
  have hchain : (fun x : ErrorChain => x.mapReached id) = id := funext ErrorChain.mapReached_id
  rw [hchain, Option.map_id]
  rfl

theorem markEvent_eq (book : RuleBook) (e : Event) :
    markEvent e = (⟨false, true⟩ : Redactor).redactEvent book e := by
  have hv : (⟨false, true⟩ : Redactor).screened book = id := rfl
  have hnode : (⟨false, true⟩ : Redactor).redactNode book =
      fun n => { n with message := marked n.message } := by
    funext n
    rw [redactNode, hv, Tags.mapValues_id]
    rfl
  rw [redactEvent, hv, hnode, Tags.mapValues_id]
  rfl

theorem maskEvent_markEvent (book : RuleBook) (e : Event) :
    maskEvent book (markEvent e) = (⟨true, true⟩ : Redactor).redactEvent book e := by
  simp only [maskEvent, markEvent, redactEvent, Option.map_map, Event.mk.injEq, true_and]
  refine ⟨rfl, ?_, rfl⟩
  congr 1
  funext x
  rw [Function.comp_apply, ErrorChain.mapReached_mapReached]
  rfl

theorem events_apply (r : Redactor) (book : RuleBook) (b : Batch) :
    (r.apply book b).events = b.events.map (r.redactEvent book) := by
  rcases r with ⟨_ | _, _ | _⟩
  · have hsame : (⟨false, false⟩ : Redactor).redactEvent book = id :=
      funext (redactEvent_of_nothing rfl rfl)
    rw [hsame, List.map_id]
    rfl
  · exact List.map_congr_left fun e _ => markEvent_eq book e
  · rfl
  · have hboth : maskEvent book ∘ markEvent = (⟨true, true⟩ : Redactor).redactEvent book :=
      funext (maskEvent_markEvent book)
    rw [← hboth, ← List.map_map]
    rfl

def Keeps (r : Redactor) (s t : String) : Prop := t = s ∨ r.masks = true ∧ Screened s t

def MayTurn (r : Redactor) (s t : String) : Prop :=
  r.Keeps s t ∨ r.marks = true ∧ '\x7b' ∈ s.toList ∧ '\x7d' ∈ s.toList ∧
    t.length = s.length + 10 ∧ r.Keeps (s ++ " #SKIPJSON") t

variable (r : Redactor) (book : RuleBook)

theorem screened_mask (s : String) : Screened s (book.mask s) := by
  constructor
  · rw [← String.length_toList, ← String.length_toList, RuleBook.toList_mask]
    exact Pattern.length_maskAll
  · intro i
    rw [RuleBook.toList_mask]
    by_cases h : Pattern.Reached book.patterns s.toList i
    · exact Or.inr (Pattern.star_of_reached h)
    · exact Or.inl (Pattern.kept_of_not_reached h)

theorem keeps_screened (s : String) : r.Keeps s (r.screened book s) := by
  by_cases hmasks : r.masks = true
  · rw [screened, if_pos hmasks]
    exact Or.inr ⟨hmasks, screened_mask book s⟩
  · rw [screened, if_neg hmasks]
    exact Or.inl rfl

theorem length_screened (s : String) : (r.screened book s).length = s.length := by
  rcases r.keeps_screened book s with heq | ⟨-, hscreened⟩
  · rw [heq]
  · exact hscreened.length

theorem mayTurn_redacted (s : String) : r.MayTurn s (r.redacted book s) := by
  have hredacted : r.redacted book s = r.screened book (if r.marks then marked s else s) := rfl
  rw [hredacted]
  by_cases hmarks : r.marks = true
  · rw [if_pos hmarks]
    by_cases hjson : looksLikeJson s = true
    · rw [marked, if_pos hjson]
      have hbraces : '\x7b' ∈ s.toList ∧ '\x7d' ∈ s.toList := by simpa [looksLikeJson] using hjson
      have hlength : (r.screened book (s ++ mark)).length = s.length + 10 := by
        rw [length_screened, String.length_append]
        rfl
      exact Or.inr ⟨hmarks, hbraces.1, hbraces.2, hlength, r.keeps_screened book _⟩
    · rw [marked, if_neg hjson]
      exact Or.inl (r.keeps_screened book s)
  · rw [if_neg hmarks]
    exact Or.inl (r.keeps_screened book s)

theorem redactNode_alike (n : ErrorNode) : n.Alike r.MayTurn r.Keeps (r.redactNode book n) where
  message := r.mayTurn_redacted book n.message
  kind := rfl
  code := rfl
  data := Tags.alike_mapValues (r.keeps_screened book) n.data
  frames := rfl

theorem redactEvent_alike (e : Event) : e.Alike r.MayTurn r.Keeps (r.redactEvent book e) where
  message := rel_map (r.mayTurn_redacted book) e.message
  level := rfl
  timestamp := rfl
  thread := rfl
  location := rfl
  error := rel_map (ErrorChain.alike_mapReached (fun _ => Or.inl (Or.inl rfl)) (fun _ => Or.inl rfl)
    (r.redactNode_alike book)) e.error
  tags := Tags.alike_mapValues (r.keeps_screened book) e.tags

/-- A batch keeps its context and its events in their order. An event and the nodes of its error, at
any depth, keep all but their messages and values. Those keep the number of their characters, but for a
message with both braces, which may have the ten of a mark in addition. With marks off, nothing changes if
masking is off or there are no rules. -/
theorem redaction_footprint (b : Batch) :
    (r.apply book b).context = b.context ∧
      List.Forall₂ (Event.Alike r.MayTurn r.Keeps) b.events (r.apply book b).events ∧
      (⟨false, false⟩ : Redactor).apply book b = b ∧
      (⟨r.masks, false⟩ : Redactor).apply .empty b = b := by
  refine ⟨rfl, ?_, rfl, ?_⟩
  · rw [events_apply]
    exact List.forall₂_map_right_iff.mpr (List.forall₂_same.mpr fun e _ => r.redactEvent_alike book e)
  · have hmask : RuleBook.mask .empty = id := funext fun s => String.ofList_toList
    have hnothing : (⟨r.masks, false⟩ : Redactor).screened .empty = id := by
      funext s
      rw [screened, hmask]
      exact ite_self s
    have hsame : (⟨r.masks, false⟩ : Redactor).redactEvent .empty = id :=
      funext (redactEvent_of_nothing hnothing hnothing)
    have hevents := events_apply ⟨r.masks, false⟩ .empty b
    rw [hsame, List.map_id] at hevents
    rw [Batch.mk.injEq]
    exact ⟨rfl, hevents⟩

end Redactor
end LogDelivery
