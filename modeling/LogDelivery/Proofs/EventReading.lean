import LogDelivery.Payload
import LogDelivery.Proofs.Records

/-!
# Events read back

Every kind of record in a batch is written from slots and read by name, so each reader finds what was
written as long as there is room for its nesting. Only the errors of events can be nested deep: they
alone decide whether a batch is read back from its JSON text.
-/
namespace LogDelivery

open Document Json

theorem Level.reads : Reads Level.decode Level.document := by
  intro room l
  cases l <;> simp [Level.decode, Level.document, ofDocument] <;> rfl

namespace Tags

theorem insertEntry_last {name value : String} {entries : List (String × String)}
    (h : ∀ e ∈ entries, e.1 < name) :
    insertEntry name value entries = entries ++ [(name, value)] := by
  induction entries with
  | nil => rfl
  | cons e rest ih =>
    obtain ⟨first, tail⟩ := List.forall_mem_cons.1 h
    have hne : name ≠ e.1 := fun heq => String.lt_irrefl _ (heq ▸ first)
    have hlt : ¬ name < e.1 := fun lt => String.lt_irrefl _ (String.lt_trans lt first)
    rw [insertEntry, if_neg hne, if_neg hlt, ih tail, List.cons_append]

theorem entries_foldl (t : Tags) (entries : List (String × String))
    (h : (t.entries ++ entries).Pairwise fun a b => a.1 < b.1) :
    (entries.foldl (fun t e => t.insert e.1 e.2) t).entries = t.entries ++ entries := by
  induction entries generalizing t with
  | nil => simp
  | cons e rest ih =>
    have hinsert : (t.insert e.1 e.2).entries = t.entries ++ [e] :=
      insertEntry_last fun a ha =>
        (List.pairwise_append.1 h).2.2 a ha e List.mem_cons_self
    rw [List.foldl_cons, ih (t.insert e.1 e.2) (by simpa [hinsert] using h), hinsert,
      List.append_assoc, List.singleton_append]

theorem eq_of_entries {t u : Tags} (h : t.entries = u.entries) : t = u :=
  (Tags.mk.injEq ..).mpr h

theorem ofList_entries (t : Tags) : ofList t.entries = t :=
  eq_of_entries (entries_foldl empty t.entries (by simpa [empty] using t.sorted))

theorem nesting_document (t : Tags) : t.document.nesting ≤ 1 := by
  rw [document, nesting_record_le, List.forall_mem_map]
  simp

theorem reads : Reads Tags.decode Tags.document := by
  rintro (- | room) t
  · simp [decode, document, nesting]
  · rw [if_pos (t.nesting_document.trans (by omega))]
    simp only [document, ofDocument, ofFields_eq_map, List.map_map, decode, List.mapM_map]
    rw [mapM_eq_some (g := id), List.map_id]
    · exact congrArg some t.ofList_entries
    · exact fun e _ => rfl

def slot (t : Tags) : Option Document := if t.isEmpty then none else some t.document

theorem field_eq (name : String) (t : Tags) : t.field name = Document.optional name t.slot := by
  unfold field slot
  split <;> rfl

theorem nesting_slot (t : Tags) : nestingOf t.slot ≤ 1 := by
  unfold slot
  split_ifs
  · exact Nat.zero_le 1
  · exact t.nesting_document

theorem orElse_slot (t : Tags) (room : Nat) :
    orElse .empty (Tags.decode room) (ofSlot t.slot) =
      if nestingOf t.slot ≤ room then some t else none :=
  reads.orElse room fun h => eq_of_entries (List.isEmpty_iff.1 h)

end Tags

namespace Location

def slots (l : Location) : List (String × Option Document) :=
  [("file", l.file.map .text), ("method", l.method.map .text),
   ("line", l.line.map fun n => .integer n.toNat)]

theorem document_eq (l : Location) : l.document = .record (present l.slots) := by
  simp [document, slots, present]

theorem nesting_document (l : Location) : l.document.nesting ≤ 1 := by
  rw [document_eq, nesting_present_le]
  simp [slots]

theorem reads : Reads Location.decode Location.document := by
  rintro (- | room) l
  · simp [decode, document, nesting]
  · have hread : Json.slots [⟨"file", false⟩, ⟨"method", false⟩, ⟨"line", false⟩]
        (ofDocument l.document) = some (l.slots.map fun s => ofSlot s.2) :=
      slots_written l.document_eq rfl (by decide)
    rw [if_pos (l.nesting_document.trans (by omega)), decode, hread]
    simp [slots]

end Location

namespace Frame

def slots (f : Frame) : List (String × Option Document) :=
  [("method", some (.text f.method)), ("file", f.file.map .text),
   ("line", f.line.map fun n => .integer n.toNat)]

theorem document_eq (f : Frame) : f.document = .record (present f.slots) := by
  simp [document, slots, present, Document.optional]

theorem nesting_document (f : Frame) : f.document.nesting ≤ 1 := by
  rw [document_eq, nesting_present_le]
  simp [slots]

theorem reads : Reads Frame.decode Frame.document := by
  rintro (- | room) f
  · simp [decode, document, nesting]
  · have hread : Json.slots [⟨"method", false⟩, ⟨"file", false⟩, ⟨"line", false⟩]
        (ofDocument f.document) = some (f.slots.map fun s => ofSlot s.2) :=
      slots_written f.document_eq rfl (by decide)
    rw [if_pos (f.nesting_document.trans (by omega)), decode, hread]
    simp [slots, required]

end Frame

namespace ErrorNode

def frameSlot (n : ErrorNode) : Option Document :=
  if n.frames.isEmpty then none else some (.list (n.frames.map Frame.document))

theorem orElse_frameSlot (n : ErrorNode) (room : Nat) :
    orElse [] (list? Frame.decode room) (ofSlot n.frameSlot) =
      if nestingOf n.frameSlot ≤ room then some n.frames else none :=
  Frame.reads.list.orElse room List.isEmpty_iff.1

theorem nesting_frameSlot (n : ErrorNode) : nestingOf n.frameSlot ≤ 2 := by
  unfold frameSlot
  split_ifs
  · exact Nat.zero_le 2
  · rw [nestingOf_some, nesting_list_le, List.forall_mem_map]
    exact fun f _ => f.nesting_document

def slots (n : ErrorNode) (cause : Option Document) : List (String × Option Document) :=
  [("message", some (.text n.message)), ("error_type", some (.text n.kind)),
   ("error_type_code", n.code.map .text), ("data", n.data.slot), ("frames", n.frameSlot),
   ("inner", cause)]

theorem fields_eq (n : ErrorNode) : n.fields = present (n.slots none) := by
  have hframes : (if n.frames.isEmpty then [] else
      [("frames", Document.list (n.frames.map Frame.document))]) =
      Document.optional "frames" n.frameSlot := by
    unfold frameSlot
    split <;> rfl
  rw [fields, hframes, Tags.field_eq]
  simp [slots, present, Document.optional]

end ErrorNode

namespace ErrorChain

def slots (e : ErrorChain) : List (String × Option Document) :=
  e.outer.slots (e.cause.map document)

theorem document_eq (e : ErrorChain) : e.document = .record (present e.slots) := by
  obtain ⟨outer, causes⟩ := e
  cases causes with
  | nil => exact congrArg Document.record outer.fields_eq
  | cons cause rest =>
    have hfields := outer.fields_eq
    simp only [document, ErrorNode.nested, hfields]
    simp [slots, ErrorNode.slots, present, ErrorChain.cause, document, Document.optional]

theorem nesting_le (e : ErrorChain) (room : Nat) :
    e.document.nesting ≤ room + 1 ↔
      nestingOf e.outer.data.slot ≤ room ∧ nestingOf e.outer.frameSlot ≤ room ∧
        nestingOf (e.cause.map document) ≤ room := by
  rw [document_eq, nesting_present_le]
  simp [slots, ErrorNode.slots]

/-- A chain is nested as deep as it has nodes, with two more levels at most for what a node has. -/
theorem nesting_bounds (e : ErrorChain) :
    e.nodes.length ≤ e.document.nesting ∧ e.document.nesting ≤ e.nodes.length + 2 := by
  obtain ⟨outer, causes⟩ := e
  induction causes generalizing outer with
  | nil =>
    have hslot := outer.data.nesting_slot
    have hpos : ¬ (document ⟨outer, []⟩).nesting ≤ 0 := by simp [document_eq, nesting]
    have hupper : (document ⟨outer, []⟩).nesting ≤ 2 + 1 :=
      (nesting_le _ 2).2 ⟨hslot.trans (by omega), outer.nesting_frameSlot, Nat.zero_le _⟩
    simp only [nodes, List.length_singleton]
    omega
  | cons cause rest ih =>
    obtain ⟨lower, upper⟩ := ih cause
    simp only [nodes, List.length_cons] at lower upper ⊢
    have hslot := outer.data.nesting_slot
    have hframes := outer.nesting_frameSlot
    have hupper : (document ⟨outer, cause :: rest⟩).nesting ≤ (rest.length + 3) + 1 :=
      (nesting_le _ _).2 ⟨hslot.trans (by omega), hframes.trans (by omega), upper⟩
    obtain ⟨room, hroom⟩ : ∃ room, (document ⟨outer, cause :: rest⟩).nesting = room + 1 :=
      ⟨_, by rw [document_eq, nesting]⟩
    have hinner : (document ⟨cause, rest⟩).nesting ≤ room :=
      ((nesting_le ⟨outer, cause :: rest⟩ room).1 hroom.le).2.2
    omega

theorem causes_eq (e : ErrorChain) : (e.cause.map nodes).getD [] = e.causes := by
  obtain ⟨outer, causes⟩ := e
  cases causes <;> rfl

/-- With one more level, an error is read back where the one that caused it is. -/
theorem decode_succ {room : Nat} (hcause : ∀ c : ErrorChain, decode room (ofDocument c.document) =
      if c.document.nesting ≤ room then some c else none) (e : ErrorChain) :
    decode (room + 1) (ofDocument e.document) =
      if e.document.nesting ≤ room + 1 then some e else none := by
  have hread : Json.slots ErrorNode.shape (ofDocument e.document) =
      some (e.slots.map fun s => ofSlot s.2) :=
    slots_written e.document_eq rfl (by decide)
  have hcauses := e.causes_eq
  simp only [e.nesting_le, decode, hread, slots, ErrorNode.slots, List.map_cons, List.map_nil,
    ofSlot_some, required, text?_ofDocument, optional_text, Tags.orElse_slot,
    ErrorNode.orElse_frameSlot, optional_reads hcause, Option.bind_eq_bind, Option.bind_some]
  split_ifs <;> simp_all

theorem reads : Reads decode document := by
  intro room
  induction room with
  | zero => exact fun e => by simp [decode, document_eq, nesting]
  | succ room ih => exact decode_succ ih

end ErrorChain

namespace Event

def slots (e : Event) : List (String × Option Document) :=
  [("message", e.message.map .text), ("level", some e.level.document),
   ("timestamp", some (.integer e.timestamp.toNat)), ("thread", e.thread.map .text),
   ("location", e.location.map Location.document), ("error", e.error.map ErrorChain.document),
   ("tags", e.tags.slot)]

theorem document_eq (e : Event) : e.document = .record (present e.slots) := by
  simp [document, slots, present, Tags.field_eq, Document.optional]

theorem nesting_le (e : Event) (room : Nat) :
    e.document.nesting ≤ room + 1 ↔
      nestingOf (e.location.map Location.document) ≤ room ∧
        nestingOf (e.error.map ErrorChain.document) ≤ room ∧ nestingOf e.tags.slot ≤ room := by
  rw [document_eq, nesting_present_le]
  simp [slots, Level.document]

theorem reads : Reads decode document := by
  rintro (- | room) e
  · simp [decode, document_eq, nesting]
  · have hread : Json.slots Event.shape (ofDocument e.document) =
        some (e.slots.map fun s => ofSlot s.2) :=
      slots_written e.document_eq rfl (by decide)
    have hlevel : Level.decode room (ofDocument e.level.document) = some e.level :=
      (Level.reads room e.level).trans (if_pos (by simp [Level.document]))
    simp only [e.nesting_le, decode, hread, slots, List.map_cons, List.map_nil, ofSlot_some,
      required, optional_text, hlevel, uint64?_ofDocument, Location.reads.optional,
      ErrorChain.reads.optional, Tags.orElse_slot, Option.bind_eq_bind, Option.bind_some]
    split_ifs <;> simp_all

theorem nesting_le_iff (e : Event) {room : Nat} (hroom : 2 ≤ room) :
    e.document.nesting ≤ room ↔ ∀ c ∈ e.error, c.document.nesting + 1 ≤ room := by
  obtain ⟨room, rfl⟩ := Nat.exists_eq_add_of_le' hroom
  have hlocation : nestingOf (e.location.map Location.document) ≤ room + 1 := by
    cases e.location with
    | none => exact Nat.zero_le _
    | some l => exact l.nesting_document.trans (by omega)
  have htags : nestingOf e.tags.slot ≤ room + 1 := e.tags.nesting_slot.trans (by omega)
  rw [e.nesting_le (room + 1)]
  cases e.error <;> simp [hlocation, htags]

end Event

namespace Identity

def slots (i : Identity) : List (String × Option Document) :=
  [("device_id", i.deviceId.map fun n => .integer n.toInt),
   ("device_app_id", i.deviceAppId.map fun n => .integer n.toInt),
   ("app_name_id", i.appNameId.map .text), ("env_id", i.envId.map fun n => .integer n.toInt),
   ("app_env_id", i.appEnvId.map .text), ("environment", i.environment.map .text)]

theorem document_eq (i : Identity) : i.document = .record (present i.slots) := by
  simp [document, slots, present]

theorem nesting_document (i : Identity) : i.document.nesting ≤ 1 := by
  rw [document_eq, nesting_present_le]
  simp [slots]

theorem reads : Reads decode document := by
  rintro (- | room) i
  · simp [decode, document_eq, nesting]
  · have hread : Json.slots Identity.shape (ofDocument i.document) =
        some (i.slots.map fun s => ofSlot s.2) :=
      slots_written i.document_eq rfl (by decide)
    rw [if_pos (i.nesting_document.trans (by omega)), decode, hread]
    simp [slots]

end Identity

theorem Identity.fits64 (i : Identity) : i.document.All Fits64 := by
  rw [document_eq, All, allFields_present]
  simp [slots]

def Context.slots (c : Context) : List (String × Option Document) :=
  [("app_name", some (.text c.appName)), ("environment", some (.text c.environment)),
   ("server_name", some (.text c.serverName)), ("logger", some (.text c.logger)),
   ("platform", some (.text c.platform)), ("identity", c.identity.map Identity.document)]

namespace Batch

def slots (b : Batch) : List (String × Option Document) :=
  b.context.slots ++ [("events", some (.list (b.events.map Event.document)))]

theorem document_eq (b : Batch) : b.document = .record (present b.slots) := by
  simp [document, slots, Context.slots, Context.fields, present, Document.optional]

theorem nesting_le (b : Batch) (room : Nat) :
    b.document.nesting ≤ room + 1 ↔
      nestingOf (b.context.identity.map Identity.document) ≤ room ∧
        (Document.list (b.events.map Event.document)).nesting ≤ room := by
  rw [document_eq, nesting_present_le]
  simp [slots, Context.slots]

theorem nesting_le_iff (b : Batch) {room : Nat} (hroom : 4 ≤ room) :
    b.document.nesting ≤ room ↔ ∀ e ∈ b.events, ∀ c ∈ e.error, c.document.nesting + 3 ≤ room := by
  obtain ⟨room, rfl⟩ := Nat.exists_eq_add_of_le' hroom
  have hidentity : nestingOf (b.context.identity.map Identity.document) ≤ room + 3 := by
    cases b.context.identity with
    | none => exact Nat.zero_le _
    | some i => exact i.nesting_document.trans (by omega)
  have hevent : ∀ e : Event, e.document.nesting ≤ room + 2 ↔
      ∀ c ∈ e.error, c.document.nesting + 3 ≤ room + 4 := fun e =>
    (e.nesting_le_iff (by omega)).trans (forall₂_congr fun c _ => by omega)
  rw [b.nesting_le (room + 3), nesting_list_le, List.forall_mem_map]
  simp only [hidentity, true_and, hevent]

theorem fields_besideEvents (b : Batch) :
    (present b.slots).filter (fun f => f.1 ≠ "events") = present b.context.slots := by
  have hcontext : ∀ f ∈ present b.context.slots, f.1 ≠ "events" := by
    intro f hf h
    have hslot := mem_present.1 hf
    simp [Context.slots, h] at hslot
  rw [slots, present_append, List.filter_append, List.filter_eq_self.2 (by simpa using hcontext)]
  simp [present, Document.optional]

theorem besideEventsPlain_document (b : Batch) (room : Nat) :
    besideEventsPlain room (ofDocument b.document) =
      decide (nestingOf (b.context.identity.map Identity.document) ≤ room) := by
  have hfits : AllFields Fits64 (present b.context.slots) := by
    rw [allFields_present]
    simp [Context.slots, Identity.fits64]
  have hnesting : nestingFields (present b.context.slots) ≤ room ↔
      nestingOf (b.context.identity.map Identity.document) ≤ room := by
    rw [nestingFields_present_le]
    simp [Context.slots]
  rw [document_eq, ofDocument, besideEventsPlain, ofFields_without, fields_besideEvents,
    membersPlain_ofFields hfits]
  simp only [hnesting]

theorem reads : Reads decode document := by
  rintro (- | room) b
  · simp [decode, document_eq, nesting]
  · have hread : keyed Batch.shape (ofDocument b.document) =
        some (b.slots.map fun s => ofSlot s.2) :=
      keyed_written b.document_eq rfl (by decide)
    have hevents := Event.reads.list room b.events
    simp only [b.nesting_le, decode, hread, slots, Context.slots, List.cons_append, List.nil_append,
      List.map_cons, List.map_nil, ofSlot_some,
      required, text?_ofDocument, besideEventsPlain_document, hevents,
      Identity.reads.optional, Option.bind_eq_bind, Option.bind_some]
    split_ifs <;> simp_all

end Batch

/-- Batches, events and errors are read back from their JSON texts exactly as long as their errors stay
within the nesting that a text may have, and no two batches have the same text. An error stands one
level down in an event and three levels down in a batch; it is nested as deep as it has nodes, with two
more levels at most. -/
theorem Format.json_read_back :
    (∀ b : Batch, ∃ text, Format.json.body b = .json text ∧
      (readJson Batch.decode text = some b ↔
        ∀ e ∈ b.events, ∀ c ∈ e.error, c.document.nesting + 3 ≤ maxDepth)) ∧
    (∀ e : Event, readJson Event.decode (String.ofList e.document.json) = some e ↔
      ∀ c ∈ e.error, c.document.nesting + 1 ≤ maxDepth) ∧
    (∀ c : ErrorChain, readJson ErrorChain.decode (String.ofList c.document.json) = some c ↔
      c.document.nesting ≤ maxDepth) ∧
    Function.Injective Format.json.body ∧
    ∀ c : ErrorChain, c.nodes.length ≤ c.document.nesting ∧ c.document.nesting ≤ c.nodes.length + 2 := by
  refine ⟨fun b => ⟨_, rfl, ?_⟩, fun e => ?_, fun c => ?_, fun a b hab => ?_, ErrorChain.nesting_bounds⟩
  · exact (Batch.reads.readJson_iff b).trans (b.nesting_le_iff (by decide))
  · exact (Event.reads.readJson_iff e).trans (e.nesting_le_iff (by decide))
  · exact ErrorChain.reads.readJson_iff c
  · exact Batch.reads.json_injective (Body.json.inj hab)

def Batch.unidentified : Batch where
  context := {
    appName := "shop"
    environment := ""
    serverName := "h\"1\""
    logger := "log"
    platform := "rust"
    identity := some {} }
  events := [{
    message := none
    level := .fatal
    timestamp := 18446744073709551615
    location := some { line := some 4294967295 }
    error := some ⟨{ message := "\x01\n", kind := "E", frames := [{ method := "f" }] },
      [{ message := "𝄞", kind := "I" }]⟩ }]

theorem Format.json_read_back_unidentified : ∃ text,
    Format.json.body .unidentified = .json text ∧
    readJson Batch.decode text = some .unidentified := by
  obtain ⟨text, hbody, hread⟩ := Format.json_read_back.1 .unidentified
  exact ⟨text, hbody, hread.2 (by decide)⟩

end LogDelivery
