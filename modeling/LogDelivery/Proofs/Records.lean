import LogDelivery.Event.Decoder
import LogDelivery.Proofs.JsonText
import Mathlib.Data.List.Basic
import Mathlib.Tactic.SplitIfs

/-!
# Records read by field name

A record is written from slots, one for each field that it may have, and only the slots that are not
empty are written. Reading by name finds the same slots again. How deep a document is nested decides
whether there is room to read it, and nothing else does.
-/
namespace LogDelivery

namespace Document

mutual

def nesting : Document → Nat
  | .text _ => 0
  | .integer _ => 0
  | .list items => nestingItems items + 1
  | .record fields => nestingFields fields + 1

def nestingItems : List Document → Nat
  | [] => 0
  | d :: rest => max d.nesting (nestingItems rest)

def nestingFields : List (String × Document) → Nat
  | [] => 0
  | (_, d) :: rest => max d.nesting (nestingFields rest)

end

def nestingOf : Option Document → Nat
  | none => 0
  | some d => d.nesting

theorem nestingItems_le (items : List Document) (room : Nat) :
    nestingItems items ≤ room ↔ ∀ d ∈ items, d.nesting ≤ room := by
  induction items with
  | nil => simp [nestingItems]
  | cons d rest ih => simp [nestingItems, ih]

theorem nestingFields_le (fields : List (String × Document)) (room : Nat) :
    nestingFields fields ≤ room ↔ ∀ f ∈ fields, f.2.nesting ≤ room := by
  induction fields with
  | nil => simp [nestingFields]
  | cons f rest ih => simp [nestingFields, ih]

@[simp] theorem nesting_text (s : String) : (text s).nesting = 0 := by rw [nesting]

@[simp] theorem nesting_integer (i : Int) : (integer i).nesting = 0 := by rw [nesting]

@[simp] theorem nestingOf_text (o : Option String) : nestingOf (o.map text) = 0 := by
  cases o <;> simp [nestingOf]

@[simp] theorem nestingOf_integer {α : Type} (f : α → Int) (o : Option α) :
    nestingOf (o.map fun a => integer (f a)) = 0 := by
  cases o <;> simp [nestingOf]

@[simp] theorem nestingOf_none : nestingOf none = 0 := rfl

@[simp] theorem nestingOf_some (d : Document) : nestingOf (some d) = d.nesting := rfl

theorem nesting_list_le (items : List Document) (room : Nat) :
    (list items).nesting ≤ room + 1 ↔ ∀ d ∈ items, d.nesting ≤ room := by
  rw [nesting, Nat.add_le_add_iff_right, nestingItems_le]

theorem nesting_record_le (fields : List (String × Document)) (room : Nat) :
    (record fields).nesting ≤ room + 1 ↔ ∀ f ∈ fields, f.2.nesting ≤ room := by
  rw [nesting, Nat.add_le_add_iff_right, nestingFields_le]

mutual

def All (p : Document → Prop) : Document → Prop
  | .text s => p (.text s)
  | .integer i => p (.integer i)
  | .list items => p (.list items) ∧ AllItems p items
  | .record fields => p (.record fields) ∧ AllFields p fields

def AllItems (p : Document → Prop) : List Document → Prop
  | [] => True
  | d :: rest => d.All p ∧ AllItems p rest

def AllFields (p : Document → Prop) : List (String × Document) → Prop
  | [] => True
  | (_, d) :: rest => d.All p ∧ AllFields p rest

end

theorem allItems_iff {p : Document → Prop} {items : List Document} :
    AllItems p items ↔ ∀ d ∈ items, d.All p := by
  induction items with
  | nil => simp [AllItems]
  | cons d rest ih => simp [AllItems, ih]

theorem allFields_iff {p : Document → Prop} {fields : List (String × Document)} :
    AllFields p fields ↔ ∀ f ∈ fields, f.2.All p := by
  induction fields with
  | nil => simp [AllFields]
  | cons f rest ih => simp [AllFields, ih]

@[simp] theorem all_text {p : Document → Prop} (s : String) : (text s).All p ↔ p (text s) := Iff.rfl

@[simp] theorem all_integer {p : Document → Prop} (i : Int) :
    (integer i).All p ↔ p (integer i) := Iff.rfl

def Fits64 : Document → Prop
  | .integer i => -(2 ^ 63) ≤ i ∧ i < 2 ^ 64
  | _ => True

@[simp] theorem fits64_text (s : String) : (text s).Fits64 := trivial

@[simp] theorem fits64_list (items : List Document) : (list items).Fits64 := trivial

@[simp] theorem fits64_record (fields : List (String × Document)) : (record fields).Fits64 := trivial

@[simp] theorem fits64_int64 (n : Int64) : (integer n.toInt).Fits64 := by
  have hlo := n.le_toInt
  have hhi := n.toInt_lt
  exact ⟨hlo, by omega⟩

@[simp] theorem fits64_uint64 (n : UInt64) : (integer n.toNat).Fits64 := by
  have := n.toNat_lt
  exact ⟨by omega, by omega⟩

@[simp] theorem fits64_uint32 (n : UInt32) : (integer n.toNat).Fits64 := by
  have := n.toNat_lt
  exact ⟨by omega, by omega⟩

def present (slots : List (String × Option Document)) : List (String × Document) :=
  slots.flatMap fun s => optional s.1 s.2

theorem present_append (slots others : List (String × Option Document)) :
    present (slots ++ others) = present slots ++ present others :=
  List.flatMap_append

theorem mem_optional {name : String} {d : Option Document} {f : String × Document} :
    f ∈ optional name d ↔ f.1 = name ∧ some f.2 = d := by
  cases d with
  | none => simp [optional]
  | some d => simp [optional, Prod.ext_iff]

theorem mem_present {slots : List (String × Option Document)} {f : String × Document} :
    f ∈ present slots ↔ (f.1, some f.2) ∈ slots := by
  simp only [present, List.mem_flatMap, mem_optional]
  constructor
  · rintro ⟨⟨name, d⟩, hs, rfl, rfl⟩
    exact hs
  · exact fun h => ⟨_, h, rfl, rfl⟩

theorem nestingFields_present_le (slots : List (String × Option Document)) (room : Nat) :
    nestingFields (present slots) ≤ room ↔ ∀ s ∈ slots, nestingOf s.2 ≤ room := by
  rw [nestingFields_le]
  constructor
  · rintro h ⟨name, d⟩ hs
    cases d with
    | none => exact Nat.zero_le _
    | some d => exact h (name, d) (mem_present.2 hs)
  · exact fun h f hf => h _ (mem_present.1 hf)

theorem nesting_present_le (slots : List (String × Option Document)) (room : Nat) :
    (record (present slots)).nesting ≤ room + 1 ↔ ∀ s ∈ slots, nestingOf s.2 ≤ room := by
  rw [nesting, Nat.add_le_add_iff_right, nestingFields_present_le]

theorem allFields_present {p : Document → Prop} {slots : List (String × Option Document)} :
    AllFields p (present slots) ↔ ∀ s ∈ slots, ∀ d ∈ s.2, d.All p := by
  rw [allFields_iff]
  refine ⟨?_, fun h f hf => h _ (mem_present.1 hf) _ rfl⟩
  rintro h ⟨name, _⟩ hs d rfl
  exact h (name, d) (mem_present.2 hs)

end Document

namespace Json

open Document

def ofSlot : Option Document → Option Json
  | none => none
  | some d => some (ofDocument d)

@[simp] theorem ofSlot_none : ofSlot none = none := rfl

@[simp] theorem ofSlot_some (d : Document) : ofSlot (some d) = some (ofDocument d) := rfl

theorem named_ofFields (name : String) (fields : List (String × Document)) :
    named name (ofFields fields) =
      (fields.filter fun f => f.1 = name).map fun f => ofDocument f.2 := by
  rw [ofFields_eq_map]
  induction fields with
  | nil => rfl
  | cons f rest ih => by_cases hf : f.1 = name <;> simp_all [named]

theorem ofFields_without (name : String) (fields : List (String × Document)) :
    (ofFields fields).filter (fun m => m.1 ≠ some name) =
      ofFields (fields.filter fun f => f.1 ≠ name) := by
  simp [ofFields_eq_map, List.filter_map, Function.comp_def]

theorem filter_optional (key name : String) (d : Option Document) :
    (Document.optional name d).filter (fun f => f.1 = key) =
      if name = key then Document.optional name d else [] := by
  cases d with
  | none => simp [Document.optional]
  | some d => by_cases h : name = key <;> simp [Document.optional, h]

theorem filter_present {slots : List (String × Option Document)}
    (hnames : (slots.map Prod.fst).Nodup) {s : String × Option Document} (hs : s ∈ slots) :
    (present slots).filter (fun f => f.1 = s.1) = Document.optional s.1 s.2 := by
  induction slots with
  | nil => cases hs
  | cons t rest ih =>
    rw [List.map_cons, List.nodup_cons] at hnames
    have hsplit : present (t :: rest) = Document.optional t.1 t.2 ++ present rest := rfl
    rw [hsplit, List.filter_append, filter_optional]
    obtain rfl | hs := List.mem_cons.1 hs
    · have hother : (present rest).filter (fun f => f.1 = s.1) = [] := by
        refine List.filter_eq_nil_iff.2 fun f hf => ?_
        rw [decide_eq_true_eq]
        rintro hname
        exact hnames.1 (hname ▸ List.mem_map_of_mem (mem_present.1 hf))
      rw [if_pos rfl, hother, List.append_nil]
    · have hne : t.1 ≠ s.1 := fun h => hnames.1 (h ▸ List.mem_map_of_mem hs)
      rw [if_neg hne, List.nil_append, ih hnames.2 hs]

theorem only?_present {slots : List (String × Option Document)}
    (hnames : (slots.map Prod.fst).Nodup) {s : String × Option Document} (hs : s ∈ slots) :
    only? s.1 (ofFields (present slots)) = some (ofSlot s.2) := by
  rw [only?, named_ofFields, filter_present hnames hs]
  cases s.2 <;> rfl

theorem mapM_eq_some {f : α → Option β} {g : α → β} {xs : List α} (h : ∀ x ∈ xs, f x = some (g x)) :
    xs.mapM f = some (xs.map g) := by
  induction xs with
  | nil => rfl
  | cons x xs ih =>
    simp [h x List.mem_cons_self, ih fun y hy => h y (List.mem_cons_of_mem _ hy)]

/-- Reading by name finds the slots that a record was written from. -/
theorem keyed_written {fields : List Field} {slots : List (String × Option Document)} {d : Document}
    (hd : d = .record (present slots)) (hshape : fields.map Field.name = slots.map Prod.fst)
    (hnames : (fields.map Field.name).Nodup) :
    keyed fields (ofDocument d) = some (slots.map fun s => ofSlot s.2) := by
  have hlabels : ((ofFields (present slots)).any fun m => m.1.isNone) = false := by
    simp [ofFields_eq_map]
  have hnamed : fields.mapM (fun field => only? field.name (ofFields (present slots))) =
      slots.mapM (fun s => only? s.1 (ofFields (present slots))) := by
    have := congrArg (List.mapM fun name => only? name (ofFields (present slots))) hshape
    rwa [List.mapM_map, List.mapM_map] at this
  rw [hd, ofDocument, keyed, hlabels, hnamed]
  exact mapM_eq_some fun s hs => only?_present (hshape ▸ hnames) hs

theorem slots_written {fields : List Field} {slots : List (String × Option Document)} {d : Document}
    (hd : d = .record (present slots)) (hshape : fields.map Field.name = slots.map Prod.fst)
    (hnames : (fields.map Field.name).Nodup) :
    Json.slots fields (ofDocument d) = some (slots.map fun s => ofSlot s.2) := by
  have hread := keyed_written hd hshape hnames
  subst hd
  exact hread

/-- A reader that finds in a document what was written there, exactly when there is room for it. -/
def Reads (read : (room : Nat) → Json → Option α) (write : α → Document) : Prop :=
  ∀ room a, read room (ofDocument (write a)) = if (write a).nesting ≤ room then some a else none

section

variable {read : (room : Nat) → Json → Option α} {write : α → Document}

theorem Reads.injective (h : Reads read write) : Function.Injective fun a => ofDocument (write a) := by
  intro a b (hab : ofDocument (write a) = ofDocument (write b))
  have ha := h (max (write a).nesting (write b).nesting) a
  have hb := h (max (write a).nesting (write b).nesting) b
  rw [if_pos (le_max_left ..)] at ha
  rw [if_pos (le_max_right ..), ← hab] at hb
  exact Option.some.inj (ha.symm.trans hb)

theorem Reads.json_injective (h : Reads read write) :
    Function.Injective fun a => String.ofList (write a).json := by
  intro a b hab
  have hparse := congrArg parse hab
  simp only [parse_json] at hparse
  exact h.injective (Option.some.inj hparse)

/-- A text is read back exactly within the nesting that texts may have. -/
theorem Reads.readJson_iff (h : Reads read write) (a : α) :
    readJson read (String.ofList (write a).json) = some a ↔ (write a).nesting ≤ maxDepth := by
  have hread : readJson read (String.ofList (write a).json) =
      if (write a).nesting ≤ maxDepth then some a else none := by
    rw [readJson, parse_json]
    exact h maxDepth a
  rw [hread]
  split_ifs with hle <;> simp [hle]

theorem mapM_ite {p : α → Prop} [DecidablePred p] (xs : List α) :
    xs.mapM (fun x => if p x then some x else none) = if ∀ x ∈ xs, p x then some xs else none := by
  induction xs with
  | nil => rfl
  | cons x xs ih =>
    rw [List.mapM_cons, ih]
    simp only [List.forall_mem_cons]
    split_ifs <;> simp_all

theorem Reads.list (h : Reads read write) :
    Reads (list? read) fun xs : List α => .list (xs.map write) := by
  rintro (- | room) xs
  · simp [list?, nesting]
  · have hitems : ofDocument (.list (xs.map write)) =
        .array (xs.map fun a => ofDocument (write a)) := by
      rw [ofDocument, ofItems_eq_map, List.map_map, Function.comp_def]
    have hread : (xs.map fun a => ofDocument (write a)).mapM (read room) =
        xs.mapM fun a => if (write a).nesting ≤ room then some a else none := by
      rw [List.mapM_map]
      exact congrArg (xs.mapM ·) (funext fun a => h room a)
    rw [hitems, list?, hread, mapM_ite]
    simp only [nesting_list_le, List.forall_mem_map]

theorem optional_some (read : Json → Option α) (d : Document) :
    Json.optional read (some (ofDocument d)) = (read (ofDocument d)).map some := by
  cases d <;> rfl

/-- A field that may be left out is read back if what stands there is. -/
theorem optional_reads {room : Nat}
    (h : ∀ a, read room (ofDocument (write a)) = if (write a).nesting ≤ room then some a else none)
    (o : Option α) :
    Json.optional (read room) (ofSlot (o.map write)) =
      if nestingOf (o.map write) ≤ room then some o else none := by
  cases o with
  | none => rfl
  | some a =>
    rw [Option.map_some, ofSlot_some, optional_some, h, nestingOf_some]
    split_ifs <;> rfl

theorem Reads.optional (h : Reads read write) (room : Nat) (o : Option α) :
    Json.optional (read room) (ofSlot (o.map write)) =
      if nestingOf (o.map write) ≤ room then some o else none :=
  optional_reads (h room) o

theorem Reads.orElse (h : Reads read write) (room : Nat) {usual a : α} {absent : Bool}
    (habsent : absent → a = usual) :
    Json.orElse usual (read room) (ofSlot (if absent then none else some (write a))) =
      if nestingOf (if absent then none else some (write a)) ≤ room then some a else none := by
  cases absent with
  | true => simp [Json.orElse, habsent]
  | false => exact h room a

end

theorem integer?_ofDocument {lo hi i : Int} (hlo : lo ≤ i) (hhi : i ≤ hi) :
    integer? lo hi (ofDocument (.integer i)) = some i := by
  simp [ofDocument, integer?, integer?_ofInt, Option.filter, hlo, hhi]

theorem uint64?_ofDocument (n : UInt64) : uint64? (ofDocument (.integer n.toNat)) = some n := by
  have := n.toNat_lt
  rw [uint64?, integer?_ofDocument (by omega) (by omega)]
  simp

theorem uint32?_ofDocument (n : UInt32) : uint32? (ofDocument (.integer n.toNat)) = some n := by
  have := n.toNat_lt
  rw [uint32?, integer?_ofDocument (by omega) (by omega)]
  simp

theorem int64?_ofDocument (n : Int64) : int64? (ofDocument (.integer n.toInt)) = some n := by
  have hlo := n.le_toInt
  have hhi := n.toInt_lt
  rw [int64?, integer?_ofDocument (by omega) (by omega)]
  simp

@[simp] theorem text?_ofDocument (s : String) : text? (ofDocument (.text s)) = some s := rfl

theorem optional_plain {read : Json → Option α} {write : α → Document}
    (h : ∀ a, read (ofDocument (write a)) = some a) (o : Option α) :
    Json.optional read (ofSlot (o.map write)) = some o := by
  cases o with
  | none => rfl
  | some a => rw [Option.map_some, ofSlot_some, optional_some, h, Option.map_some]

@[simp] theorem optional_text (o : Option String) :
    Json.optional text? (ofSlot (o.map .text)) = some o :=
  optional_plain text?_ofDocument o

@[simp] theorem optional_uint32 (o : Option UInt32) :
    Json.optional uint32? (ofSlot (o.map fun n => .integer n.toNat)) = some o :=
  optional_plain uint32?_ofDocument o

@[simp] theorem optional_int64 (o : Option Int64) :
    Json.optional int64? (ofSlot (o.map fun n => .integer n.toInt)) = some o :=
  optional_plain int64?_ofDocument o

theorem isHeld_ofInt {i : Int} (hi : (Document.integer i).Fits64) : (Numeral.ofInt i).isHeld := by
  rw [Numeral.isHeld, integer?_ofInt, Bool.or_eq_true]
  exact .inl (decide_eq_true hi)

mutual

/-- A document with numbers of 64 bits can be held where there is room for its nesting. -/
theorem isPlain_ofDocument {d : Document} (hd : d.All Fits64) (room : Nat) :
    isPlain room (ofDocument d) = decide (d.nesting ≤ room) := by
  match d, room with
  | .text s, room => simp [ofDocument, isPlain]
  | .integer i, room =>
    simp only [ofDocument, isPlain, nesting_integer, Nat.zero_le, decide_true]
    exact isHeld_ofInt hd
  | .list items, 0 => simp [ofDocument, isPlain, nesting]
  | .list items, room + 1 =>
    simp [ofDocument, isPlain, nesting, arePlain_ofItems hd.2 room]
  | .record fields, 0 => simp [ofDocument, isPlain, nesting]
  | .record fields, room + 1 =>
    simp [ofDocument, isPlain, nesting, membersPlain_ofFields hd.2 room]

theorem arePlain_ofItems {items : List Document} (h : AllItems Fits64 items) (room : Nat) :
    arePlain room (ofItems items) = decide (nestingItems items ≤ room) := by
  match items with
  | [] => simp [ofItems, arePlain, nestingItems]
  | d :: rest =>
    simp [ofItems, arePlain, nestingItems, isPlain_ofDocument h.1, arePlain_ofItems h.2]

theorem membersPlain_ofFields {fields : List (String × Document)} (h : AllFields Fits64 fields)
    (room : Nat) : membersPlain room (ofFields fields) = decide (nestingFields fields ≤ room) := by
  match fields with
  | [] => simp [ofFields, membersPlain, nestingFields]
  | (name, d) :: rest =>
    simp [ofFields, membersPlain, nestingFields, isPlain_ofDocument h.1, membersPlain_ofFields h.2]

end

end Json
end LogDelivery
