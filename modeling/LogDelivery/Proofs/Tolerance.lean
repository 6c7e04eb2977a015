import LogDelivery.Proofs.Editing
import LogDelivery.Proofs.EventReading
import Mathlib.Data.List.Induction

/-!
# What readers tolerate

Events, errors, identities and batches read the same when members of their objects change places, and
when objects get members that are no fields; a field that is repeated makes them unreadable. An edit is
followed from the place where it is made outwards: every reader either decides it or leaves it to the
reader of the one field that it is in. Errors are nested without a limit of their own, so theirs is an
induction on the room that is left.
-/
namespace LogDelivery

open Json

variable {role : Role} {held : Option Nat} {members members' : List (Label × Json)} {j j' : Json}
  {harmless : Bool} {α β : Type}

/-- What is read after an edit: the same as before if it was harmless, and nothing otherwise. -/
def keepIf (harmless : Bool) (before : Option α) : Option α := if harmless then before else none

@[simp] theorem keepIf_true (before : Option α) : keepIf true before = before := rfl

@[simp] theorem keepIf_false (before : Option α) : keepIf false before = none := rfl

@[simp] theorem keepIf_none : keepIf harmless (none : Option α) = none := by cases harmless <;> rfl

/-- A reader sees no harmless edits and refuses the others. -/
structure Tolerant (role : Role) (read : Json → Option α) : Prop where
  edited : ∀ {harmless held j j'}, Edited (.ofBool harmless) role held j j' →
    read j' = keepIf harmless (read j)

def TolerantSlot (role : Role) (read : Option Json → Option α) : Prop :=
  ∀ {harmless held j j'}, Edited (.ofBool harmless) role held j j' →
    read (some j') = keepIf harmless (read (some j))

theorem tolerant_of_none {read : Json → Option α} (hobject : ∀ members, read (.object members) = none)
    (harray : ∀ items, read (.array items) = none) : Tolerant role read := by
  constructor
  intro harmless held j j' h
  cases h <;> simp [hobject, harray]

theorem tolerant_text : Tolerant role text? := tolerant_of_none (fun _ => rfl) fun _ => rfl

theorem tolerant_uint64 : Tolerant role uint64? := tolerant_of_none (fun _ => rfl) fun _ => rfl

theorem tolerant_uint32 : Tolerant role uint32? := tolerant_of_none (fun _ => rfl) fun _ => rfl

theorem tolerant_int64 : Tolerant role int64? := tolerant_of_none (fun _ => rfl) fun _ => rfl

namespace Tolerant

variable {read : Json → Option α}

theorem required (h : Tolerant role read) : TolerantSlot role (Json.required read) :=
  h.edited

theorem orElse (h : Tolerant role read) (default : α) :
    TolerantSlot role (Json.orElse default read) := h.edited

theorem optional (h : Tolerant role read) : TolerantSlot role (Json.optional read) := by
  intro harmless held j j' edited
  have hread := h.edited edited
  have hj : Json.optional read (some j) = (read j).map some := by cases edited <;> rfl
  have hj' : Json.optional read (some j') = (read j').map some := by cases edited <;> rfl
  rw [hj, hj', hread]
  cases harmless <;> rfl

theorem list {part : Role} {read : Nat → Json → Option α} (hitem : ∀ i, role.item i = part)
    (h : ∀ room, Tolerant part (read room)) (room : Nat) : Tolerant role (list? read room) := by
  constructor
  intro harmless held j j' edited
  cases edited with
  | object => simp [list?]
  | member => simp [list?]
  | item before after edited =>
    rw [hitem] at edited
    cases room with
    | zero => simp [list?]
    | succ room =>
      have hread := (h room).edited edited
      simp only [list?, List.mapM_append, List.mapM_cons, hread]
      cases harmless <;> simp

end Tolerant

theorem Edited.ne_null {edit : Edit} (h : Edited edit role held j j') : j ≠ .null ∧ j' ≠ .null := by
  cases h <;> simp

theorem Level.decode_object_eq_none {room : Nat} (h : ∀ name, members ≠ [(name, .null)]) :
    Level.decode room (.object members) = none := by
  unfold Level.decode
  split <;> simp_all

theorem Level.decode_perm (room : Nat) (perm : members.Perm members') :
    Level.decode room (.object members') = Level.decode room (.object members) := by
  by_cases hsingle : ∃ name, members = [(name, .null)]
  · obtain ⟨name, rfl⟩ := hsingle
    rw [List.singleton_perm.1 perm]
  · have hsingle' : ∀ name, members' ≠ [(name, .null)] := fun name h =>
      hsingle ⟨name, List.perm_singleton.1 (h ▸ perm)⟩
    rw [decode_object_eq_none hsingle', decode_object_eq_none fun name h => hsingle ⟨name, h⟩]

theorem Level.tolerant (room : Nat) : Tolerant .level (Level.decode room) := by
  constructor
  intro harmless held j j' edited
  cases edited with
  | object h =>
    cases harmless with
    | true =>
      obtain ⟨perm, -⟩ | ⟨hclosed, -⟩ := h
      · exact decode_perm room perm
      · exact absurd (by decide) hclosed
    | false =>
      obtain ⟨_, _, _, hname, -⟩ := h
      cases hname
  | member before after h =>
    -- The only member of a level is null, which has nothing in it to edit.
    obtain ⟨hne, hne'⟩ := h.ne_null
    rw [decode_object_eq_none fun name h => hne' (by simp_all [List.append_eq_singleton_iff]),
      decode_object_eq_none fun name h => hne (by simp_all [List.append_eq_singleton_iff]), keepIf_none]
  | item => simp [Level.decode]

theorem mapM_perm {f : α → Option β} {xs ys : List α} (perm : xs.Perm ys) {zs : List β}
    (h : xs.mapM f = some zs) : ∃ zs', ys.mapM f = some zs' ∧ zs.Perm zs' := by
  induction perm generalizing zs with
  | nil => exact ⟨zs, h, .refl _⟩
  | cons x _ ih =>
    simp only [List.mapM_cons, Option.bind_eq_bind, Option.bind_eq_some_iff] at h ⊢
    obtain ⟨y, hy, rest, hrest, hzs⟩ := h
    cases hzs
    obtain ⟨rest', hrest', hperm⟩ := ih hrest
    exact ⟨y :: rest', ⟨y, hy, rest', hrest', rfl⟩, hperm.cons y⟩
  | swap x y =>
    simp only [List.mapM_cons, Option.bind_eq_bind, Option.bind_eq_some_iff] at h ⊢
    obtain ⟨b, hb, _, ⟨a, ha, rest, hrest, htail⟩, hzs⟩ := h
    cases htail
    cases hzs
    exact ⟨a :: b :: rest, ⟨a, ha, _, ⟨b, hb, rest, hrest, rfl⟩, rfl⟩, .swap ..⟩
  | trans _ _ ih ih' =>
    obtain ⟨zs', hzs', hperm⟩ := ih h
    obtain ⟨zs'', hzs'', hperm'⟩ := ih' hzs'
    exact ⟨zs'', hzs'', hperm.trans hperm'⟩

namespace Tags

theorem insertEntry_perm {name value : String} {entries : List (String × String)}
    (h : name ∉ entries.map Prod.fst) :
    (insertEntry name value entries).Perm ((name, value) :: entries) := by
  fun_induction insertEntry name value entries with
  | case1 => exact .refl _
  | case2 old rest => simp at h
  | case3 => exact .refl _
  | case4 other old rest _ _ ih =>
    exact ((ih (by simp_all)).cons _).trans (.swap ..)

theorem entries_ofList_perm {entries : List (String × String)}
    (h : (entries.map Prod.fst).Nodup) : (ofList entries).entries.Perm entries := by
  induction entries using List.reverseRecOn with
  | nil => exact .refl _
  | append_singleton entries e ih =>
    rw [List.map_append, List.nodup_append] at h
    obtain ⟨hentries, -, hlast⟩ := h
    have hperm := ih hentries
    have hnew : e.1 ∉ (ofList entries).entries.map Prod.fst := fun hmem =>
      hlast _ ((hperm.map Prod.fst).mem_iff.1 hmem) e.1 (by simp) rfl
    have hinsert : (ofList (entries ++ [e])).entries =
        insertEntry e.1 e.2 (ofList entries).entries := by
      simp [ofList, insert]
    rw [hinsert]
    exact (insertEntry_perm hnew).trans ((hperm.cons e).trans (List.perm_append_singleton ..).symm)

theorem ofList_perm {entries entries' : List (String × String)} (perm : entries.Perm entries')
    (h : (entries.map Prod.fst).Nodup) : ofList entries' = ofList entries := by
  have h' : (entries'.map Prod.fst).Nodup := (perm.map Prod.fst).nodup_iff.1 h
  have hentries : (ofList entries').entries.Perm (ofList entries).entries :=
    (entries_ofList_perm h').trans (perm.symm.trans (entries_ofList_perm h).symm)
  refine eq_of_entries (hentries.eq_of_pairwise ?_ (ofList entries').sorted (ofList entries).sorted)
  exact fun a b _ _ hab hba => (String.lt_irrefl _ (String.lt_trans hab hba)).elim

def tag? (m : Label × Json) : Option (String × String) := do pure (← m.1, ← m.2.text?)

theorem decode_object (room : Nat) (members : List (Label × Json)) :
    decode (room + 1) (.object members) = (members.mapM tag?).map ofList := by
  rw [Option.map_eq_bind]
  rfl

theorem names_entries {members : List (Label × Json)} {entries : List (String × String)}
    (h : members.mapM tag? = some entries) :
    (entries.map Prod.fst).map some = members.map Prod.fst := by
  induction members generalizing entries with
  | nil =>
    cases h
    rfl
  | cons m rest ih =>
    simp only [List.mapM_cons, Option.bind_eq_bind, Option.bind_eq_some_iff] at h
    obtain ⟨e, he, tail, htail, hentries⟩ := h
    cases hentries
    have hname : some e.1 = m.1 := by
      simp only [tag?, Option.bind_eq_bind, Option.bind_eq_some_iff] at he
      obtain ⟨name, hname, _, _, he⟩ := he
      cases he
      exact hname.symm
    rw [List.map_cons, List.map_cons, List.map_cons, ih htail, hname]

theorem decode_perm (room : Nat) (perm : members.Perm members')
    (hnodup : (members.map Prod.fst).Nodup) :
    decode (room + 1) (.object members') = decode (room + 1) (.object members) := by
  rw [decode_object, decode_object]
  cases hread : members.mapM tag? with
  | none =>
    have hread' : members'.mapM tag? = none :=
      Option.eq_none_iff_forall_ne_some.2 fun entries' h => by
        obtain ⟨entries, hentries, -⟩ := mapM_perm perm.symm h
        cases hread.symm.trans hentries
    rw [hread']
  | some entries =>
    obtain ⟨entries', hread', hperm⟩ := mapM_perm perm hread
    have hlabels : ((entries.map Prod.fst).map some).Nodup := names_entries hread ▸ hnodup
    have hnames : (entries.map Prod.fst).Nodup :=
      (List.pairwise_map.1 hlabels).imp fun hne heq => hne (congrArg some heq)
    rw [hread', Option.map_some, Option.map_some, ofList_perm hperm hnames]

theorem tolerant (room : Nat) : Tolerant .tags (decode room) := by
  constructor
  intro harmless held j j' edited
  cases room with
  | zero => exact keepIf_none.symm
  | succ room =>
    cases edited with
    | object h =>
      cases harmless with
      | true =>
        obtain ⟨perm, hnodup⟩ | ⟨hclosed, -⟩ := h
        · exact decode_perm room perm (hnodup rfl)
        · exact absurd (by decide) hclosed
      | false =>
        obtain ⟨_, _, _, hname, -⟩ := h
        cases hname
    | @member _ _ before after label value value' h =>
      -- The values of tags are texts, so what is edited was no tag to begin with.
      have hentry : tag? (label, value) = none := by cases label <;> cases h <;> rfl
      have hentry' : tag? (label, value') = none := by cases label <;> cases h <;> rfl
      simp [decode_object, List.mapM_append, List.mapM_cons, hentry, hentry']
    | item => simp [decode]

end Tags

inductive SlotsEdited (harmless : Bool) :
    List (String × Role) → List (Option Json) → List (Option Json) → Prop where
  | here {name role held value value' fields slots}
      (h : Edited (.ofBool harmless) role held value value') (hlength : slots.length = fields.length) :
      SlotsEdited harmless ((name, role) :: fields) (some value :: slots) (some value' :: slots)
  | there {field fields slots slots'} {slot : Option Json} (h : SlotsEdited harmless fields slots slots') :
      SlotsEdited harmless (field :: fields) (slot :: slots) (slot :: slots')

/-- What an edit of a record does to the values of its fields: either the edit is decided there, or the
readers of the fields have to decide it. -/
def SlotsChanged (harmless : Bool) (fields : List (String × Role))
    (before after : Option (List (Option Json))) : Prop :=
  after = keepIf harmless before ∨
    ∃ slots slots', before = some slots ∧ after = some slots' ∧ SlotsEdited harmless fields slots slots'

variable {fields : List (String × Role)}

theorem SlotsEdited.length {slots slots' : List (Option Json)}
    (h : SlotsEdited harmless fields slots slots') : slots.length = fields.length := by
  induction h with
  | here _ hlength => simp [hlength]
  | there _ ih => simp [ih]

namespace SlotsChanged

/-- A record is built from the values of its fields, and an edit that is harmless to each is harmless
to the record. -/
theorem bind {before after : Option (List (Option Json))}
    (h : SlotsChanged harmless fields before after) {build build' : List (Option Json) → Option α}
    (hsame : harmless = true → build' = build)
    (hbuild : ∀ {slots slots'}, SlotsEdited harmless fields slots slots' →
      build' slots' = keepIf harmless (build slots)) :
    after.bind build' = keepIf harmless (before.bind build) := by
  rcases h with rfl | ⟨slots, slots', rfl, rfl, h⟩
  · cases harmless with
    | false => rfl
    | true => rw [hsame rfl]; rfl
  · exact hbuild h

theorem of_eq {o : Option (List (Option Json))} (h : harmless = true) :
    SlotsChanged harmless fields o o := by
  subst h
  exact .inl rfl

theorem of_none : SlotsChanged harmless fields none none := .inl keepIf_none.symm

theorem cons {before after : Option (List (Option Json))} (h : SlotsChanged harmless fields before after)
    (field : String × Role) (slot : Option Json) :
    SlotsChanged harmless (field :: fields) (before.map (slot :: ·)) (after.map (slot :: ·)) := by
  rcases h with rfl | ⟨slots, slots', rfl, rfl, h⟩
  · left
    cases harmless <;> rfl
  · exact .inr ⟨_, _, rfl, rfl, .there h⟩

end SlotsChanged

theorem length_positional {shape : List Field} {items : List Json} {slots : List (Option Json)}
    (h : positional shape items = some slots) : slots.length = shape.length := by
  fun_induction positional shape items generalizing slots with
  | case1 => simp_all
  | case2 => cases h
  | case3 field shape _ ih =>
    obtain ⟨rest, hrest, rfl⟩ := Option.map_eq_some_iff.1 h
    simp [ih hrest]
  | case4 => cases h
  | case5 field shape item items ih =>
    obtain ⟨rest, hrest, rfl⟩ := Option.map_eq_some_iff.1 h
    simp [ih hrest]

theorem positional_edited {shape : List Field} (hshape : shape.map Field.name = fields.map Prod.fst)
    (before after : List Json)
    (h : Edited (.ofBool harmless) ((fields[before.length]?.map Prod.snd).getD .other) held j j') :
    SlotsChanged harmless fields (positional shape (before ++ j :: after))
      (positional shape (before ++ j' :: after)) := by
  induction fields generalizing shape before with
  | nil =>
    rw [List.map_nil, List.map_eq_nil_iff] at hshape
    subst hshape
    cases before <;> exact .of_none
  | cons field fields ih =>
    obtain ⟨first, shape, rfl⟩ : ∃ first rest, shape = first :: rest := by
      cases shape <;> simp_all
    have htail : shape.map Field.name = fields.map Prod.fst := by simp_all
    cases before with
    | nil =>
      simp only [List.nil_append, positional]
      cases hafter : positional shape after with
      | none => exact .of_none
      | some slots =>
        have hlength : shape.length = fields.length := by simpa using congrArg List.length htail
        exact .inr ⟨_, _, rfl, rfl, .here h ((length_positional hafter).trans hlength)⟩
    | cons item before =>
      simp only [List.cons_append, positional]
      exact (ih htail before (by simpa using h)).cons ..

theorem named_append (name : String) (before after : List (Label × Json)) :
    named name (before ++ after) = named name before ++ named name after :=
  List.filterMap_append

theorem named_cons (name : String) (m : Label × Json) (rest : List (Label × Json)) :
    named name (m :: rest) = if m.1 = some name then m.2 :: named name rest else named name rest := by
  simp only [named, List.filterMap_cons]
  split_ifs <;> rfl

theorem only?_perm (perm : members.Perm members') (name : String) :
    only? name members' = only? name members := by
  have hnamed : (named name members).Perm (named name members') := perm.filterMap _
  unfold only?
  generalize named name members = values at hnamed
  generalize named name members' = values' at hnamed
  match values, values', hnamed with
  | [], _, hnamed => rw [List.nil_perm.1 hnamed]
  | [value], _, hnamed => rw [List.singleton_perm.1 hnamed]
  | _ :: _ :: _, [], hnamed => cases hnamed.length_eq
  | _ :: _ :: _, [_], hnamed => cases hnamed.length_eq
  | _ :: _ :: _, _ :: _ :: _, _ => rfl

theorem only?_insert {name : String} {label : Label} (hne : label ≠ some name) (value : Json)
    (before after : List (Label × Json)) :
    only? name (before ++ (label, value) :: after) = only? name (before ++ after) := by
  simp only [only?, named_append, named_cons, if_neg hne]

theorem only?_self (name : String) (before after : List (Label × Json)) :
    (∀ value, only? name (before ++ (some name, value) :: after) = some (some value)) ∨
      ∀ value, only? name (before ++ (some name, value) :: after) = none := by
  simp only [only?, named_append, named_cons, if_pos]
  rcases named name before with _ | ⟨_, _ | ⟨_, _⟩⟩
  · rcases named name after with _ | ⟨_, _⟩
    · exact .inl fun _ => rfl
    · exact .inr fun _ => rfl
  · exact .inr fun _ => rfl
  · exact .inr fun _ => rfl

theorem only?_repeated {name : String} {before after : List (Label × Json)}
    (h : some name ∈ (before ++ after).map Prod.fst) (value : Json) :
    only? name (before ++ (some name, value) :: after) = none := by
  have hnamed : named name (before ++ after) ≠ [] := by
    obtain ⟨m, hm, hname⟩ := List.mem_map.1 h
    exact List.ne_nil_of_mem (List.mem_filterMap.2 ⟨m, hm, if_pos hname⟩)
  rw [named_append] at hnamed
  simp only [only?, named_append, named_cons, if_pos]
  rcases hbefore : named name before with _ | ⟨_, _ | ⟨_, _⟩⟩
  · rw [hbefore, List.nil_append] at hnamed
    obtain ⟨_, _, hafter⟩ := List.exists_cons_of_ne_nil hnamed
    rw [hafter]
    rfl
  · rfl
  · rfl

def read? (fields : List (String × Role)) (members : List (Label × Json)) :
    Option (List (Option Json)) :=
  fields.mapM fun field => only? field.1 members

theorem keyed_object {shape : List Field} (hshape : shape.map Field.name = fields.map Prod.fst) :
    keyed shape (.object members) =
      if members.any fun m => m.1.isNone then none else read? fields members := by
  have hnamed := congrArg (List.mapM fun name => only? name members) hshape
  rw [List.mapM_map, List.mapM_map] at hnamed
  exact congrArg (ite _ none) hnamed

theorem read?_cons (field : String × Role) :
    read? (field :: fields) members =
      (only? field.1 members).bind fun slot => (read? fields members).map (slot :: ·) := by
  simp only [read?, List.mapM_cons, Option.map_eq_bind]
  rfl

theorem length_read? {slots : List (Option Json)} (h : read? fields members = some slots) :
    slots.length = fields.length := by
  induction fields generalizing slots with
  | nil =>
    cases h
    rfl
  | cons field fields ih =>
    rw [read?_cons] at h
    obtain ⟨slot, -, h⟩ := Option.bind_eq_some_iff.1 h
    obtain ⟨rest, hrest, rfl⟩ := Option.map_eq_some_iff.1 h
    simp [ih hrest]

theorem read?_congr (h : ∀ name ∈ fields.map Prod.fst, only? name members' = only? name members) :
    read? fields members' = read? fields members := by
  induction fields with
  | nil => rfl
  | cons field fields ih =>
    rw [List.map_cons, List.forall_mem_cons] at h
    rw [read?_cons, read?_cons, h.1, ih h.2]

theorem read?_repeated {name : String} (hname : name ∈ fields.map Prod.fst)
    (h : only? name members = none) : read? fields members = none := by
  induction fields with
  | nil => cases hname
  | cons field fields ih =>
    rw [read?_cons]
    rcases List.mem_cons.1 hname with rfl | hname
    · rw [h]
      rfl
    · rw [ih hname]
      cases only? field.1 members <;> rfl

theorem read?_edited (hnodup : (fields.map Prod.fst).Nodup) (name : String)
    (before after : List (Label × Json))
    (h : Edited (.ofBool harmless) ((fields.lookup name).getD .other) held j j') :
    SlotsChanged harmless fields (read? fields (before ++ (some name, j) :: after))
      (read? fields (before ++ (some name, j') :: after)) := by
  induction fields with
  | nil => exact .of_eq h.harmless_of_other
  | cons field fields ih =>
    obtain ⟨first, role⟩ := field
    obtain ⟨hfirst, hrest⟩ := List.nodup_cons.1 hnodup
    rw [read?_cons, read?_cons]
    by_cases hname : name = first
    · subst hname
      have htail : read? fields (before ++ (some name, j') :: after) =
          read? fields (before ++ (some name, j) :: after) :=
        read?_congr fun other hother => by
          have hne : some name ≠ some other := by
            rintro ⟨⟩
            exact hfirst hother
          rw [only?_insert hne, only?_insert hne]
      rw [htail]
      rcases only?_self name before after with hself | hself
      · simp only [hself, Option.bind_some]
        cases hread : read? fields (before ++ (some name, j) :: after) with
        | none => exact .of_none
        | some slots => exact .inr ⟨_, _, rfl, rfl, .here (by simpa using h) (length_read? hread)⟩
      · simp only [hself, Option.bind_none]
        exact .of_none
    · have hne : some name ≠ some first := fun heq => hname (Option.some.inj heq)
      rw [only?_insert hne, only?_insert hne]
      cases only? first (before ++ after) with
      | none => exact .of_none
      | some slot =>
        refine (ih hrest ?_).cons ..
        rwa [List.lookup_cons, beq_eq_false_iff_ne.2 hname] at h

theorem any_isNone_insert (label : Label) (value value' : Json) (before after : List (Label × Json)) :
    ((before ++ (label, value) :: after).any fun m => m.1.isNone) =
      (before ++ (label, value') :: after).any fun m => m.1.isNone := by
  simp

theorem keyed_of_edit {shape : List Field} (hshape : shape.map Field.name = role.names)
    (h : Edit.ofBool harmless role held members members') :
    keyed shape (.object members') = keepIf harmless (keyed shape (.object members)) := by
  rw [keyed_object hshape, keyed_object hshape]
  match harmless, h with
  | true, .inl ⟨perm, _⟩ =>
    rw [← perm.any_eq, read?_congr fun name _ => only?_perm perm name]
    rfl
  | true, .inr ⟨_, name, value, inserted, hname, _⟩ =>
    obtain ⟨before, after, rfl, rfl, -⟩ := inserted
    have hlabels : ((before ++ (some name, value) :: after).any fun m => m.1.isNone) =
        (before ++ after).any fun m => m.1.isNone := by simp
    rw [hlabels, read?_congr fun other hother => only?_insert (by rintro ⟨⟩; exact hname hother) ..]
    rfl
  | false, ⟨name, value, inserted, hname, hmem⟩ =>
    obtain ⟨before, after, rfl, rfl, -⟩ := inserted
    rw [read?_repeated hname (only?_repeated hmem value), ite_self]
    rfl

theorem keyed_edited (shape : List Field) (hshape : shape.map Field.name = role.names)
    (h : Edited (.ofBool harmless) role held j j') :
    SlotsChanged harmless role.fields (keyed shape j) (keyed shape j') := by
  cases h with
  | object h => exact .inl (keyed_of_edit hshape h)
  | item => exact .of_none
  | @member _ _ before after label value value' h =>
    rw [keyed_object hshape, keyed_object hshape, any_isNone_insert label value value']
    split_ifs with hnone
    · exact .of_none
    · cases label with
      | none => simp at hnone
      | some name => exact read?_edited role.names_nodup name before after h

/-- Arrays have the values of a record by position, objects by name. -/
theorem slots_edited (shape : List Field) (hshape : shape.map Field.name = role.names)
    (hitem : ∀ i, role.item i = (role.fields[i]?.map Prod.snd).getD .other)
    (h : Edited (.ofBool harmless) role held j j') :
    SlotsChanged harmless role.fields (slots shape j) (slots shape j') := by
  cases h with
  | object h => exact keyed_edited shape hshape (.object h)
  | member before after h => exact keyed_edited shape hshape (.member before after h)
  | item before after h =>
    rw [hitem] at h
    exact positional_edited hshape before after h

theorem Location.tolerant (room : Nat) : Tolerant .location (Location.decode room) := by
  constructor
  intro harmless held j j' edited
  cases room with
  | zero => exact keepIf_none.symm
  | succ room =>
    have hslots := slots_edited [⟨"file", false⟩, ⟨"method", false⟩, ⟨"line", false⟩] rfl
      (fun _ => rfl) edited
    refine hslots.bind (fun _ => rfl) fun {slots slots'} changed => ?_
    match slots, changed.length, changed with
    | [file, method, line], _, changed =>
      -- One case for each field that the edit can be in.
      rcases changed with h | h | h | ⟨⟨⟩⟩
      · cases harmless <;> simp [tolerant_text.optional h]
      · cases harmless <;> simp [tolerant_text.optional h]
      · cases harmless <;> simp [tolerant_uint32.optional h]

theorem Frame.tolerant (room : Nat) : Tolerant .frame (Frame.decode room) := by
  constructor
  intro harmless held j j' edited
  cases room with
  | zero => exact keepIf_none.symm
  | succ room =>
    have hslots := slots_edited [⟨"method", false⟩, ⟨"file", false⟩, ⟨"line", false⟩] rfl
      (fun _ => rfl) edited
    refine hslots.bind (fun _ => rfl) fun {slots slots'} changed => ?_
    match slots, changed.length, changed with
    | [method, file, line], _, changed =>
      rcases changed with h | h | h | ⟨⟨⟩⟩
      · cases harmless <;> simp [tolerant_text.required h]
      · cases harmless <;> simp [tolerant_text.optional h]
      · cases harmless <;> simp [tolerant_uint32.optional h]

theorem ErrorChain.tolerant (room : Nat) : Tolerant .error (ErrorChain.decode room) := by
  induction room with
  | zero => exact ⟨fun _ => keepIf_none.symm⟩
  | succ room ih =>
    constructor
    intro harmless held j j' edited
    have hframes : Tolerant .frames (list? Frame.decode room) := .list (fun _ => rfl) Frame.tolerant room
    refine (slots_edited ErrorNode.shape rfl (fun _ => rfl) edited).bind (fun _ => rfl)
      fun {slots slots'} changed => ?_
    match slots, changed.length, changed with
    | [message, kind, code, data, frames, inner], _, changed =>
      rcases changed with h | h | h | h | h | h | ⟨⟨⟩⟩
      · cases harmless <;> simp [tolerant_text.required h]
      · cases harmless <;> simp [tolerant_text.required h]
      · cases harmless <;> simp [tolerant_text.optional h]
      · cases harmless <;> simp [(Tags.tolerant room).orElse _ h]
      · cases harmless <;> simp [hframes.orElse _ h]
      · cases harmless <;> simp [ih.optional h]

theorem Event.tolerant (room : Nat) : Tolerant .event (Event.decode room) := by
  constructor
  intro harmless held j j' edited
  cases room with
  | zero => exact keepIf_none.symm
  | succ room =>
    refine (slots_edited Event.shape rfl (fun _ => rfl) edited).bind (fun _ => rfl)
      fun {slots slots'} changed => ?_
    match slots, changed.length, changed with
    | [message, level, timestamp, thread, location, error, tags], _, changed =>
      rcases changed with h | h | h | h | h | h | h | ⟨⟨⟩⟩
      · cases harmless <;> simp [tolerant_text.optional h]
      · cases harmless <;> simp [(Level.tolerant room).required h]
      · cases harmless <;> simp [tolerant_uint64.required h]
      · cases harmless <;> simp [tolerant_text.optional h]
      · cases harmless <;> simp [(Location.tolerant room).optional h]
      · cases harmless <;> simp [(ErrorChain.tolerant room).optional h]
      · cases harmless <;> simp [(Tags.tolerant room).orElse _ h]

theorem Identity.tolerant (room : Nat) : Tolerant .identity (Identity.decode room) := by
  constructor
  intro harmless held j j' edited
  cases room with
  | zero => exact keepIf_none.symm
  | succ room =>
    refine (slots_edited Identity.shape rfl (fun _ => rfl) edited).bind (fun _ => rfl)
      fun {slots slots'} changed => ?_
    match slots, changed.length, changed with
    | [deviceId, deviceAppId, appNameId, envId, appEnvId, environment], _, changed =>
      rcases changed with h | h | h | h | h | h | ⟨⟨⟩⟩
      · cases harmless <;> simp [tolerant_int64.optional h]
      · cases harmless <;> simp [tolerant_int64.optional h]
      · cases harmless <;> simp [tolerant_text.optional h]
      · cases harmless <;> simp [tolerant_int64.optional h]
      · cases harmless <;> simp [tolerant_text.optional h]
      · cases harmless <;> simp [tolerant_text.optional h]

theorem besideEventsPlain_edited {room : Nat} (h : Edited .Harmless .batch (some (room + 1)) j j') :
    besideEventsPlain room j' = besideEventsPlain room j := by
  cases h with
  | object h =>
    suffices hbeside : Edit.Harmless .batch (some (room + 1)) _ _ from membersPlain_edit hbeside
    rcases h with ⟨perm, -⟩ | ⟨hclosed, name, value, inserted, hname, hplain⟩
    · exact .inl ⟨perm.filter _, fun h => by cases h⟩
    · obtain ⟨before, after, rfl, rfl, hspelled⟩ := inserted
      have hevents : name ≠ "events" := by
        rintro rfl
        exact hname (by decide)
      refine .inr ⟨hclosed, name, value, ⟨_, _, List.filter_append .., ?_, hspelled⟩, hname, hplain⟩
      simp [hevents]
  | @member _ _ before after label value value' h =>
    by_cases hevents : label = some "events"
    · simp [besideEventsPlain, hevents]
    · have hpart : (Role.batch.member label).Inner := Role.inner_member label (.inr hevents)
      have hvalue : isPlain room value' = isPlain room value :=
        h.isPlain_eq hpart room (by rw [hpart.roomFor]; rfl)
      simp [besideEventsPlain, hevents, membersPlain_eq_all, hvalue]
  | item => rfl

theorem Batch.decode_edited {room : Nat}
    (edited : Edited (.ofBool harmless) .batch (some (room + 1)) j j') :
    Batch.decode (room + 1) j' = keepIf harmless (Batch.decode (room + 1) j) := by
  have hplain : harmless = true → besideEventsPlain room j' = besideEventsPlain room j := by
    rintro rfl
    exact besideEventsPlain_edited edited
  have hevents : Tolerant .events (list? Event.decode room) := .list (fun _ => rfl) Event.tolerant room
  refine (keyed_edited Batch.shape rfl edited).bind (fun h => by rw [hplain h])
    fun {slots slots'} changed => ?_
  match slots, changed.length, changed with
  | [appName, environment, serverName, logger, platform, identity, events], _, changed =>
    rcases changed with h | h | h | h | h | h | h | ⟨⟨⟩⟩
    · cases harmless <;> simp [hplain, tolerant_text.required h]
    · cases harmless <;> simp [hplain, tolerant_text.required h]
    · cases harmless <;> simp [hplain, tolerant_text.required h]
    · cases harmless <;> simp [hplain, tolerant_text.required h]
    · cases harmless <;> simp [hplain, tolerant_text.required h]
    · cases harmless <;> simp [hplain, (Identity.tolerant room).optional h]
    · cases harmless <;> simp [hplain, hevents.required h]

/-- After a harmless edit of the value that a text spells, it reads as it did, and after a field was
repeated it is refused. Either way there is a text for the edited value, and all such texts are alike. -/
structure Forgiving (role : Role) (held : Option Nat) (decode : Nat → Json → Option α) : Prop where
  same {text j j' value} (htext : parse text = some j) (hread : readJson decode text = some value)
    (h : Edited .Harmless role held j j') :
    j'.Spelled ∧ ∀ text', parse text' = some j' → readJson decode text' = some value
  refused {text j j'} (htext : parse text = some j) (h : Edited .Repeated role held j j') :
    j'.Spelled ∧ ∀ text', parse text' = some j' → readJson decode text' = none

theorem parse_of_spelling {text : String} (hj : j.Proper) (htext : text.toList = j.spelling) :
    parse text = some j := by
  rw [← parse_spelling hj, ← htext, String.ofList_toList]

theorem readJson_eq {decode : Nat → Json → Option α} {text : String} (htext : parse text = some j) :
    readJson decode text = decode maxDepth j := by
  rw [readJson, htext, Option.bind_some]

theorem Forgiving.of_edited {decode : Nat → Json → Option α}
    (hdecode : ∀ {harmless j j'}, Edited (.ofBool harmless) role held j j' →
      decode maxDepth j' = keepIf harmless (decode maxDepth j)) : Forgiving role held decode where
  same {_ j j' value} htext hread h := by
    have edited : Edited (.ofBool true) role held j j' := h
    refine ⟨edited.spelled ⟨_, htext⟩, fun text' htext' => ?_⟩
    have hj : decode maxDepth j = some value := (readJson_eq htext).symm.trans hread
    rw [readJson_eq htext', hdecode edited, hj]
    rfl
  refused {_ j j'} htext h := by
    have edited : Edited (.ofBool false) role held j j' := h
    refine ⟨edited.spelled ⟨_, htext⟩, fun text' htext' => ?_⟩
    rw [readJson_eq htext', hdecode edited]
    rfl

/-- The order of members and members that nobody knows make no difference to events, errors, identities
and batches, at any level of nesting, and a field that is there twice makes them unreadable. What a batch
has beside its events is held before it is read, so that additions to it have to fit. -/
theorem order_and_company_ignored :
    Forgiving .event none Event.decode ∧ Forgiving .error none ErrorChain.decode ∧
    Forgiving .identity none Identity.decode ∧ Forgiving .batch (some maxDepth) Batch.decode :=
  ⟨.of_edited (Event.tolerant _).edited, .of_edited (ErrorChain.tolerant _).edited,
    .of_edited (Identity.tolerant _).edited, .of_edited Batch.decode_edited⟩

def Event.withMore (more : List (Label × Json)) : Json :=
  .object ([(some "level", .string (some "INFO")), (some "timestamp", .number ⟨false, ['1'], [], none⟩)]
    ++ more)

theorem proper_one : (Json.number ⟨false, ['1'], [], none⟩).Proper where
  whole := .inr ⟨List.cons_ne_nil _ _, by simp, List.forall_mem_singleton.2 rfl⟩
  fraction := List.forall_mem_nil _

theorem Event.proper_withMore {more : List (Label × Json)} (h : MembersProper more) :
    (Event.withMore more).Proper := ⟨trivial, proper_one, h⟩

theorem order_and_company_ignored_in_event :
    let event : Event := { message := none, level := .info, timestamp := 1 }
    readJson Event.decode "\x7b\"level\":\"INFO\",\"timestamp\":1\x7d" = some event ∧
    readJson Event.decode "\x7b\"level\":\"INFO\",\"timestamp\":1,\"more\":[null]\x7d" = some event ∧
    readJson Event.decode "\x7b\"level\":\"INFO\",\"timestamp\":1,\"level\":null\x7d" = none := by
  obtain ⟨forgiving, -⟩ := order_and_company_ignored
  have htext : parse "\x7b\"level\":\"INFO\",\"timestamp\":1\x7d" = some (Event.withMore []) :=
    parse_of_spelling (Event.proper_withMore trivial) (by decide +kernel)
  have hread : readJson Event.decode "\x7b\"level\":\"INFO\",\"timestamp\":1\x7d" =
      some { message := none, level := .info, timestamp := 1 } := by decide +kernel
  have hmore : Edited .Harmless .event none (Event.withMore [])
      (Event.withMore [(some "more", .array [.null])]) :=
    .object (.inr ⟨by decide, "more", _, ⟨_, [], rfl, rfl, spelled_iff.2 ⟨trivial, trivial⟩⟩, by decide,
      by simp⟩)
  have hlevel : Edited .Repeated .event none (Event.withMore [])
      (Event.withMore [(some "level", .null)]) :=
    .object ⟨"level", _, ⟨_, [], rfl, rfl, spelled_iff.2 trivial⟩, by decide, by decide⟩
  have htextMore : parse "\x7b\"level\":\"INFO\",\"timestamp\":1,\"more\":[null]\x7d" =
      some (Event.withMore [(some "more", .array [.null])]) :=
    parse_of_spelling (Event.proper_withMore ⟨⟨trivial, trivial⟩, trivial⟩) (by decide +kernel)
  have htextLevel : parse "\x7b\"level\":\"INFO\",\"timestamp\":1,\"level\":null\x7d" =
      some (Event.withMore [(some "level", .null)]) :=
    parse_of_spelling (Event.proper_withMore ⟨trivial, trivial⟩) (by decide +kernel)
  exact ⟨hread, (forgiving.same htext hread hmore).2 _ htextMore,
    (forgiving.refused htext hlevel).2 _ htextLevel⟩

def Event.withLevel (more : List (Label × Json)) : Json :=
  .object [(some "level", .object ((some "INFO", .null) :: more)),
    (some "timestamp", .number ⟨false, ['1'], [], none⟩)]

theorem Event.proper_withLevel {more : List (Label × Json)} (h : MembersProper more) :
    (Event.withLevel more).Proper := ⟨⟨trivial, h⟩, proper_one, trivial⟩

/-- The object form of a level is not open to more members, other than the objects of records. -/
theorem Event.level_with_company_refused : ∃ text text' j j',
    parse text = some j ∧
    readJson Event.decode text = some { message := none, level := .info, timestamp := 1 } ∧
    Edited (.Extended [.tags]) .event none j j' ∧
    parse text' = some j' ∧ readJson Event.decode text' = none := by
  refine ⟨"\x7b\"level\":\x7b\"INFO\":null\x7d,\"timestamp\":1\x7d",
    "\x7b\"level\":\x7b\"INFO\":null,\"x\":null\x7d,\"timestamp\":1\x7d", withLevel [],
    withLevel [(some "x", .null)], parse_of_spelling (proper_withLevel trivial) (by decide +kernel),
    by decide +kernel, ?_, parse_of_spelling (proper_withLevel ⟨trivial, trivial⟩) (by decide +kernel),
    by decide +kernel⟩
  refine .member [] _ (.object ⟨by decide, "x", .null, ?_, by decide, by simp [Role.roomFor]⟩)
  exact ⟨[(some "INFO", .null)], [], rfl, rfl, spelled_iff.2 trivial⟩

end LogDelivery
