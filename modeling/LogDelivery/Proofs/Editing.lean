import LogDelivery.Event.Decoder
import LogDelivery.Proofs.Spelling

/-!
# Edited values

A value is edited at one object somewhere in it. Its members may change places, it may get a member that
is no field there, and it may get a field a second time. What an object is depends on the way to it: the
member `location` of an event is a location, and a member that no record knows is nothing in particular.

What a batch has beside its events is held as it stands before it is read. Held values have to be plain
and within the nesting of a text, so an addition counts there even where nobody reads it.
-/
namespace LogDelivery

open Json

/-- What a value is read as. Texts, numbers and what nobody reads have no part that is read. -/
inductive Role where
  | batch | events | event | error | frames | frame | location | identity | tags | level | other
  deriving DecidableEq

namespace Role

def fields : Role → List (String × Role)
  | .batch =>
    [("app_name", .other), ("environment", .other), ("server_name", .other), ("logger", .other),
     ("platform", .other), ("identity", .identity), ("events", .events)]
  | .event =>
    [("message", .other), ("level", .level), ("timestamp", .other), ("thread", .other),
     ("location", .location), ("error", .error), ("tags", .tags)]
  | .error =>
    [("message", .other), ("error_type", .other), ("error_type_code", .other), ("data", .tags),
     ("frames", .frames), ("inner", .error)]
  | .frame => [("method", .other), ("file", .other), ("line", .other)]
  | .location => [("file", .other), ("method", .other), ("line", .other)]
  | .identity =>
    [("device_id", .other), ("device_app_id", .other), ("app_name_id", .other), ("env_id", .other),
     ("app_env_id", .other), ("environment", .other)]
  | .events | .frames | .tags | .level | .other => []

def names (role : Role) : List String := role.fields.map Prod.fst

def member (role : Role) : Label → Role
  | some name => (role.fields.lookup name).getD .other
  | none => .other

def item (role : Role) (i : Nat) : Role :=
  match role with
  | .events => .event
  | .frames => .frame
  | record => (record.fields[i]?.map Prod.snd).getD .other

/-- The nesting that a part of a value may have, where the value is held as such before it is read. The
events of a batch are read at once, and so nothing in them is held. -/
def roomFor (part : Role) (held : Option Nat) : Option Nat :=
  if part = .events then none else held.map (· - 1)

theorem names_nodup (role : Role) : role.names.Nodup := by
  cases role <;> decide

theorem member_mem (role : Role) (name : String) :
    role.member (some name) = .other ∨ (name, role.member (some name)) ∈ role.fields := by
  rw [member]
  cases hlookup : role.fields.lookup name with
  | none => exact .inl rfl
  | some part =>
    obtain ⟨before, after, hfields, -⟩ := List.lookup_eq_some_iff.1 hlookup
    exact .inr (by simp [hfields])

def Inner (role : Role) : Prop := role ≠ .batch ∧ role ≠ .events

variable {role : Role}

theorem Inner.roomFor (h : role.Inner) (held : Option Nat) :
    role.roomFor held = held.map (· - 1) := if_neg h.2

theorem fields_inner (f : String × Role) (hf : f ∈ role.fields) (h : role ≠ .batch ∨ f.1 ≠ "events") :
    f.2.Inner := by
  revert f
  cases role <;> simp [fields, Inner]

theorem inner_member (label : Label) (h : role ≠ .batch ∨ label ≠ some "events") :
    (role.member label).Inner := by
  cases label with
  | none => simp [member, Inner]
  | some name =>
    rcases role.member_mem name with hother | hmem
    · simp [hother, Inner]
    · exact fields_inner _ hmem (h.imp_right fun hne heq => hne (congrArg some heq))

theorem inner_item (h : role.Inner) (i : Nat) : (role.item i).Inner := by
  unfold item
  split
  · simp [Inner]
  · simp [Inner]
  · cases hget : role.fields[i]? with
    | none => simp [Inner]
    | some f => exact fields_inner f (List.mem_of_getElem? hget) (.inl h.1)

end Role

abbrev Edit := Role → (held : Option Nat) → (before after : List (Label × Json)) → Prop

/-- One object in a value is edited. -/
inductive Edited (edit : Edit) : Role → Option Nat → Json → Json → Prop where
  | object {role held members members'} (h : edit role held members members') :
      Edited edit role held (.object members) (.object members')
  | member {role held} (before after : List (Label × Json)) {label value value'}
      (h : Edited edit (role.member label) ((role.member label).roomFor held) value value') :
      Edited edit role held (.object (before ++ (label, value) :: after))
        (.object (before ++ (label, value') :: after))
  | item {role held} (before after : List Json) {value value'}
      (h : Edited edit (role.item before.length) ((role.item before.length).roomFor held) value value') :
      Edited edit role held (.array (before ++ value :: after)) (.array (before ++ value' :: after))

namespace Edit

/-- The members change places. Of two tags with one name the last counts, so these have to differ. -/
def Reordered : Edit := fun role _ members members' =>
  members.Perm members' ∧ (role = .tags → (members.map Prod.fst).Nodup)

def Inserted (members : List (Label × Json)) (name : String) (value : Json)
    (members' : List (Label × Json)) : Prop :=
  ∃ before after, members = before ++ after ∧ members' = before ++ (some name, value) :: after ∧
    value.Spelled

/-- There is a member more that is no field, in an object that is open to more. In what is held, its
value has to fit. -/
def Extended (closed : List Role) : Edit := fun role held members members' =>
  role ∉ closed ∧ ∃ name value, Inserted members name value members' ∧ name ∉ role.names ∧
    ∀ room ∈ held, isPlain (room - 1) value

def Repeated : Edit := fun role _ members members' =>
  ∃ name value, Inserted members name value members' ∧ name ∈ role.names ∧
    some name ∈ members.map Prod.fst

/-- What readers do not see. Every member of tags counts, and the object form of a level has the level's
name and nothing else. -/
def Harmless : Edit := fun role held members members' =>
  Reordered role held members members' ∨ Extended [.tags, .level] role held members members'

def ofBool : (harmless : Bool) → Edit
  | true => Harmless
  | false => Repeated

end Edit

variable {role : Role} {held : Option Nat} {members members' : List (Label × Json)} {j j' : Json}
  {harmless : Bool}

namespace Edit

theorem Inserted.proper {name : String} {value : Json} (h : Inserted members name value members')
    (hproper : ∀ m ∈ members, m.2.Proper) : ∀ m ∈ members', m.2.Proper := by
  obtain ⟨before, after, rfl, rfl, hvalue⟩ := h
  rw [List.forall_mem_append] at hproper ⊢
  rw [List.forall_mem_cons]
  exact ⟨hproper.1, spelled_iff.1 hvalue, hproper.2⟩

theorem ofBool_proper (h : ofBool harmless role held members members')
    (hproper : ∀ m ∈ members, m.2.Proper) : ∀ m ∈ members', m.2.Proper := by
  match harmless, h with
  | true, .inl ⟨perm, _⟩ => exact fun m hm => hproper m (perm.mem_iff.2 hm)
  | true, .inr ⟨_, _, _, inserted, _⟩ => exact inserted.proper hproper
  | false, ⟨_, _, inserted, _⟩ => exact inserted.proper hproper

end Edit

namespace Edited

theorem proper (h : Edited (.ofBool harmless) role held j j') (hj : j.Proper) : j'.Proper := by
  induction h with
  | object h => exact membersProper_iff.2 (Edit.ofBool_proper h (membersProper_iff.1 hj))
  | member before after h ih =>
    rw [Proper, membersProper_iff, List.forall_mem_append, List.forall_mem_cons] at hj ⊢
    exact ⟨hj.1, ih hj.2.1, hj.2.2⟩
  | item before after h ih =>
    rw [Proper, itemsProper_iff, List.forall_mem_append, List.forall_mem_cons] at hj ⊢
    exact ⟨hj.1, ih hj.2.1, hj.2.2⟩

theorem spelled (h : Edited (.ofBool harmless) role held j j') (hj : j.Spelled) : j'.Spelled :=
  spelled_iff.2 (h.proper (spelled_iff.1 hj))

theorem harmless_of_other (h : Edited (.ofBool harmless) .other held j j') : harmless = true := by
  generalize hrole : Role.other = role at h
  induction h with
  | object h =>
    subst hrole
    match harmless, h with
    | true, _ => rfl
    | false, ⟨name, _, _, hname, _⟩ => cases hname
  | @member _ _ _ _ label _ _ h ih =>
    subst hrole
    exact ih (by cases label <;> rfl)
  | item before after h ih =>
    subst hrole
    exact ih rfl

end Edited

theorem membersPlain_eq_all (room : Nat) (members : List (Label × Json)) :
    membersPlain room members = members.all fun m => m.1.isSome && isPlain room m.2 := by
  induction members with
  | nil => rfl
  | cons m rest ih => simp [membersPlain, ih]

theorem arePlain_eq_all (room : Nat) (items : List Json) :
    arePlain room items = items.all (isPlain room) := by
  induction items with
  | nil => rfl
  | cons j rest ih => simp [arePlain, ih]

/-- A harmless edit of an object that can be held leaves one that can be held. -/
theorem membersPlain_edit {room : Nat} (h : Edit.Harmless role (some (room + 1)) members members') :
    membersPlain room members' = membersPlain room members := by
  rw [membersPlain_eq_all, membersPlain_eq_all]
  rcases h with ⟨perm, -⟩ | ⟨-, name, value, ⟨before, after, rfl, rfl, -⟩, -, hplain⟩
  · exact perm.symm.all_eq
  · have hvalue : isPlain room value := hplain (room + 1) rfl
    simp [hvalue]

theorem Edited.isPlain_eq (h : Edited .Harmless role held j j') (hrole : role.Inner) :
    ∀ room ∈ held, isPlain room j' = isPlain room j := by
  induction h with
  | object h =>
    rintro (- | room) rfl
    · rfl
    · exact membersPlain_edit h
  | @member role held before after label value value' h ih =>
    rintro (- | room) hroom
    · rfl
    · have hpart := Role.inner_member label (.inl hrole.1)
      have hvalue := ih hpart room (by rw [hpart.roomFor, Option.mem_def.1 hroom]; rfl)
      simp [isPlain, membersPlain_eq_all, hvalue]
  | @item role held before after value value' h ih =>
    rintro (- | room) hroom
    · rfl
    · have hpart := Role.inner_item hrole before.length
      have hvalue := ih hpart room (by rw [hpart.roomFor, Option.mem_def.1 hroom]; rfl)
      simp [isPlain, arePlain_eq_all, hvalue]

end LogDelivery
