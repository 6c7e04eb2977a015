import LogDelivery.Json.Numeral

/-!
# Reading values out of JSON

A record is read from an object, whose members may stand in any order and may have company, or from
an array with the fields in order. A field occurs at most once. `room` counts the levels of nesting
that a value may still open.
-/
namespace LogDelivery.Json

/-- The nesting that a text may have; a level with the number 128 is refused. -/
def maxDepth : Nat := 127

/-- A field of a record, and whether an array may end before it. -/
structure Field where
  name : String
  mayEnd : Bool := false

def only? (name : String) (members : List (Label × Json)) : Option (Option Json) :=
  match named name members with
  | [] => some none
  | [value] => some (some value)
  | _ => none

def positional : List Field → List Json → Option (List (Option Json))
  | [], [] => some []
  | [], _ :: _ => none
  | field :: fields, [] =>
    if field.mayEnd then (positional fields []).map (none :: ·) else none
  | _ :: fields, item :: items => (positional fields items).map (some item :: ·)

def keyed (fields : List Field) : Json → Option (List (Option Json))
  | .object members =>
    if members.any fun m => m.1.isNone then none
    else fields.mapM fun field => only? field.name members
  | _ => none

def slots (fields : List Field) : Json → Option (List (Option Json))
  | .array items => positional fields items
  | value => keyed fields value

def text? : Json → Option String
  | .string s => s
  | _ => none

def integer? (lo hi : Int) : Json → Option Int
  | .number n => n.integer?.filter fun i => lo ≤ i ∧ i ≤ hi
  | _ => none

def uint64? (j : Json) : Option UInt64 := (integer? 0 (2 ^ 64 - 1) j).map fun i => UInt64.ofNat i.toNat

def uint32? (j : Json) : Option UInt32 := (integer? 0 (2 ^ 32 - 1) j).map fun i => UInt32.ofNat i.toNat

def int64? (j : Json) : Option Int64 := (integer? (-(2 ^ 63)) (2 ^ 63 - 1) j).map Int64.ofInt

def required (read : Json → Option α) : Option Json → Option α
  | some j => read j
  | none => none

def optional (read : Json → Option α) : Option Json → Option (Option α)
  | none => some none
  | some .null => some none
  | some j => (read j).map some

def orElse (default : α) (read : Json → Option α) : Option Json → Option α
  | some j => read j
  | none => some default

def list? (read : (room : Nat) → Json → Option α) : (room : Nat) → Json → Option (List α)
  | room + 1, .array items => items.mapM (read room)
  | _, _ => none

mutual

/-- A value that can be held as such: its strings are texts, its numbers in range, its nesting
within `room`. -/
def isPlain : (room : Nat) → Json → Bool
  | _, .null => true
  | _, .bool _ => true
  | _, .number n => n.isHeld
  | _, .string s => s.isSome
  | 0, .array _ => false
  | room + 1, .array items => arePlain room items
  | 0, .object _ => false
  | room + 1, .object members => membersPlain room members

def arePlain : (room : Nat) → List Json → Bool
  | _, [] => true
  | room, j :: rest => isPlain room j && arePlain room rest

def membersPlain : (room : Nat) → List (Label × Json) → Bool
  | _, [] => true
  | room, (label, j) :: rest => label.isSome && isPlain room j && membersPlain room rest

end

end LogDelivery.Json
