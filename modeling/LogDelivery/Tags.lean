/-!
# Tags

Texts under names, sorted by name, each name once. The order of names is that of their characters,
which is also the order of their UTF-8 bytes.
-/
namespace LogDelivery

/-- Texts under ascending names. -/
structure Tags where
  entries : List (String × String)
  sorted : entries.Pairwise fun a b => a.1 < b.1
  deriving DecidableEq

namespace Tags

def empty : Tags := ⟨[], .nil⟩

instance : Inhabited Tags := ⟨empty⟩

def isEmpty (t : Tags) : Bool := t.entries.isEmpty

def insertEntry (name value : String) : List (String × String) → List (String × String)
  | [] => [(name, value)]
  | (other, old) :: rest =>
    if name = other then (name, value) :: rest
    else if name < other then (name, value) :: (other, old) :: rest
    else (other, old) :: insertEntry name value rest

theorem mem_insertEntry {name value : String} {entries : List (String × String)} {e}
    (h : e ∈ insertEntry name value entries) : e = (name, value) ∨ e ∈ entries := by
  fun_induction insertEntry name value entries <;> grind

theorem sorted_insertEntry {name value : String} {entries : List (String × String)}
    (h : entries.Pairwise fun a b => a.1 < b.1) :
    (insertEntry name value entries).Pairwise fun a b => a.1 < b.1 := by
  fun_induction insertEntry name value entries with
  | case1 => simp
  | case2 old rest => simpa using h
  | case3 other old rest _ lt =>
    refine List.pairwise_cons.2 ⟨fun e he => ?_, h⟩
    rcases List.mem_cons.1 he with rfl | he
    · exact lt
    · exact String.lt_trans lt ((List.pairwise_cons.1 h).1 e he)
  | case4 other old rest ne not_lt ih =>
    obtain ⟨first, tail⟩ := List.pairwise_cons.1 h
    refine List.pairwise_cons.2 ⟨fun e he => ?_, ih tail⟩
    rcases mem_insertEntry he with rfl | he
    · exact Std.lt_of_le_of_ne (String.not_lt.1 not_lt) (Ne.symm ne)
    · exact first e he

def insert (t : Tags) (name value : String) : Tags :=
  ⟨insertEntry name value t.entries, sorted_insertEntry t.sorted⟩

/-- The tags that entries give in order: the last value of a name counts. -/
def ofList (entries : List (String × String)) : Tags :=
  entries.foldl (fun t e => t.insert e.1 e.2) empty

def mapValues (f : String → String) (t : Tags) : Tags where
  entries := t.entries.map fun e => (e.1, f e.2)
  sorted := List.pairwise_map.2 t.sorted

end Tags
end LogDelivery
