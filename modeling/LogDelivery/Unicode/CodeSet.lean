/-!
# Sets of code points

A set of code points is a list of closed ranges, ascending and apart from each other. Surrogates
are no characters: complements leave them out.
-/
namespace LogDelivery.Unicode

def hexDigit? (c : Char) : Option Nat :=
  if '0' ≤ c ∧ c ≤ '9' then some (c.toNat - 48)
  else if 'a' ≤ c ∧ c ≤ 'f' then some (c.toNat - 87)
  else if 'A' ≤ c ∧ c ≤ 'F' then some (c.toNat - 55)
  else none

def readHex (digits : String) : Nat :=
  digits.toList.foldl (fun n c => n * 16 + (hexDigit? c).getD 0) 0

def entries (table : String) : List String :=
  ((table.splitOn "\n").flatMap (·.splitOn " ")).filter (!·.isEmpty)

structure CodeSet where
  ranges : List (Nat × Nat)
  deriving DecidableEq, Repr

namespace CodeSet

def empty : CodeSet := ⟨[]⟩

def all : CodeSet := ⟨[(0, 0xD7FF), (0xE000, 0x10FFFF)]⟩

def single (c : Char) : CodeSet := ⟨[(c.toNat, c.toNat)]⟩

private def containedIn (n : Nat) : List (Nat × Nat) → Bool
  | [] => false
  | (lo, hi) :: rest => if n < lo then false else n ≤ hi || containedIn n rest

def contains (s : CodeSet) (n : Nat) : Bool := containedIn n s.ranges

private theorem exists_of_containedIn {n : Nat} {ranges : List (Nat × Nat)}
    (h : containedIn n ranges) : ∃ r ∈ ranges, r.1 ≤ n ∧ n ≤ r.2 := by
  induction ranges with
  | nil => cases h
  | cons r rest ih =>
    by_cases hlo : n < r.1
    · simp [containedIn, hlo] at h
    · by_cases hhi : n ≤ r.2
      · exact ⟨r, List.mem_cons_self .., Nat.le_of_not_lt hlo, hhi⟩
      · obtain ⟨q, hq, hin⟩ := ih (by simpa [containedIn, hlo, hhi] using h)
        exact ⟨q, List.mem_cons_of_mem _ hq, hin⟩

theorem exists_range_of_contains {s : CodeSet} {n : Nat} (h : s.contains n) :
    ∃ r ∈ s.ranges, r.1 ≤ n ∧ n ≤ r.2 :=
  exists_of_containedIn h

def isEmpty (s : CodeSet) : Bool := s.ranges.isEmpty

/-- Joins ranges, in ascending order of their first code points, that overlap or touch. -/
private def join : List (Nat × Nat) → List (Nat × Nat)
  | [] => []
  | r :: rest => go r rest
where
  go (r : Nat × Nat) : List (Nat × Nat) → List (Nat × Nat)
    | [] => [r]
    | q :: rest => if q.1 ≤ r.2 + 1 then go (r.1, max r.2 q.2) rest else r :: go q rest

def ofRanges (rs : List (Nat × Nat)) : CodeSet :=
  ⟨join ((rs.filter fun r => r.1 ≤ r.2).mergeSort fun a b => a.1 ≤ b.1)⟩

def range (lo hi : Char) : CodeSet := ofRanges [(lo.toNat, hi.toNat)]

def unions (ss : List CodeSet) : CodeSet := ofRanges (ss.flatMap (·.ranges))

def union (s t : CodeSet) : CodeSet := unions [s, t]

def inter (s t : CodeSet) : CodeSet :=
  ofRanges (s.ranges.flatMap fun a => t.ranges.map fun b => (max a.1 b.1, min a.2 b.2))

private def gaps (start : Nat) : List (Nat × Nat) → List (Nat × Nat)
  | [] => [(start, 0x10FFFF)]
  | (lo, hi) :: rest =>
    if start < lo then (start, lo - 1) :: gaps (hi + 1) rest else gaps (max start (hi + 1)) rest

def complement (s : CodeSet) : CodeSet := (ofRanges (gaps 0 s.ranges)).inter all

def diff (s t : CodeSet) : CodeSet := if t.isEmpty then s else s.inter t.complement

def symmDiff (s t : CodeSet) : CodeSet := (s.diff t).union (t.diff s)

/-- One entry of a written set: `61`, `61-7A`, or `100-12E:2` for every second code point. -/
private def readEntry (entry : String) : List (Nat × Nat) :=
  match entry.splitOn "-" with
  | [one] => [(readHex one, readHex one)]
  | [lo, hi] =>
    match hi.splitOn ":" with
    | [last, _] =>
      (List.range ((readHex last - readHex lo) / 2 + 1)).map fun i =>
        (readHex lo + 2 * i, readHex lo + 2 * i)
    | _ => [(readHex lo, readHex hi)]
  | _ => []

def read (table : String) : CodeSet := ofRanges ((entries table).flatMap readEntry)

end CodeSet
end LogDelivery.Unicode
