import LogDelivery.Pattern.Parser

/-!
# The size of a pattern

A pattern is refused if the automaton that reads its matches forward, or the one that reads them
backward, takes more than ten mebibytes: 32 bytes for a state, 8 for an arc and 4 for a branch. The automata
read UTF-8 byte by byte, so a class takes several states. Forward, the ends of its byte sequences are
shared; backward, their beginnings.
-/
namespace LogDelivery.Pattern

open Unicode

def maxBytes : Nat := 10 * 2 ^ 20

abbrev ByteRanges := List (Nat × Nat)

def sixBitSequences : (n : Nat) → (lo hi : Nat) → List ByteRanges
  | 0, _, _ => []
  | 1, lo, hi => [[(lo, hi)]]
  | n + 1, lo, hi =>
    let m := 64 ^ n
    let a := lo / m
    let b := hi / m
    if a = b then (sixBitSequences n (lo % m) (hi % m)).map ((a, a) :: ·)
    else
      let first := if lo % m = 0 then [] else (sixBitSequences n (lo % m) (m - 1)).map ((a, a) :: ·)
      let last := if hi % m = m - 1 then [] else (sixBitSequences n 0 (hi % m)).map ((b, b) :: ·)
      let start := if lo % m = 0 then a else a + 1
      let stop := if hi % m = m - 1 then b + 1 else b
      let middle := if start < stop then [(start, stop - 1) :: List.replicate n (0, 63)] else []
      first ++ middle ++ last

/-- The byte sequences of the code points from `lo` to `hi`; first bytes of different lengths differ. -/
def byteSequences (lo hi : Nat) : List ByteRanges :=
  [(1, 0, 0x7F), (2, 0x80, 0x7FF), (3, 0x800, 0xFFFF), (4, 0x10000, 0x10FFFF)].flatMap
    fun (n, least, most) =>
      if max lo least ≤ min hi most then
        (sixBitSequences n (max lo least) (min hi most)).map fun s =>
          match s with
          | [] => []
          | (a, b) :: rest => (n * 1000 + a, n * 1000 + b) :: rest
      else []

def byFirst : List ByteRanges → List ((Nat × Nat) × List ByteRanges)
  | [] => []
  | [] :: rest => byFirst rest
  | (r :: tail) :: rest =>
    match byFirst rest with
    | (q, tails) :: groups =>
      if q = r then (q, (tail :: tails)) :: groups else (r, [tail]) :: (q, tails) :: groups
    | [] => [(r, [tail])]

/-- The states that share the beginnings of sequences of at most `n` bytes. -/
def sharedBeginnings : (n : Nat) → List ByteRanges → Nat
  | 0, _ => 0
  | n + 1, seqs => (byFirst seqs).foldl (fun k g => k + 1 + sharedBeginnings n g.2) 0

abbrev Arcs := List ((Nat × Nat) × Nat)

def numbered (arcs : Arcs) (states : List Arcs) : Nat × List Arcs :=
  match states.findIdx? (· == arcs) with
  | some i => (i + 1, states)
  | none => (states.length + 1, states ++ [arcs])

/-- The state that reads sequences of at most `n` bytes, and all states; state 0 is behind their ends. -/
def sharedEnds : (n : Nat) → List ByteRanges → List Arcs → Nat × List Arcs
  | 0, _, states => (0, states)
  | n + 1, seqs, states =>
    match byFirst seqs with
    | [] => (0, states)
    | groups =>
      let (arcs, states) := groups.foldl
        (fun (arcs, states) g =>
          let (i, states) := sharedEnds n g.2 states
          (arcs ++ [(g.1, i)], states))
        (([] : Arcs), states)
      numbered arcs states

def classBytes (backward : Bool) (s : CodeSet) : Nat :=
  let s := s.inter .all
  match s.ranges with
  | [(a, b)] =>
    if a = b then 32 * (if a < 0x80 then 1 else if a < 0x800 then 2 else if a < 0x10000 then 3 else 4)
    else general s
  | _ => general s
where
  general (s : CodeSet) : Nat :=
    if s.ranges.all fun r => r.2 < 0x80 then 64 + 8 * s.ranges.length
    else
      let seqs := s.ranges.flatMap fun r => byteSequences r.1 r.2
      if backward then 32 * (2 + sharedBeginnings 4 seqs) + 4 * seqs.length
      else 32 + (sharedEnds 4 seqs []).2.foldl (fun k arcs => k + 32 + 8 * arcs.length) 0

def canBeEmpty : Pattern → Bool
  | .nothing | .look _ | .opt .. | .upTo .. => true
  | .one _ => false
  | .seq a b => a.canBeEmpty && b.canBeEmpty
  | .either a b => a.canBeEmpty || b.canBeEmpty
  | .group p | .many _ p => p.canBeEmpty
  | .times n p => n == 0 || p.canBeEmpty

/-- The bytes that a pattern takes; `more` when it continues a list of alternatives. -/
def bytes (backward : Bool) : Pattern → (more : Bool) → Nat
  | .nothing, _ => 32
  | .one s, _ => classBytes backward s
  | .look _, _ => 32
  | .seq a b, _ => bytes backward a false + bytes backward b false
  | .either a b, more =>
    (if more then 0 else 64 + 4) + bytes backward a false + 4 + bytes backward b true
  | .group p, _ => bytes backward p false + if backward then 0 else 64
  | .opt _ (.many _ p), _ => bytes backward p false + if p.canBeEmpty then 112 else 40
  | .opt _ p, _ => bytes backward p false + 72
  | .times n p, _ => n * bytes backward p false
  | .upTo n _ p, _ => 32 + n * (bytes backward p false + 40)
  | .many _ p, _ => bytes backward p false + 40

/-- Beside the pattern, the forward automaton has states that skip to a match and mark it. -/
def fits (p : Pattern) : Bool :=
  bytes false p false + 208 ≤ maxBytes && bytes true p false + 32 ≤ maxBytes

inductive Fault where
  | unreadable
  | tooLarge
  deriving DecidableEq, Repr

def Fault.message : Fault → String
  | .unreadable => "regex parse error:"
  | .tooLarge => "Compiled regex exceeds size limit of " ++ toString maxBytes ++ " bytes."

def compile (text : String) : Except Fault Pattern :=
  match read? text with
  | none => .error .unreadable
  | some p => if p.fits then .ok p else .error .tooLarge

end LogDelivery.Pattern
