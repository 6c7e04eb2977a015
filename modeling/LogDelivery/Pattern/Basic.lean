import LogDelivery.Text.Basic
import LogDelivery.Unicode.Property

/-!
# Patterns

What a regular expression means. A match is found from its start: `ends` lists the places where it can
end, the preferred one first, each place once. The search takes the leftmost start and the preferred
end; the next search begins where the last match ended, and an empty match does not stand there.
-/
namespace LogDelivery

open Unicode

inductive Look where
  | textStart | textEnd
  | lineStart | lineEnd
  /-- of lines that end in a line feed, a carriage return or both -/
  | anyLineStart | anyLineEnd
  | boundary (unicode : Bool)
  | noBoundary (unicode : Bool)
  | wordStart (unicode : Bool)
  | wordEnd (unicode : Bool)
  | noWordBefore (unicode : Bool)
  | noWordAfter (unicode : Bool)
  deriving DecidableEq, Repr

namespace Look

def before? (text : Array Char) (i : Nat) : Option Char := if i = 0 then none else text[i - 1]?

def isLetter (unicode : Bool) : Option Char → Bool
  | none => false
  | some c => if unicode then isWord c else isAsciiWord c

def holds (text : Array Char) (i : Nat) (l : Look) : Bool :=
  let before := before? text i
  let after := text[i]?
  match l with
  | .textStart => before.isNone
  | .textEnd => after.isNone
  | .lineStart => before.isNone || before == some '\n'
  | .lineEnd => after.isNone || after == some '\n'
  | .anyLineStart => before.isNone || before == some '\n' || (before == some '\r' && after != some '\n')
  | .anyLineEnd => after.isNone || after == some '\r' || (after == some '\n' && before != some '\r')
  | .boundary u => isLetter u before != isLetter u after
  | .noBoundary u => isLetter u before == isLetter u after
  | .wordStart u => !isLetter u before && isLetter u after
  | .wordEnd u => isLetter u before && !isLetter u after
  | .noWordBefore u => !isLetter u before
  | .noWordAfter u => !isLetter u after

end Look

inductive Pattern where
  | nothing
  | one (s : CodeSet)
  | look (l : Look)
  | seq (a b : Pattern)
  /-- the first alternative is preferred -/
  | either (a b : Pattern)
  | group (p : Pattern)
  /-- at most once; greedy prefers once -/
  | opt (greedy : Bool) (p : Pattern)
  | times (n : Nat) (p : Pattern)
  | upTo (n : Nat) (greedy : Bool) (p : Pattern)
  | many (greedy : Bool) (p : Pattern)
  deriving DecidableEq, Repr

namespace Pattern

/-- The places of a list, each where it first occurs, less those of the set `seen`, whose bits stand for
places. -/
def distinct (seen : Nat) : List Nat → List Nat
  | [] => []
  | p :: rest =>
    if seen.testBit p then distinct seen rest else p :: distinct (seen ||| (1 <<< p)) rest

def repeatStep (step : Nat → List Nat) : (n : Nat) → List Nat → List Nat
  | 0, places => places
  | _ + 1, [] => []
  | n + 1, places => repeatStep step n (distinct 0 (places.flatMap step))

/-- Where at most `n` steps in a row lead from some places. A place that is reached twice with the same
number of steps left counts once; `seen` holds such places from which there was a choice. -/
def limitedWalk (step : Nat → List Nat) (greedy : Bool) :
    (n : Nat) → List Nat → (seen : List (Nat × Nat)) → List Nat × List (Nat × Nat)
  | _, [], seen => ([], seen)
  | 0, places, seen => (places, seen)
  | n + 1, p :: rest, seen =>
    if seen.contains (n, p) then limitedWalk step greedy (n + 1) rest seen
    else
      let next := step p
      let seen := if next.length ≤ 1 then seen else (n, p) :: seen
      let (inner, seen) := limitedWalk step greedy n next seen
      let (others, seen) := limitedWalk step greedy (n + 1) rest seen
      (if greedy then inner ++ p :: others else p :: inner ++ others, seen)
termination_by n places => (n, places.length)

/-- Where any number of steps lead from some places, each place entered once; the bits of `seen` are the
places that have been entered. -/
def walk (step : Nat → List Nat) (greedy : Bool) :
    (fuel : Nat) → List Nat → (seen : Nat) → List Nat × Nat
  | 0, _, seen => ([], seen)
  | _ + 1, [], seen => ([], seen)
  | fuel + 1, p :: rest, seen =>
    if seen.testBit p then walk step greedy fuel rest seen
    else
      let (inner, seen) := walk step greedy fuel (step p) (seen ||| (1 <<< p))
      let (others, seen) := walk step greedy fuel rest seen
      (if greedy then inner ++ p :: others else p :: inner ++ others, seen)

/-- The places where a match that starts at `i` can end, the preferred one first. -/
def ends (text : Array Char) : Pattern → (i : Nat) → List Nat
  | .nothing, i => [i]
  | .one s, i =>
    match text[i]? with
    | some c => if s.contains c.toNat then [i + 1] else []
    | none => []
  | .look l, i => if l.holds text i then [i] else []
  | .seq a b, i => distinct 0 ((ends text a i).flatMap (ends text b))
  | .either a b, i => distinct 0 (ends text a i ++ ends text b i)
  | .group p, i => ends text p i
  | .opt greedy p, i => distinct 0 (if greedy then ends text p i ++ [i] else i :: ends text p i)
  | .times n p, i => repeatStep (ends text p) n [i]
  | .upTo n greedy p, i => distinct 0 (limitedWalk (ends text p) greedy n [i] []).1
  | .many greedy p, i =>
    -- a first round that stays where it is ends the loop there
    (walk (fun q => if q = i then [] else ends text p q) greedy ((text.size + 2) ^ 2)
      (ends text p i) 0).1

def findFrom (p : Pattern) (text : Array Char) : (fuel i : Nat) → Option (Nat × Nat)
  | 0, i => (p.ends text i).head?.map fun e => (i, e)
  | fuel + 1, i =>
    match (p.ends text i).head? with
    | some e => some (i, e)
    | none => findFrom p text fuel (i + 1)

def find (p : Pattern) (text : Array Char) (i : Nat) : Option (Nat × Nat) :=
  if i ≤ text.size then findFrom p text (text.size - i) i else none

/-- The next match after one that ended at `i`: an empty one stands elsewhere. -/
def findNext (p : Pattern) (text : Array Char) (last : Option Nat) (i : Nat) : Option (Nat × Nat) :=
  match p.find text i with
  | some (s, e) => if s = e ∧ last = some e then p.find text (i + 1) else some (s, e)
  | none => none

def spansFrom (p : Pattern) (text : Array Char) : (fuel : Nat) → Option Nat → Nat → List (Nat × Nat)
  | 0, _, _ => []
  | fuel + 1, last, i =>
    match p.findNext text last i with
    | some (s, e) => (s, e) :: spansFrom p text fuel (some e) e
    | none => []

def spans (p : Pattern) (text : Array Char) : List (Nat × Nat) :=
  spansFrom p text (2 * text.size + 2) none 0

/-- The pattern without repetition: an optional part, as many times as it will go. -/
def star (greedy : Bool) (p : Pattern) : Pattern := .opt greedy (.many greedy p)

def seqs : List Pattern → Pattern
  | [] => .nothing
  | p :: rest => rest.foldl .seq p

def eithers : List Pattern → Pattern
  | [] => .nothing
  | [p] => p
  | p :: rest => .either p (eithers rest)

def isEmptyOnly : Pattern → Bool
  | .nothing | .look _ => true
  | .one _ => false
  | .seq a b | .either a b => a.isEmptyOnly && b.isEmptyOnly
  | .group p | .opt _ p | .many _ p => p.isEmptyOnly
  | .times n p | .upTo n _ p => n == 0 || p.isEmptyOnly

def repeated (lo : Nat) (hi : Option Nat) (greedy : Bool) (p : Pattern) : Pattern :=
  let (lo, hi) := if p.isEmptyOnly then (min lo 1, some ((hi.getD 1).min 1)) else (lo, hi)
  match lo, hi with
  | 0, some 0 => .nothing
  | 1, some 1 => p
  | 0, some 1 => .opt greedy p
  | 0, none => star greedy p
  | 1, none => .many greedy p
  | n, none => .seq (.times (n - 1) p) (.many greedy p)
  | n, some m =>
    if n = m then .times n p
    else if n = 0 then .upTo m greedy p
    else .seq (.times n p) (.upTo (m - n) greedy p)

end Pattern
end LogDelivery
