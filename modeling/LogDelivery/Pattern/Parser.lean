import LogDelivery.Pattern.Class
import LogDelivery.Text.Basic

/-!
# Reading patterns

The written form of patterns: literals, classes with set operations, groups with flags, counted
repetition, and conditions on places. There are no look-around groups and no back references. A pattern
that could match a part of a character is refused, and so is one nested too deep.
-/
namespace LogDelivery.Pattern

open Unicode

structure Flags where
  ignoreCase : Bool := false
  multiLine : Bool := false
  dotAll : Bool := false
  swapGreed : Bool := false
  unicode : Bool := true
  anyLineEnd : Bool := false
  verbose : Bool := false

def maxNesting : Nat := 250

def skipSpace : (comment : Bool) → List Char → List Char
  | _, [] => []
  | true, c :: rest => skipSpace (c != '\n') rest
  | false, c :: rest =>
    if Text.isBlank c then skipSpace false rest
    else if c = '#' then skipSpace true rest
    else c :: rest

namespace Flags

def skip (f : Flags) (cs : List Char) : List Char := if f.verbose then skipSpace false cs else cs

def set? (f : Flags) (on : Bool) : Char → Option Flags
  | 'i' => some { f with ignoreCase := on }
  | 'm' => some { f with multiLine := on }
  | 's' => some { f with dotAll := on }
  | 'U' => some { f with swapGreed := on }
  | 'u' => some { f with unicode := on }
  | 'R' => some { f with anyLineEnd := on }
  | 'x' => some { f with verbose := on }
  | _ => none

end Flags

/-- An escape sequence, a literal or a class, before the flags are applied to it. -/
inductive Atom where
  /-- a character; `byte` when it was written with two hexadecimal digits -/
  | literal (c : Char) (byte : Bool)
  | classOf (s : CodeSet)
  | condition (l : Look)

def isMeta (c : Char) : Bool := "\\.+*?()|[]\x7b\x7d^$#&-~".toList.contains c

def isEscapable (c : Char) : Bool :=
  isMeta c || (c.toNat < 128 && !c.isAlphanum && c != '<' && c != '>')

def charOfCode? (n : Nat) : Option Char := if h : n.isValidChar then some (Char.ofNatAux n h) else none

def readHexDigits (f : Flags) : (n : Nat) → (value : Nat) → List Char → Option (Nat × List Char)
  | 0, value, cs => some (value, cs)
  | n + 1, value, cs =>
    match f.skip cs with
    | c :: rest => do readHexDigits f n (value * 16 + (← hexDigit? c)) rest
    | [] => none

def readName (f : Flags) : (fuel : Nat) → List Char → Option (List Char × List Char)
  | 0, _ => none
  | fuel + 1, cs =>
    match f.skip cs with
    | [] => none
    | c :: rest =>
      if c = '\x7d' then some ([], rest)
      else (readName f fuel rest).map fun (name, rest) => (c :: name, rest)

def readCode (f : Flags) (digits : Nat) (cs : List Char) : Option (Atom × List Char) := do
  match f.skip cs with
  | '\x7b' :: rest =>
    let (name, rest) ← readName f (rest.length + 1) rest
    if name.isEmpty then none
    let (n, _) ← readHexDigits {} name.length 0 name
    pure (.literal (← charOfCode? n) false, f.skip rest)
  | rest =>
    let (n, rest) ← readHexDigits f digits 0 rest
    pure (.literal (← charOfCode? n) (digits == 2), f.skip rest)

def cutAt (mark : List Char) : List Char → Option (List Char × List Char)
  | [] => none
  | c :: rest =>
    if mark.isPrefixOf (c :: rest) then some ([], (c :: rest).drop mark.length)
    else (cutAt mark rest).map fun (a, b) => (c :: a, b)

def classByName? (name : List Char) : Option (CodeSet × Bool) :=
  let value := fun (p : List Char × List Char) => valueClass? (String.ofList p.1) (String.ofList p.2)
  match cutAt ['!', '='] name, cutAt [':'] name, cutAt ['='] name with
  | some p, _, _ => (value p).map fun s => (s, true)
  | none, some p, _ => (value p).map fun s => (s, false)
  | none, none, some p => (value p).map fun s => (s, false)
  | none, none, none => (namedClass? (String.ofList name)).map fun s => (s, false)

/-- A class under the flags: closed under case if that is ignored, then complemented if it is meant to
be. -/
def finishClass (f : Flags) (negated : Bool) (s : CodeSet) : Option CodeSet :=
  if f.unicode then
    let s := if f.ignoreCase then s.closeCase else s
    some (if negated then s.complement else s)
  else if negated || s.ranges.any fun r => 0x7F < r.2 then none
  else if f.ignoreCase then
    some (s.closeCase.inter (.ofRanges [(0, 0x7F)]))
  else some s

def readProperty (f : Flags) (negated : Bool) (cs : List Char) : Option (Atom × List Char) := do
  if !f.unicode then none
  match f.skip cs with
  | [] => none
  | '\x7b' :: rest =>
    let (name, rest) ← readName f (rest.length + 1) rest
    let (s, complemented) ← classByName? name
    pure (.classOf (← finishClass f (negated != complemented) s), rest)
  | c :: rest =>
    if c = '\\' then none
    let s ← namedClass? (String.ofList [c])
    pure (.classOf (← finishClass f negated s), f.skip rest)

/-- The special boundary that may follow `\b` between braces: `none` is a mistake, and `some none` means
that there is none and a count is left to read. -/
def readBoundary (f : Flags) (cs : List Char) : Option (Option (Look × List Char)) :=
  let isNameChar := fun c : Char => c.isAlpha || c == '-'
  match f.skip cs with
  | [] => none
  | c :: rest =>
    if !isNameChar c then some none
    else
      match readName f (rest.length + 2) (c :: rest) with
      | none => none
      | some (name, rest) =>
        match String.ofList name with
        | "start" => some (some (.wordStart f.unicode, rest))
        | "end" => some (some (.wordEnd f.unicode, rest))
        | "start-half" => some (some (.noWordBefore f.unicode, rest))
        | "end-half" => some (some (.noWordAfter f.unicode, rest))
        | _ => none

def readEscape (f : Flags) : List Char → Option (Atom × List Char)
  | [] => none
  | c :: rest =>
    if c = 'x' then readCode f 2 rest
    else if c = 'u' then readCode f 4 rest
    else if c = 'U' then readCode f 8 rest
    else if c = 'p' then readProperty f false rest
    else if c = 'P' then readProperty f true rest
    else if isEscapable c then some (.literal c false, rest)
    else match letterClass f.unicode c with
      | some s =>
        if c.isLower then some (.classOf s, rest)
        else if f.unicode then some (.classOf s.complement, rest)
        else none
      | none =>
        match c with
        | 'a' => some (.literal '\x07' false, rest)
        | 'f' => some (.literal '\x0c' false, rest)
        | 't' => some (.literal '\t' false, rest)
        | 'n' => some (.literal '\n' false, rest)
        | 'r' => some (.literal '\r' false, rest)
        | 'v' => some (.literal '\x0b' false, rest)
        | 'A' => some (.condition .textStart, rest)
        | 'z' => some (.condition .textEnd, rest)
        | 'B' => some (.condition (.noBoundary f.unicode), rest)
        | '<' => some (.condition (.wordStart f.unicode), rest)
        | '>' => some (.condition (.wordEnd f.unicode), rest)
        | 'b' =>
          match rest with
          | '\x7b' :: inner =>
            match readBoundary f inner with
            | none => none
            | some none => some (.condition (.boundary f.unicode), rest)
            | some (some (l, rest)) => some (.condition l, rest)
          | _ => some (.condition (.boundary f.unicode), rest)
        | _ => none

def literalSet (f : Flags) (c : Char) (byte : Bool) : Option CodeSet :=
  if f.unicode then some (if f.ignoreCase then (CodeSet.single c).closeCase else .single c)
  else if byte && 0x7F < c.toNat then none
  else if f.ignoreCase && c.toNat < 128 then
    some ((CodeSet.single c).closeCase.inter (.ofRanges [(0, 0x7F)]))
  else some (.single c)

inductive SetOp where
  | intersection | difference | symmetricDifference

/-- A union of items in a class: the characters so far, the number of items, and their nesting. -/
structure ItemUnion where
  set : CodeSet := .empty
  items : Nat := 0
  depth : Nat := 0

namespace ItemUnion

def add (u : ItemUnion) (s : CodeSet) (depth : Nat) : ItemUnion :=
  ⟨u.set.union s, u.items + 1, max u.depth depth⟩

def nesting (u : ItemUnion) : Nat := if 2 ≤ u.items then u.depth + 1 else u.depth

end ItemUnion

/-- What is open while a class is read: a bracket, after the items before it, or the left side of an
operation. -/
inductive ClassFrame where
  | bracket (before : ItemUnion) (negated : Bool)
  | operation (op : SetOp) (left : CodeSet) (depth : Nat)

def readDashes (f : Flags) : (fuel : Nat) → ItemUnion → List Char → ItemUnion × List Char
  | 0, u, cs => (u, cs)
  | fuel + 1, u, cs =>
    match cs with
    | '-' :: rest => readDashes f fuel (u.add (.single '-') 0) (f.skip rest)
    | _ => (u, cs)

/-- Reads the start of a class after its bracket: whether it is complemented, and what stands for itself
only there. -/
def openClass (f : Flags) (cs : List Char) : Bool × ItemUnion × List Char :=
  let cs := f.skip cs
  let (negated, cs) := match cs with
    | '^' :: rest => (true, f.skip rest)
    | _ => (false, cs)
  let (u, cs) := readDashes f cs.length {} cs
  match cs with
  | ']' :: rest => if u.items = 0 then (negated, u.add (.single ']') 0, f.skip rest) else (negated, u, cs)
  | _ => (negated, u, cs)

def readAsciiClass (cs : List Char) : Option (CodeSet × Bool × List Char) :=
  match cs with
  | ':' :: rest =>
    let (negated, rest) := match rest with
      | '^' :: rest => (true, rest)
      | _ => (false, rest)
    let name := rest.takeWhile (· != ':')
    match rest.dropWhile (· != ':') with
    | ':' :: ']' :: rest => (asciiClass? (String.ofList name)).map fun s => (s, negated, rest)
    | _ => none
  | _ => none

def readItem (f : Flags) : List Char → Option (Atom × List Char)
  | [] => none
  | '\\' :: rest => readEscape f rest
  | c :: rest => some (.literal c false, rest)

/-- A character in a class. Where text is bytes, it has to be ASCII. -/
def itemChar (f : Flags) : Atom → Option Char
  | .literal c _ => if f.unicode || c.toNat < 128 then some c else none
  | _ => none

def readRange (f : Flags) (cs : List Char) : Option (CodeSet × List Char) := do
  let (first, rest) ← readItem f cs
  let single : Option CodeSet :=
    match first with
    | .literal .. => (itemChar f first).map .single
    | .classOf s => some s
    | .condition _ => none
  match f.skip rest with
  | [] => none
  | '-' :: after =>
    let next := (f.skip after).head?
    if next = some ']' ∨ next = some '-' then pure (← single, '-' :: after)
    else
      let (last, rest) ← readItem f (f.skip after)
      let lo ← itemChar f first
      let hi ← itemChar f last
      if hi < lo then none else pure (.range lo hi, rest)
  | rest => pure (← single, rest)

def closeOperation (f : Flags) (right : CodeSet) (depth : Nat) :
    List ClassFrame → CodeSet × Nat × List ClassFrame
  | .operation op left leftDepth :: stack =>
    let fold := fun s : CodeSet =>
      if !f.ignoreCase then s
      else if f.unicode then s.closeCase else s.closeCase.inter (.ofRanges [(0, 0x7F)])
    let left := fold left
    let right := fold right
    let s := match op with
      | .intersection => left.inter right
      | .difference => left.diff right
      | .symmetricDifference => left.symmDiff right
    (s, max depth leftDepth + 1, stack)
  | stack => (right, depth, stack)

def readClass (f : Flags) :
    (fuel : Nat) → ItemUnion → List ClassFrame → List Char → Option (CodeSet × Nat × List Char)
  | 0, _, _, _ => none
  | fuel + 1, u, stack, cs =>
    let operation := fun (op : SetOp) (rest : List Char) =>
      let (left, depth, stack) := closeOperation f u.set u.nesting stack
      readClass f fuel {} (.operation op left depth :: stack) rest
    match f.skip cs with
    | [] => none
    | '[' :: rest =>
      match readAsciiClass rest with
      | some (s, negated, rest) =>
        match finishClass f negated s with
        | some s => readClass f fuel (u.add s 0) stack rest
        | none => none
      | none =>
        let (negated, inner, rest) := openClass f rest
        readClass f fuel inner (.bracket u negated :: stack) rest
    | ']' :: rest =>
      match closeOperation f u.set u.nesting stack with
      | (s, depth, .bracket before negated :: stack) =>
        match finishClass f negated s with
        | none => none
        | some s =>
          if stack.isEmpty then some (s, depth + 1, rest)
          else readClass f fuel (before.add s (depth + 1)) stack rest
      | _ => none
    | '&' :: '&' :: rest => operation .intersection rest
    | '-' :: '-' :: rest => operation .difference rest
    | '~' :: '~' :: rest => operation .symmetricDifference rest
    | cs =>
      match readRange f cs with
      | some (s, rest) => readClass f fuel (u.add s 0) stack rest
      | none => none

structure Piece where
  pattern : Pattern
  depth : Nat
  repeatable : Bool := true

/-- An open group: what stood before it, and what closing it restores. -/
structure GroupFrame where
  items : List Piece
  branches : List Piece
  flags : Flags
  captured : Bool

/-- What has been read of a pattern. Items and branches are kept the last one first. -/
structure Progress where
  rest : List Char
  flags : Flags := {}
  names : List (List Char) := []
  items : List Piece := []
  branches : List Piece := []
  groups : List GroupFrame := []

namespace Progress

def branch (s : Progress) : Piece :=
  match s.items with
  | [] => ⟨.nothing, 0, true⟩
  | [p] => ⟨p.pattern, p.depth, true⟩
  | items =>
    ⟨.seqs (items.reverse.map (·.pattern)), items.foldl (fun d p => max d p.depth) 0 + 1, true⟩

def alternatives (s : Progress) : Piece :=
  if s.branches.isEmpty then s.branch
  else
    let all := (s.branch :: s.branches).reverse
    ⟨.eithers (all.map (·.pattern)), all.foldl (fun d p => max d p.depth) 0 + 1, true⟩

def push (s : Progress) (p : Piece) (rest : List Char) : Progress :=
  { s with items := p :: s.items, rest }

def nextBranch (s : Progress) (rest : List Char) : Progress :=
  { s with items := [], branches := s.branch :: s.branches, rest }

def openGroup (s : Progress) (flags : Flags) (captured : Bool) (rest : List Char) : Progress :=
  { s with
    items := [], branches := [], flags, rest
    groups := ⟨s.items, s.branches, s.flags, captured⟩ :: s.groups }

def closeGroup (s : Progress) (rest : List Char) : Option Progress :=
  match s.groups with
  | [] => none
  | g :: groups =>
    let inner := s.alternatives
    let piece : Piece :=
      ⟨if g.captured then .group inner.pattern else inner.pattern, inner.depth + 1, true⟩
    some { s with items := piece :: g.items, branches := g.branches, flags := g.flags, groups, rest }

def repeatLast (s : Progress) (lo : Nat) (hi : Option Nat) (greedy : Bool) (rest : List Char) :
    Option Progress :=
  match s.items with
  | p :: items =>
    if !p.repeatable then none
    else some { s with
      items := ⟨.repeated lo hi (greedy != s.flags.swapGreed) p.pattern, p.depth + 1, true⟩ :: items
      rest }
  | [] => none

end Progress

def readGreed : List Char → Bool × List Char
  | '?' :: rest => (false, rest)
  | rest => (true, rest)

/-- A count, with blanks around it; the count itself is absent where there are no digits. -/
def readCount (f : Flags) (cs : List Char) : Option (Option Nat × List Char) :=
  let rec digits : (fuel : Nat) → List Char → List Char × List Char
    | 0, cs => ([], cs)
    | fuel + 1, cs =>
      match cs with
      | c :: rest =>
        if c.isDigit then
          let (ds, rest) := digits fuel (f.skip rest)
          (c :: ds, rest)
        else ([], cs)
      | [] => ([], [])
  let (ds, rest) := digits cs.length (cs.dropWhile Text.isBlank)
  let rest := f.skip (rest.dropWhile Text.isBlank)
  if ds.isEmpty then some (none, rest)
  else
    let n := ds.foldl (fun n c => n * 10 + (c.toNat - 48)) 0
    if n < 2 ^ 32 then some (some n, rest) else none

def readCounts (f : Flags) (cs : List Char) : Option (Nat × Option Nat × List Char) := do
  let (lo, rest) ← readCount f (f.skip cs)
  match rest with
  | ',' :: rest =>
    match f.skip rest with
    | '\x7d' :: rest => pure (← lo, none, rest)
    | rest =>
      let lo ← lo
      let (hi, rest) ← readCount f rest
      let hi ← hi
      match rest with
      | '\x7d' :: rest => if hi < lo then none else pure (lo, some hi, rest)
      | _ => none
  | '\x7d' :: rest => pure (← lo, ← lo, rest)
  | _ => none

/-- Reads flags up to the mark that ends them; each flag, and the dash that turns flags off, stands
once. -/
def readFlags : (seen : List Char) → (on : Bool) → Flags → List Char →
    Option (Flags × List Char × Char × List Char)
  | _, _, _, [] => none
  | seen, on, f, c :: rest =>
    if c = ':' ∨ c = ')' then if seen.head? = some '-' then none else some (f, seen, c, rest)
    else if seen.contains c then none
    else if c = '-' then readFlags (c :: seen) false f rest
    else match f.set? on c with
      | some f => readFlags (c :: seen) on f rest
      | none => none

def isNameChar (first : Bool) (c : Char) : Bool :=
  c == '_' || alphabetic.contains c.toNat ||
    (!first && (c == '.' || c == '[' || c == ']' ||
      (Category.union [.nd, .nl, .no]).contains c.toNat))

def readGroupName (cs : List Char) : Option (List Char × List Char) :=
  let name := cs.takeWhile (· != '>')
  match cs.dropWhile (· != '>') with
  | '>' :: rest =>
    match name with
    | [] => none
    | c :: more =>
      if isNameChar true c && more.all (isNameChar false) then some (name, rest) else none
  | _ => none

def readGroup (s : Progress) (cs : List Char) : Option Progress :=
  let named := fun (rest : List Char) => do
    let (name, rest) ← readGroupName rest
    if s.names.contains name then none
    pure { s.openGroup s.flags true rest with names := name :: s.names }
  match s.flags.skip cs with
  | '?' :: '=' :: _ | '?' :: '!' :: _ | '?' :: '<' :: '=' :: _ | '?' :: '<' :: '!' :: _ => none
  | '?' :: 'P' :: '<' :: rest => named rest
  | '?' :: '<' :: rest => named rest
  | '?' :: rest => do
    let (flags, seen, mark, rest) ← readFlags [] true s.flags rest
    if mark = ')' then
      if seen.isEmpty then none
      else pure { s with flags, rest, items := ⟨.nothing, 0, false⟩ :: s.items }
    else pure (s.openGroup flags false rest)
  | rest => some (s.openGroup s.flags true rest)

def atomPiece (f : Flags) : Atom → Option Piece
  | .literal c byte => (literalSet f c byte).map fun s => ⟨.one s, 0, true⟩
  | .classOf s => some ⟨.one s, 0, true⟩
  | .condition l => some ⟨.look l, 0, true⟩

def anyChar (f : Flags) : Option CodeSet :=
  if !f.unicode then none
  else if f.dotAll then some .all
  else if f.anyLineEnd then some (CodeSet.all.diff (.ofRanges [(10, 10), (13, 13)]))
  else some (CodeSet.all.diff (.ofRanges [(10, 10)]))

def lineStart (f : Flags) : Look :=
  if !f.multiLine then .textStart else if f.anyLineEnd then .anyLineStart else .lineStart

def lineEnd (f : Flags) : Look :=
  if !f.multiLine then .textEnd else if f.anyLineEnd then .anyLineEnd else .lineEnd

def readPart (s : Progress) (c : Char) (rest : List Char) : Option Progress :=
  let f := s.flags
  match c with
  | '(' => readGroup s rest
  | ')' => s.closeGroup rest
  | '|' => some (s.nextBranch rest)
  | '[' => do
    let (negated, inner, after) := openClass f rest
    let (set, depth, rest) ← readClass f (rest.length + 1) inner [.bracket {} negated] after
    pure (s.push ⟨.one set, depth, true⟩ rest)
  | '?' => let (greedy, rest) := readGreed rest; s.repeatLast 0 (some 1) greedy rest
  | '*' => let (greedy, rest) := readGreed rest; s.repeatLast 0 none greedy rest
  | '+' => let (greedy, rest) := readGreed rest; s.repeatLast 1 none greedy rest
  | '\x7b' => do
    let (lo, hi, rest) ← readCounts f rest
    let (greedy, rest) := readGreed (f.skip rest)
    s.repeatLast lo hi greedy rest
  | '.' => (anyChar f).map fun set => s.push ⟨.one set, 0, true⟩ rest
  | '^' => some (s.push ⟨.look (lineStart f), 0, true⟩ rest)
  | '$' => some (s.push ⟨.look (lineEnd f), 0, true⟩ rest)
  | '\\' => do
    let (atom, rest) ← readEscape f rest
    pure (s.push (← atomPiece f atom) rest)
  | c => (atomPiece f (.literal c false)).map fun p => s.push p rest

/-- Reads a pattern to its end, one part for each unit of fuel. -/
def readParts : (fuel : Nat) → Progress → Option Pattern
  | 0, _ => none
  | fuel + 1, s =>
    match s.flags.skip s.rest with
    | [] =>
      let whole := s.alternatives
      if s.groups.isEmpty && whole.depth ≤ maxNesting then some whole.pattern else none
    | c :: rest =>
      match readPart s c rest with
      | some s => readParts fuel s
      | none => none

def read? (text : String) : Option Pattern :=
  let cs := text.toList
  readParts (cs.length + 1) { rest := cs }

end LogDelivery.Pattern
