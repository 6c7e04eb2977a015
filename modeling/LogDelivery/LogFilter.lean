import LogDelivery.Notice
import LogDelivery.Pattern.Parser
import LogDelivery.Text.Basic

/-!
# Filters for notices

A filter is a list of directives between commas, each `target[span{field=value}]=level` with most parts
left out. Notices come from outside all spans and have only their message, so of two kinds of directives, those
with a span or a value never let a notice pass. Of the others the one with the longest target counts that begins
the source of a notice; without such a directive the notice is held back.
-/
namespace LogDelivery

structure FilterDirective where
  target : Option String := none
  span : Option String := none
  fields : List (String × Bool) := []
  /-- the least level that passes; none passes if there is none -/
  least : Option Level := some .trace
  deriving DecidableEq, Repr

namespace FilterDirective

def levels : List (String × Option Level) := [
  ("off", none), ("error", some .error), ("warn", some .warn), ("info", some .info),
  ("debug", some .debug), ("trace", some .trace)]

def level? (s : String) : Option (Option Level) :=
  match Text.natural? (2 ^ 64 - 1) s with
  | some n => (levels.map (·.2))[n]?
  | none => levels.lookup (Text.asciiLower s)

def levelOrAll? (s : String) : Option (Option Level) :=
  if s.isEmpty then some (some .trace) else level? s

def isValue (s : String) : Bool :=
  match s.toList with
  | '+' :: rest => (Text.digits? rest).isSome
  | _ => (Pattern.read? s).isSome

def field? (s : String) : Option (String × Bool) :=
  if s.isEmpty then none
  else match s.splitOn "=" with
    | name :: value :: _ => if isValue value then some (name, true) else none
    | _ => some (s, false)

def canBegin (c : Char) : Bool :=
  c = '-' || c = ':' || c = '_' ||
    if c.toNat < 128 then c.isAlphanum
    else (Unicode.CodeSet.unions [Unicode.alphabetic, Unicode.Category.union [.nd, .nl, .no]]).contains c.toNat

/-- What is being read, with the place where it began. -/
inductive Stage where
  | start
  | levelOrTarget (place : Nat)
  | span (place : Nat)
  | field (place : Nat)
  | fieldsDone
  | spanDone
  | level (place : Nat)

def part? (s : String) (start stop : Nat) : Option String :=
  String.fromUTF8? (s.toUTF8.extract start stop)

def step (text : String) (d : FilterDirective) (stage : Stage) (i : Nat) (c : Char) :
    Option (FilterDirective × Stage) :=
  match stage with
  | .start =>
    if c = '[' then some (d, .span (i + 1))
    else if canBegin c then some (d, .levelOrTarget i)
    else none
  | .levelOrTarget place =>
    if c = '=' then (part? text place i).map fun t => ({ d with target := some t }, .level (i + 1))
    else if c = '[' then (part? text place i).map fun t => ({ d with target := some t }, .span (i + 1))
    else some (d, stage)
  | .span place =>
    if c = ']' then (part? text place i).map fun t => ({ d with span := some t }, .spanDone)
    else if c = '\x7b' then (part? text place i).map fun t =>
      ({ d with span := if t.isEmpty then none else some t }, .field (i + 1))
    else some (d, stage)
  | .field place =>
    if c = '\x7d' || c = ',' then do
      let f ← (← part? text place i) |> field?
      some ({ d with fields := d.fields ++ [f] }, if c = ',' then .field (i + 1) else .fieldsDone)
    else some (d, stage)
  | .fieldsDone => if c = ']' then some (d, .spanDone) else none
  | .spanDone => if c = '=' then some (d, .level (i + 1)) else none
  | .level _ => some (d, stage)

def readFrom (text : String) (d : FilterDirective) (stage : Stage) (i : Nat) :
    List Char → Option (FilterDirective × Stage)
  | [] => some (d, stage)
  | c :: rest => do
    let (d, stage) ← step text d stage i c
    readFrom text d stage (i + c.utf8Size) rest

/-- Reads a directive. Places are counted from the first character that is no blank, but in the text with its
blanks: blanks in front move all its parts. -/
def ofText? (text : String) : Option FilterDirective := do
  let (d, stage) ← readFrom text {} .start 0 (Text.trim text.toList)
  let rest := fun place => part? text place text.utf8ByteSize
  match stage with
  | .levelOrTarget place =>
    let word ← rest place
    match levelOrAll? word with
    | some least => some { d with least, target := none }
    | none => some { d with least := some .trace, target := some word }
  | .level place =>
    let word ← rest place
    let least ← levelOrAll? word
    some { d with least }
  | .spanDone => some d
  | _ => none

def isStatic (d : FilterDirective) : Bool := d.span.isNone && d.fields.all fun f => !f.2

def counts (d : FilterDirective) (n : Notice) : Bool :=
  d.isStatic && d.target.all (fun t => t.isPrefixOf n.source) &&
    d.fields.all fun f => f.1 = "message"

def goesBefore (a b : FilterDirective) : Bool :=
  match a.target, b.target with
  | some s, some t =>
    t.utf8ByteSize < s.utf8ByteSize ||
      (t.utf8ByteSize = s.utf8ByteSize && b.fields.length ≤ a.fields.length)
  | some _, none => true
  | none, some _ => false
  | none, none => b.fields.length ≤ a.fields.length

end FilterDirective

abbrev LogFilter := List FilterDirective

namespace LogFilter

def ofText? (s : String) : Option LogFilter :=
  ((s.splitOn ",").filter fun p => !p.isEmpty).mapM FilterDirective.ofText?

/-- The directive that counts for a notice: of those that go before all others, the last one. -/
def directive? (f : LogFilter) (n : Notice) : Option FilterDirective :=
  (f.filter fun d => d.counts n).foldl (fun best d =>
    match best with
    | none => some d
    | some b => if d.goesBefore b then some d else best) none

def admits (f : LogFilter) (n : Notice) : Bool :=
  match f.directive? n with
  | some d => d.least.any fun least => least ≤ n.level
  | none => false

def base : String := "h2=off,hyper=off,rustls=off"

def wanted? (levels : String) : Option LogFilter := ofText? (base ++ "," ++ Text.lower levels)

end LogFilter
end LogDelivery
