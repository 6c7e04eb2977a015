import LogDelivery.Level
import LogDelivery.Tags

/-!
# Events and batches

An event is one log record. The error it may carry is a chain of nodes, the outer one first and each
caused by the next. Walks along a chain stop after `maxReach` nodes, however long it is, and so does the
reading of an error that the application has.
-/
namespace LogDelivery

structure Location where
  file : Option String := none
  method : Option String := none
  line : Option UInt32 := none
  deriving DecidableEq

structure Frame where
  method : String
  file : Option String := none
  line : Option UInt32 := none
  deriving DecidableEq

structure ErrorNode where
  message : String
  kind : String
  code : Option String := none
  data : Tags := .empty
  frames : List Frame := []
  deriving DecidableEq

/-- An error with its causes, the nearest first. -/
structure ErrorChain where
  outer : ErrorNode
  causes : List ErrorNode := []
  deriving DecidableEq

/-- An error as the application has it: what it says, and the error that it names as its cause. There
may be no end to its causes. -/
structure ErrorSource (ε : Type) where
  text : ε → String
  cause : ε → Option ε

def ErrorSource.ofMessages : ErrorSource (String × List String) where
  text := Prod.fst
  cause
    | (_, []) => none
    | (_, next :: rest) => some (next, rest)

namespace ErrorChain

variable {α ε σ : Type}

def maxReach : Nat := 10

def nodes (e : ErrorChain) : List ErrorNode := e.outer :: e.causes

def cause (e : ErrorChain) : Option ErrorChain :=
  match e.causes with
  | [] => none
  | cause :: rest => some ⟨cause, rest⟩

/-- What follows one on the other, so many at most. -/
def following (next : α → Option α) : (room : Nat) → Option α → List α
  | 0, _ => []
  | _ + 1, none => []
  | room + 1, some a => a :: following next room (next a)

def walk (e : ErrorChain) : List ErrorChain := following cause maxReach (some e)

def reached (e : ErrorChain) : List ErrorNode := e.walk.map (·.outer)

def root (e : ErrorChain) : ErrorChain := e.walk.getLast?.getD e

def innermost (e : ErrorChain) : ErrorNode := e.root.outer

def mapOuter (f : ErrorNode → ErrorNode) (e : ErrorChain) : ErrorChain := { e with outer := f e.outer }

def causedBy (e cause : ErrorChain) : ErrorChain := ⟨e.outer, cause.nodes⟩

/-- Visits an error that is so deep in a chain, and then its causes one by one, as far as a walk goes. A
visit passes on what it remembers, and it may write to all of the error that it is given. -/
def visitFrom (visit : σ → ErrorChain → σ × ErrorChain) (depth : Nat) (s : σ) (e : ErrorChain) :
    σ × ErrorChain :=
  if depth ≥ maxReach then (s, e)
  else
    let (s, e) := visit s e
    match e.cause with
    | none => (s, e)
    | some below =>
      let (s, below) := visitFrom visit (depth + 1) s below
      (s, e.causedBy below)
  termination_by maxReach - depth

def visitReached (visit : σ → ErrorChain → σ × ErrorChain) (s : σ) (e : ErrorChain) : σ × ErrorChain :=
  visitFrom visit 0 s e

def mapReached (f : ErrorNode → ErrorNode) (e : ErrorChain) : ErrorChain :=
  (visitReached (fun _ e => ((), e.mapOuter f)) () e).2

def plainKind : String := "Error"

def plainNode (text : String) : ErrorNode := { message := text, kind := plainKind }

/-- Texts, with those of an error and of its causes behind them, until there are as many as a walk may
reach. -/
@[semireducible] -- closed chains stay open to evaluation
def gather (E : ErrorSource ε) (texts : List String) : Option ε → List String
  | none => texts
  | some e =>
    if texts.length ≥ maxReach then texts else gather E (texts ++ [E.text e]) (E.cause e)
  termination_by maxReach - texts.length

def ofTexts? (texts : List String) : Option ErrorChain :=
  texts.reverse.foldl
    (fun chain text => some ⟨plainNode text, (chain.map nodes).getD []⟩) none

/-- The chain of an error and its causes, as far as a walk would reach. -/
def ofSource (E : ErrorSource ε) (e : ε) : ErrorChain :=
  (ofTexts? (gather E [E.text e] (E.cause e))).getD ⟨{ message := "", kind := "" }, []⟩

def ofMessages (message : String) (causes : List String) : ErrorChain :=
  ofSource .ofMessages (message, causes)

end ErrorChain

structure Event where
  message : Option String
  level : Level
  timestamp : UInt64
  thread : Option String := none
  location : Option Location := none
  error : Option ErrorChain := none
  tags : Tags := .empty
  deriving DecidableEq

namespace Event

def ofMessage (level : Level) (message : String) (timestamp : UInt64) : Event :=
  { message := some message, level, timestamp }

def ofError (level : Level) (error : ErrorChain) (timestamp : UInt64) : Event :=
  { ofMessage level error.outer.message timestamp with error := some error }

end Event

structure Identity where
  deviceId : Option Int64 := none
  deviceAppId : Option Int64 := none
  appNameId : Option String := none
  envId : Option Int64 := none
  appEnvId : Option String := none
  environment : Option String := none
  deriving DecidableEq

structure Context where
  appName : String
  environment : String
  serverName : String
  logger : String
  platform : String
  identity : Option Identity := none
  deriving DecidableEq

structure Batch where
  context : Context
  events : List Event
  deriving DecidableEq

namespace Batch

def size (b : Batch) : Nat := b.events.length

def isEmpty (b : Batch) : Bool := b.events.isEmpty

end Batch
end LogDelivery
