import LogDelivery.Courier
import LogDelivery.Failure
import LogDelivery.Identity.Source
import LogDelivery.Outbox
import LogDelivery.Settings

/-!
# Pipelines

A pipeline takes events at any time and delivers them in cycles. One worker runs the cycles: it sleeps for
the current delay, flushes, and sets the next delay by how that went. When the pipeline is cancelled, the cycle
under way is finished and one last flush follows. What happens outside comes in as moves: events,
answers, the ends of pauses, the timer, cancellation. Between them the worker runs until it waits
again. No clock runs here; each move is told the time.
-/
namespace LogDelivery

inductive Worker where
  | sleeping
  /-- a flush, the last one or not, is about to go on -/
  | flushing (last : Bool) (flush : Flush)
  /-- the courier has a batch of the flush -/
  | delivering (last : Bool) (flush : Flush) (sending : Sending)
  | stopped
  | crashed
  | aborted

structure Pipeline where
  outbox : Outbox
  courier : Courier
  rules : RuleBook
  throttle : Throttle
  identity : IdentitySource
  limits : PaceLimits
  pace : Pace
  cancelled : Bool := false
  worker : Worker := .sleeping

namespace Pipeline

def start (s : Settings) (courier : Courier) (identity : IdentitySource) (rules : RuleBook) :
    Pipeline where
  outbox := .withCapacity s.queueCapacity s.context
  courier
  rules
  throttle := { maxPerMinute := s.maxDuplicates }
  identity
  limits := s.pace
  pace := .start s.pace

def startError? (s : Settings) (canRun : Bool) : Option PipelineError :=
  if !canRun then some .noRuntime else s.fault?.map fun f => .invalidConfig f.message

def startNotices (s : Settings) : List Notice := [.started s.appName s.route]

def pending (p : Pipeline) : Nat := p.outbox.pending

def isRunning (p : Pipeline) : Bool := !p.cancelled

def minuteOf (now : Nat) : Nat := now / 60000

/-- Whether an event may enter, and the throttle afterwards: only errors are counted. -/
def review (p : Pipeline) (e : Event) (now : Nat) : Throttle × Bool :=
  match e.error with
  | none => (p.throttle, true)
  | some error => p.throttle.pass error (minuteOf now)

def append (p : Pipeline) (e : Event) (now : Nat) : Pipeline × Bool :=
  let (throttle, passes) := p.review e now
  ({ p with throttle, outbox := if passes then p.outbox.append e else p.outbox }, passes)

def appendNotices (p : Pipeline) (e : Event) (now : Nat) : List Notice :=
  (match e.error with
  | none => []
  | some error => p.throttle.notices error (minuteOf now)) ++
  if (p.review e now).2 then p.outbox.events.offerNotices e else []

/-- Ends a cycle or the last flush. A cycle sets the next delay; if the pipeline has been cancelled in
the meantime, the last flush follows. -/
def conclude (p : Pipeline) (last : Bool) (result : Except Failure Nat) (now : Nat) :
    Pipeline × List Notice :=
  if last then
    ({ p with worker := .stopped },
     match result with
     | .ok 0 => []
     | .ok events => [.lastFlushSent events]
     | .error cause => [.lastFlushFailed p.pending cause])
  else
    let pace := p.pace.next (.ofFlush result) now p.limits
    let worker := if p.cancelled then .flushing true p.outbox.beginFlush else .sleeping
    ({ p with pace, worker },
     (match result with
     | .ok _ => []
     | .error cause => [.cycleFailed cause]) ++ [.nextCycle pace.delay])

def work (p : Pipeline) (now : Nat) : Pipeline × List Notice :=
  match p.worker with
  | .flushing last (.ended result) => p.conclude last result now
  | .flushing last (.lookingUp total) =>
    let (found, identity, said) := p.identity.resolve p.outbox.context.appName (.ofMillis now)
    let (outbox, flush, notices) := p.outbox.identified found (.lookingUp total)
    ({ p with identity, outbox, worker := .flushing last flush }, said ++ notices)
  | .flushing last (.sending batch sent total) =>
    let (courier, sending, notices) := p.courier.send p.rules batch
    ({ p with courier, worker := .delivering last (.sending batch sent total) sending }, notices)
  | .delivering last flush (.ended result) =>
    let (outbox, flush, notices) := p.outbox.settled result flush
    ({ p with outbox, worker := .flushing last flush }, notices)
  | _ => (p, [])

def isBusy (p : Pipeline) : Bool :=
  match p.worker with
  | .flushing .. | .delivering _ _ (.ended _) => true
  | _ => false

/-- The moves between two waits are no more than these: to settle a batch, to end its flush, and to begin the
last one. -/
def maxMoves : Nat := 16

def workOn : (moves : Nat) → Pipeline → (now : Nat) → Pipeline × List Notice
  | 0, p, _ => (p, [])
  | moves + 1, p, now =>
    if p.isBusy then
      let (p, notices) := p.work now
      let (p, more) := workOn moves p now
      (p, notices ++ more)
    else (p, [])

def wake (p : Pipeline) : Pipeline :=
  match p.worker with
  | .sleeping => { p with worker := .flushing p.cancelled p.outbox.beginFlush }
  | _ => p

def cancel (p : Pipeline) : Pipeline := ({ p with cancelled := true } : Pipeline).wake

def answered (p : Pipeline) (r : Except Failure Unit) : Pipeline × List Notice :=
  match p.worker with
  | .delivering last flush sending =>
    let (courier, sending, notices) := p.courier.answered sending r
    ({ p with courier, worker := .delivering last flush sending }, notices)
  | _ => (p, [])

def paused (p : Pipeline) : Pipeline × List Notice :=
  match p.worker with
  | .delivering last flush sending =>
    let (courier, sending, notices) := p.courier.paused sending
    ({ p with courier, worker := .delivering last flush sending }, notices)
  | _ => (p, [])

def crash (p : Pipeline) : Pipeline := { p with worker := .crashed }

def abort (p : Pipeline) : Pipeline := { p with worker := .aborted }

def isDone (p : Pipeline) : Bool :=
  match p.worker with
  | .stopped | .crashed | .aborted => true
  | _ => false

def wait (p : Pipeline) : Wait :=
  match p.worker with
  | .delivering _ _ sending => p.courier.wait sending
  | _ => .nothing

end Pipeline
end LogDelivery
