import LogDelivery.Peer
import LogDelivery.Pipeline

/-!
# Rehearsals

A pipeline on a clock that stands still until it is told to go on, with a peer that takes its posts. Time is
counted in milliseconds, and a timer goes off at the first whole one that is not too early. A timer that is due
at the very moment to which the clock is told to go goes off when the clock moves next.
-/
namespace LogDelivery

structure Rehearsal (σ : Type) where
  pipeline : Pipeline
  peer : σ
  clock : Nat := 0
  /-- when the timer goes off that the worker waits for -/
  timer : Option Nat
  /-- the answer that the timer brings, unless it ends a sleep or a pause -/
  expected : Option (Except Failure Unit) := none
  /-- the time of the wall clock, which stands still -/
  wallClock : Nat := 60000
  shutdownTimeout : Duration
  joined : Bool := false
  notices : List Notice := []

namespace Rehearsal

variable {σ : Type} [Peer σ]

def start (p : Pipeline) (peer : σ) (shutdownTimeout : Duration) (notices : List Notice) :
    Rehearsal σ :=
  { pipeline := p, peer, shutdownTimeout, notices, timer := some (Duration.ticks p.pace.delay) }

def moved (s : Rehearsal σ) (r : Pipeline × List Notice) : Rehearsal σ :=
  { s with pipeline := r.1, notices := s.notices ++ r.2 }

def append (s : Rehearsal σ) (e : Event) : Rehearsal σ × Bool :=
  let (p, passes) := s.pipeline.append e s.wallClock
  (s.moved (p, s.pipeline.appendNotices e s.wallClock), passes)

/-- Lets the worker and the peer go on until time has to pass. -/
def settle : (fuel : Nat) → Rehearsal σ → Rehearsal σ
  | 0, s => s
  | fuel + 1, s =>
    let s := s.moved (s.pipeline.workOn Pipeline.maxMoves s.wallClock)
    match s.pipeline.wait with
    | .answer payload =>
      let (move, peer, said) := Peer.post s.peer payload
      let s := { s with peer, notices := s.notices ++ said, timer := none }
      match move with
      | .answer r => settle fuel (s.moved (s.pipeline.answered r))
      | .late after r => { s with timer := some (s.clock + max 1 after.ticks), expected := some r }
      | .silence => s
      | .crash => s.moved (s.pipeline.crash, [])
    | .pause length =>
      if length = 0 then settle fuel (s.moved s.pipeline.paused)
      else { s with timer := some (s.clock + Duration.ticks length) }
    | .nothing =>
      match s.pipeline.worker with
      | .sleeping => { s with timer := some (s.clock + Duration.ticks s.pipeline.pace.delay) }
      | _ => { s with timer := none }

/-- Enough for every post and every pause between now and the next wait for time. -/
def fuel (s : Rehearsal σ) : Nat := 8 * (s.pipeline.courier.backlog.size + s.pipeline.pending + 4)

def fire (s : Rehearsal σ) : Rehearsal σ :=
  match s.pipeline.worker, s.expected with
  | .sleeping, _ => settle s.fuel (s.moved (s.pipeline.wake, []))
  | _, some r => settle s.fuel ({ s with expected := none }.moved (s.pipeline.answered r))
  | _, none => settle s.fuel (s.moved s.pipeline.paused)

def elapse (limit : Nat) : (fuel : Nat) → Rehearsal σ → Rehearsal σ
  | 0, s => s
  | fuel + 1, s =>
    match s.timer with
    | none => s
    | some due =>
      if due < limit then elapse limit fuel ({ s with clock := max s.clock due } : Rehearsal σ).fire
      else s

/-- Lets time pass, but not past a timer that is due: a worker that never sleeps stops the clock. -/
def advance (s : Rehearsal σ) (millis : Nat) : Rehearsal σ :=
  if millis = 0 then s
  else
    let limit := s.clock + millis
    let s := elapse limit (millis + 2) s
    { s with clock := max s.clock (min limit (s.timer.getD limit)) }

/-- Lets a worker that has been told to end go on for some time; if it was asleep, it first wakes up. -/
def waitFor (s : Rehearsal σ) (wasSleeping : Bool) (ticks : Nat) : Rehearsal σ :=
  if s.pipeline.isDone || ticks = 0 then s
  else elapse (s.clock + ticks) (ticks + 2) (if wasSleeping then settle s.fuel s else s)

def conclude (s : Rehearsal σ) (limit : Nat) : Rehearsal σ × Except PipelineError Unit :=
  match s.pipeline.worker with
  | .stopped => (s.moved (s.pipeline, [.shutDown]), .ok ())
  | .crashed => (s.moved (s.pipeline, [.workerFailed]), .ok ())
  | _ =>
    let s := { s with clock := limit, timer := none }
    (s.moved (s.pipeline.abort, [.shutdownTimedOut s.shutdownTimeout s.pipeline.pending]),
     .error .shutdownTimeout)

def shutdown (s : Rehearsal σ) : Rehearsal σ × Except PipelineError Unit :=
  let ticks := Duration.ticks s.shutdownTimeout
  let wasSleeping := s.pipeline.worker matches .sleeping
  let cancelled := s.moved (s.pipeline.cancel, [])
  if s.joined then (cancelled, .ok ())
  else (({ cancelled with joined := true } : Rehearsal σ).waitFor wasSleeping ticks).conclude
    (s.clock + ticks)

def addRule (s : Rehearsal σ) (label pattern : String) :
    Rehearsal σ × Except PipelineError Unit :=
  match s.pipeline.rules.add label pattern with
  | .ok rules => (s.moved ({ s.pipeline with rules }, [.ruleEnabled label]), .ok ())
  | .error fault => (s, .error (.invalidPattern label fault))

def removeRule (s : Rehearsal σ) (label : String) : Rehearsal σ × Bool :=
  (s.moved ({ s.pipeline with rules := s.pipeline.rules.remove label }, []),
   s.pipeline.rules.has label)

end Rehearsal
end LogDelivery
