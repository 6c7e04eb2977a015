import LogDelivery.Courier
import LogDelivery.Identity.Source
import LogDelivery.Outbox
import LogDelivery.Peer

/-!
# Rehearsals of single deliveries

A replay, a delivery or a flush on its own, run to its end. Waits take no time but are counted.
-/
namespace LogDelivery

structure Record where
  notices : List Notice := []
  elapsed : Nat := 0

namespace Record

def noted (r : Record) (notices : List Notice) : Record := { r with notices := r.notices ++ notices }

def waited (r : Record) (d : Duration) : Record := { r with elapsed := r.elapsed + d.ticks }

end Record

/-- The answer to a post and the wait for it; no answer may come. -/
def PeerMove.answer? : PeerMove → Option (Except Failure Unit × Duration)
  | .answer r => some (r, 0)
  | .late after r => some (r, after)
  | .silence | .crash => none

def Backlog.run [Peer σ] : (fuel : Nat) → Backlog → Replay → σ → Record →
    Option (Except Failure Nat) × Backlog × σ × Record
  | 0, b, _, peer, r => (none, b, peer, r)
  | fuel + 1, b, replay, peer, r =>
    match replay with
    | .ended result => (some result, b, peer, r)
    | .pausing count =>
      let (b', replay) := b.nextParcel count
      Backlog.run fuel b' replay peer (r.waited b.pause)
    | .posting parcel count =>
      let (move, peer, said) := Peer.post peer parcel.payload
      match move.answer? with
      | none => (none, b, peer, r.noted said)
      | some (answer, wait) =>
        let (b', replay, notices) := b.answered parcel count answer
        Backlog.run fuel b' replay peer ((r.waited wait).noted (said ++ notices))

def Backlog.replay [Peer σ] (b : Backlog) (peer : σ) :
    Option (Except Failure Nat) × Backlog × σ × Record :=
  let (b', replay) := b.beginReplay
  Backlog.run (2 * b.size + 2) b' replay peer {}

def Courier.run [Peer σ] : (fuel : Nat) → Courier → Sending → σ → Record →
    Option (Except Failure Unit) × Courier × σ × Record
  | 0, c, _, peer, r => (none, c, peer, r)
  | fuel + 1, c, sending, peer, r =>
    match sending with
    | .ended result => (some result, c, peer, r)
    | sending =>
      match c.wait sending with
      | .answer payload =>
        let (move, peer, said) := Peer.post peer payload
        match move.answer? with
        | none => (none, c, peer, r.noted said)
        | some (answer, wait) =>
          let (c', sending, notices) := c.answered sending answer
          Courier.run fuel c' sending peer ((r.waited wait).noted (said ++ notices))
      | .pause length =>
        let (c', sending, notices) := c.paused sending
        Courier.run fuel c' sending peer ((r.waited length).noted notices)
      | .nothing => (none, c, peer, r)

def Courier.deliver [Peer σ] (c : Courier) (book : RuleBook) (batch : Batch) (peer : σ) :
    Option (Except Failure Unit) × Courier × σ × Record :=
  let (c', sending, notices) := c.send book batch
  Courier.run (2 * c.backlog.size + 4) c' sending peer { notices }

/-- How a scripted delivery of a batch goes, with the events that arrive in the meantime. -/
structure BatchResult where
  arriving : List Event := []
  result : Except Failure Unit := .ok ()

structure FlushRun where
  outbox : Outbox
  identity : IdentitySource
  script : List BatchResult
  batches : List Batch := []
  notices : List Notice := []

namespace FlushRun

def append (s : FlushRun) (events : List Event) : FlushRun :=
  events.foldl (fun s e =>
    { s with
      outbox := s.outbox.append e
      notices := s.notices ++ s.outbox.events.offerNotices e }) s

def run : (fuel : Nat) → FlushRun → Flush → FlushRun × Except Failure Nat
  | 0, s, _ => (s, .ok 0)
  | fuel + 1, s, flush =>
    match flush with
    | .ended result => (s, result)
    | .lookingUp total =>
      let (found, identity, said) := s.identity.resolve s.outbox.context.appName 0
      let (outbox, flush, notices) := s.outbox.identified found (.lookingUp total)
      run fuel { s with outbox, identity, notices := s.notices ++ said ++ notices } flush
    | .sending batch sent total =>
      let next := s.script.headD {}
      let s := { s with script := s.script.tail, batches := s.batches ++ [batch] }.append next.arriving
      let (outbox, flush, notices) := s.outbox.settled next.result (.sending batch sent total)
      run fuel { s with outbox, notices := s.notices ++ notices } flush

def flush (s : FlushRun) : FlushRun × Except Failure Nat :=
  run (s.outbox.pending + 3) s s.outbox.beginFlush

end FlushRun
end LogDelivery
