import LogDelivery.Fingerprint
import LogDelivery.Notice

/-!
# Throttling repeated errors

At most `maxPerMinute` errors of one fingerprint pass in a minute. There is one counter for each
fingerprint, for the minute in which it was last seen; counters of minutes long past are removed. Minutes
have no bound here: a 64-bit number holds the minute of the next removal for all but the last fifteen.
-/
namespace LogDelivery

structure Counter where
  fingerprint : UInt64
  minute : Nat
  count : Nat
  deriving DecidableEq, Repr

namespace Counter

/-- A count stays at the largest 32-bit number. -/
def countMax : Nat := 2 ^ 32 - 1

def bump (c : Counter) (minute : Nat) : Counter :=
  if c.minute = minute then { c with count := min (c.count + 1) countMax }
  else { c with minute, count := 1 }

end Counter

structure Throttle where
  maxPerMinute : Nat
  counters : List Counter := []
  /-- the minute of the next removal; zero until the first error -/
  nextPurge : Nat := 0
  deriving DecidableEq, Repr

namespace Throttle

def usualMax : Nat := 100

/-- Counters not touched for so many minutes are removed. -/
def keepMinutes : Nat := 15

def purge (t : Throttle) (cutoff : Nat) : Throttle :=
  { t with counters := t.counters.filter fun c => cutoff ≤ c.minute }

def tidy (t : Throttle) (minute : Nat) : Throttle :=
  if t.nextPurge = 0 then { t with nextPurge := minute + keepMinutes }
  else if t.nextPurge ≤ minute then
    { t.purge (minute - keepMinutes) with nextPurge := minute + keepMinutes }
  else t

def bump (fingerprint : UInt64) (minute : Nat) : List Counter → List Counter × Nat
  | [] => ([⟨fingerprint, minute, 1⟩], 1)
  | c :: rest =>
    if c.fingerprint = fingerprint then
      let c := c.bump minute
      (c :: rest, c.count)
    else
      let (rest, count) := bump fingerprint minute rest
      (c :: rest, count)

/-- Counts an error that is seen in a minute; the second part is its number in that minute. -/
def observe (t : Throttle) (fingerprint : UInt64) (minute : Nat) : Throttle × Nat :=
  let t := t.tidy minute
  let (counters, count) := bump fingerprint minute t.counters
  ({ t with counters }, count)

def pass (t : Throttle) (e : ErrorChain) (minute : Nat) : Throttle × Bool :=
  let (t, count) := t.observe (Fingerprint.ofError e) minute
  (t, count ≤ t.maxPerMinute)

/-- What is said when an error is seen: only the first one that may not pass is reported. -/
def notices (t : Throttle) (e : ErrorChain) (minute : Nat) : List Notice :=
  if (t.observe (Fingerprint.ofError e) minute).2 = t.maxPerMinute + 1 then
    [.errorSuppressed e.innermost.kind t.maxPerMinute]
  else []

def tracked (t : Throttle) : Nat := t.counters.length

end Throttle
end LogDelivery
