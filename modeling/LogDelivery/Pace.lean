import LogDelivery.Duration
import LogDelivery.Failure

/-!
# The pace of deliveries

How long to wait before the next delivery. Busy cycles shorten the wait and quiet ones lengthen it; a
streak of failures makes it as long as the streak has lasted; a refused key makes it long at once.
Waits are kept within limits that need not be in order.
-/
namespace LogDelivery

structure PaceLimits where
  min : Duration := .ofSeconds 1
  maxNormal : Duration := .ofSeconds 5
  maxError : Duration := .ofSeconds 60
  auth : Duration := .ofSeconds 300
  initial : Duration := .ofSeconds 1
  deriving DecidableEq, Repr

inductive CycleResult where
  | sent (events : Nat)
  | unauthorized
  | failed
  deriving DecidableEq, Repr

def CycleResult.ofFlush : Except Failure Nat → CycleResult
  | .ok events => .sent events
  | .error f => if f.kind = .unauthorized then .unauthorized else .failed

structure Pace where
  delay : Duration
  /-- when the current streak of failures began, in milliseconds; zero when there is none -/
  failingSince : Nat
  deriving DecidableEq, Repr

namespace Pace

def highThroughput : Nat := 100

def lowThroughput : Nat := 10

def clamp (lo hi d : Duration) : Duration := max lo (min d hi)

def start (limits : PaceLimits) : Pace :=
  ⟨clamp limits.min (max limits.maxNormal limits.min) limits.initial, 0⟩

def isFailing (p : Pace) : Bool := p.failingSince ≠ 0

/-- The pace after a cycle that ended at the time `now`, in milliseconds. -/
def next (p : Pace) (result : CycleResult) (now : Nat) (limits : PaceLimits) : Pace :=
  match result with
  | .sent events =>
    let delay :=
      if highThroughput ≤ events then max (p.delay / 2) limits.min
      else if events < lowThroughput then
        max (min (p.delay + p.delay / 4) limits.maxNormal) limits.min
      else p.delay
    ⟨delay, 0⟩
  | .unauthorized => ⟨limits.auth, now⟩
  | .failed =>
    let since := if p.failingSince = 0 then now else p.failingSince
    ⟨clamp limits.min (max limits.maxError limits.min) (Duration.ofMillis (now - since)), since⟩

end Pace
end LogDelivery
