import LogDelivery.Duration
import LogDelivery.Event

/-!
# Keeping identities

A cache keeps each answer to the question for an application's identity for some time, also the answer that
there is none.
-/
namespace LogDelivery

structure CachedIdentity where
  fetchedAt : Duration
  identity : Option Identity
  deriving DecidableEq

structure IdentityCache where
  ttl : Duration
  entries : List (String × CachedIdentity) := []
  deriving DecidableEq

namespace IdentityCache

def fresh? (c : IdentityCache) (app : String) (now : Duration) : Option (Option Identity) :=
  ((c.entries.lookup app).filter fun e => now - e.fetchedAt < c.ttl).map (·.identity)

def store (c : IdentityCache) (app : String) (now : Duration) (identity : Option Identity) :
    IdentityCache :=
  { c with entries := (app, ⟨now, identity⟩) :: c.entries.filter fun e => e.1 ≠ app }

/-- The identity of an application, asked of `inner` only if no fresh answer is kept. -/
def resolve (c : IdentityCache) (inner : String → Duration → Option Identity) (app : String)
    (now : Duration) : Option Identity × IdentityCache :=
  match c.fresh? app now with
  | some identity => (identity, c)
  | none => (inner app now, c.store app now (inner app now))

end IdentityCache

end LogDelivery
