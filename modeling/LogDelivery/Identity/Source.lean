import LogDelivery.Identity.Cache
import LogDelivery.Identity.Lookup

/-!
# Sources of identities

Where a pipeline gets the identity for its batches: from nobody, from a directory whose answers are known
beforehand, or from the collector.
-/
namespace LogDelivery

/-- A directory of identities, known by its successive answers, after which it has none. -/
structure Directory where
  answers : List (Option Identity)
  asked : List String := []
  deriving DecidableEq

namespace Directory

def answer (d : Directory) : Option Identity := d.answers.headD none

def next (d : Directory) (app : String) : Directory := ⟨d.answers.tail, d.asked ++ [app]⟩

end Directory

inductive IdentitySource where
  | nobody
  | fixed (identity : Identity)
  | directory (d : Directory)
  | cached (cache : IdentityCache) (d : Directory)
  | collector (cache : IdentityCache) (lookup : Lookup) (server : Server)

namespace IdentitySource

def resolve (s : IdentitySource) (app : String) (now : Duration) :
    Option Identity × IdentitySource × List Notice :=
  match s with
  | .nobody => (none, .nobody, [])
  | .fixed identity => (some identity, .fixed identity, [])
  | .directory d => (d.answer, .directory (d.next app), [])
  | .cached cache d =>
    let (identity, cache') := cache.resolve (fun _ _ => d.answer) app now
    (identity, .cached cache' (if (cache.fresh? app now).isSome then d else d.next app), [])
  | .collector cache lookup server =>
    match cache.fresh? app now with
    | some identity => (identity, s, [])
    | none =>
      let (identity, server, said) := lookup.ask server app
      (identity, .collector (cache.store app now identity) lookup server, said)

def asked : IdentitySource → List String
  | .directory d | .cached _ d => d.asked
  | _ => []

end IdentitySource
end LogDelivery
