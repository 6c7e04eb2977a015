import LogDelivery.Notice
import LogDelivery.Payload

/-!
# Peers

A peer is whoever takes the posts of a courier: what it does with each one, and what is said about it.
The simplest peer follows a script, and takes all posts after its end.
-/
namespace LogDelivery

inductive PeerMove where
  | answer (r : Except Failure Unit)
  | late (after : Duration) (r : Except Failure Unit)
  | silence
  | crash

class Peer (σ : Type) where
  post : σ → Payload → PeerMove × σ × List Notice

/-- A peer that does as it is told. -/
structure Script where
  moves : List PeerMove
  posts : List Payload := []

namespace Script

def ofAnswers (answers : List (Except Failure Unit)) : Script := ⟨answers.map .answer, []⟩

/-- The script with no memory of the posts so far. -/
def forget (s : Script) : Script := { s with posts := [] }

instance : Peer Script where
  post s p := (s.moves.headD (.answer (.ok ())), ⟨s.moves.tail, s.posts ++ [p]⟩, [])

end Script
end LogDelivery
