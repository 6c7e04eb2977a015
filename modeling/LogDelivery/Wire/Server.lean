import LogDelivery.Wire.Request

/-!
# Servers

The other end of a wire. A server that can be reached takes requests and gives its replies one by one; after
the last one it answers 200 to everything. A reply is a status and a body. It has no headers, so that no client
is ever sent on to another address.
-/
namespace LogDelivery

inductive Reply where
  | answer (status : Nat) (body : String)
  | closed
  | silence
  deriving DecidableEq, Repr

structure Server where
  /-- why no connection can be made, if none can -/
  obstacle : Option String := none
  replies : List Reply := []
  requests : List Request := []

namespace Server

def usualReply : Reply := .answer 200 ""

def receive (s : Server) (r : Request) : Reply × Server :=
  (s.replies.headD usualReply, { s with replies := s.replies.tail, requests := s.requests ++ [r] })

/-- The server with no memory of the requests so far. -/
def forget (s : Server) : Server := { s with requests := [] }

end Server
end LogDelivery
