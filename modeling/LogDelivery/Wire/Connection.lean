import LogDelivery.Failure
import LogDelivery.Wire.Agent
import LogDelivery.Wire.Direct

/-!
# Connections

A wire together with the server at its end is a peer. The route of the settings decides between the
two wires and with it the form of the payloads: batches go to the collector as JSON and to an agent as
MessagePack.
-/
namespace LogDelivery

inductive Wire where
  | direct (w : DirectWire)
  | agent (w : AgentWire)

/-- The form in which batches travel on a route. -/
def Route.format : Route → Format
  | .direct => .json
  | .agent => .messagePack

namespace Wire

def ofSettings (s : Settings) (key : AccessKey) : Except PipelineError Wire :=
  match s.route with
  | .direct => .ok (.direct (.ofSettings s key))
  | .agent =>
    match AgentWire.ofSettings s key with
    | .ok w => .ok (.agent w)
    | .error fault => .error (.invalidConfig fault.message)

end Wire

structure Connection where
  wire : Wire
  server : Server

namespace Connection

def post (c : Connection) (p : Payload) : PeerMove × Connection × List Notice :=
  match c.wire with
  | .direct w =>
    let (move, w, server, said) := w.post c.server p
    (move, ⟨.direct w, server⟩, said)
  | .agent w =>
    let (move, w, server, said) := w.post c.server p
    (move, ⟨.agent w, server⟩, said)

instance : Peer Connection := ⟨post⟩

end Connection
end LogDelivery
