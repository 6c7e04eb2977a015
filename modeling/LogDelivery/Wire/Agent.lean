import LogDelivery.AccessKey
import LogDelivery.Peer
import LogDelivery.Settings
import LogDelivery.SocketPath
import LogDelivery.Wire.Server

/-!
# The wire to an agent

Each post makes a connection of its own to the socket of the agent, sends one request and waits for its
answer. A request that cannot be built fails after the connection has been made, and nothing is sent; a
fault of the path is found before one of the key.
-/
namespace LogDelivery

structure AgentWire where
  socket : String
  path : String
  key : AccessKey
  timeout : Duration

namespace AgentWire

def ofSettings (s : Settings) (key : AccessKey) : Except SocketPath.Fault AgentWire :=
  match SocketPath.fault? s.agentSocket with
  | some fault => .error fault
  | none => .ok ⟨s.agentSocket, s.logsPath, key, s.requestTimeout⟩

def request (w : AgentWire) (p : Payload) : Except Failure Request :=
  match Request.targetOf w.path with
  | .error text => .error (.encode ("failed to build request: " ++ text))
  | .ok target =>
    let key := w.key.get.1
    if key.all Request.isHeaderValue then
      .ok { target, body := p.body, compressed := p.compressed, accessKey := key }
    else .error (.encode "failed to build request: failed to parse header value")

def result : Reply → Except Failure Unit
  | .answer status _ => Failure.ofStatus status
  | .closed => .error (.io "request failed: connection closed before message completed")
  | .silence => .error (.io "request to agent timed out")

def resultNotices : Reply → List Notice
  | .answer status _ => if (Failure.ofStatus status).isOk then [] else [.agentAnswered status]
  | _ => []

def post (w : AgentWire) (server : Server) (p : Payload) :
    PeerMove × AgentWire × Server × List Notice :=
  match server.obstacle with
  | some text =>
    (.answer (.error (.io ("failed to connect to " ++ w.socket ++ ": " ++ text))), w, server, [])
  | none =>
    let w' := { w with key := w.key.get.2 }
    match w.request p with
    | .error failure => (.answer (.error failure), w', server, [])
    | .ok request =>
      let (reply, server) := server.receive request
      match reply with
      | .silence => (.late w.timeout (result reply), w', server, [])
      | _ => (.answer (result reply), w', server, resultNotices reply)

end AgentWire
end LogDelivery
