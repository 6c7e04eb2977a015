import LogDelivery.AccessKey
import LogDelivery.Peer
import LogDelivery.Settings
import LogDelivery.Wire.Server
import LogDelivery.Wire.StatusPhrase

/-!
# The wire to the collector

Posts go to one address, which is taken for one that a client can read. The key is looked up at the first
post and stays; one that no header can carry is left out, as if there were none.
-/
namespace LogDelivery

structure DirectWire where
  url : String
  key : AccessKey
  timeout : Duration
  /-- the key has been looked up -/
  ready : Bool := false

namespace DirectWire

def ofSettings (s : Settings) (key : AccessKey) : DirectWire := ⟨s.logsUrl, key, s.requestTimeout, false⟩

def keyNotices : Option String → List Notice
  | none => [.keyMissing]
  | some key => if Request.isHeaderValue key then [] else [.keyUnusable]

def request (w : DirectWire) (p : Payload) : Request :=
  { target := w.url, body := p.body, compressed := p.compressed
    accessKey := w.key.get.1.filter Request.isHeaderValue }

def result (w : DirectWire) : Reply → Except Failure Unit
  | .answer status _ => Failure.ofStatus status
  | .closed | .silence => .error (.io (Request.brokenText w.url))

def resultNotices (w : DirectWire) : Reply → List Notice
  | .answer status _ =>
    match Failure.ofStatus status with
    | .ok () => []
    | .error failure =>
      if failure.isUnauthorized then [.keyRejected] else [.collectorAnswered (StatusPhrase.text status)]
  | .closed | .silence => [.requestFailed w.url (Request.brokenText w.url)]

def post (w : DirectWire) (server : Server) (p : Payload) :
    PeerMove × DirectWire × Server × List Notice :=
  let said := if w.ready then [] else keyNotices w.key.get.1
  let w' := { w with key := w.key.get.2, ready := true }
  match server.obstacle with
  | some _ => (.answer (w.result .closed), w', server, said ++ w.resultNotices .closed)
  | none =>
    let (reply, server) := server.receive (w.request p)
    match reply with
    | .silence => (.late w.timeout (w.result reply), w', server, said ++ w.resultNotices reply)
    | _ => (.answer (w.result reply), w', server, said ++ w.resultNotices reply)

end DirectWire
end LogDelivery
