import LogDelivery.Event.Decoder
import LogDelivery.Notice
import LogDelivery.Wire.Server
import LogDelivery.Wire.StatusPhrase

/-!
# Asking the collector for identities

The collector is asked with the name of the application, the environment and the host. Whatever goes wrong,
the answer is that there is no identity.
-/
namespace LogDelivery

structure Lookup where
  url : String
  key : Option String
  environment : String
  serverName : String

namespace Lookup

def path : String := "/api/v1/identify"

def urlOf (endpoint : String) : String :=
  String.ofList (Text.dropEndWhile (· == '/') endpoint.toList) ++ path

def question (l : Lookup) (app : String) : Document :=
  .record [("app_name", .text app), ("environment", .text l.environment),
    ("server_name", .text l.serverName)]

/-- The request that asks for an application, unless no header can carry the key. -/
def request? (l : Lookup) (app : String) : Option Request :=
  if l.key.all Request.isHeaderValue then
    some { target := l.url, body := .json (String.ofList (l.question app).json)
           accessKey := l.key, versioned := false }
  else none

def read (l : Lookup) (app : String) : Reply → Option Identity × List Notice
  | .closed | .silence => (none, [.lookupFailed app (Request.brokenText l.url)])
  | .answer status body =>
    if (Failure.ofStatus status).isOk then
      match readJson Identity.decode body with
      | some identity => (some identity, [])
      | none => (none, [.lookupUnreadable app])
    else (none, [.lookupRefused app (StatusPhrase.text status)])

def ask (l : Lookup) (server : Server) (app : String) : Option Identity × Server × List Notice :=
  match l.request? app with
  | none => (none, server, [.lookupFailed app "builder error"])
  | some request =>
    match server.obstacle with
    | some _ =>
      let (identity, said) := l.read app .closed
      (identity, server, said)
    | none =>
      let (reply, server) := server.receive request
      let (identity, said) := l.read app reply
      (identity, server, said)

end Lookup
end LogDelivery
