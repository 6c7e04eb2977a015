import LogDelivery.Pipeline
import LogDelivery.Wire.Connection
import LogDelivery.Wire.ProxyAddress

/-!
# Opening a pipeline

A pipeline is opened from settings and an access key: the settings are checked, the rules are put in force one
after the other, and the wire is made. The first error ends it. What has been said until then stays said.
-/
namespace LogDelivery

/-- A result with what is said on the way to it. -/
abbrev Told (α : Type) := Except PipelineError α × List Notice

namespace Settings

/-- The rules that settings ask for: the kinds first, then the rules of their own. -/
def rules (s : Settings) : Told RuleBook :=
  let book := s.secretKinds.foldl RuleBook.enable .empty
  let said := s.secretKinds.map fun k => Notice.ruleEnabled k.label
  s.customRules.foldl (fun (told : Told RuleBook) c =>
    match told with
    | (.error e, said) => (.error e, said)
    | (.ok book, said) =>
      match book.add c.label c.pattern with
      | .ok book => (.ok book, said ++ [.ruleEnabled c.label])
      | .error fault => (.error (.invalidPattern c.label fault), said)) (.ok book, said)

def clientNotices (s : Settings) : List Notice :=
  if s.proxy.all ProxyAddress.isUsable then [] else [.proxyUnreadable]

def wireNotices (s : Settings) : List Notice := if s.route = .direct then s.clientNotices else []

def identitySource (s : Settings) (key : AccessKey) (collector : Server) : IdentitySource :=
  if s.identifies then
    .collector ⟨s.identityTtl, []⟩
      ⟨Lookup.urlOf s.endpoint, key.get.1, s.environment, s.serverName.getD "unknown"⟩ collector
  else .nobody

def identityNotices (s : Settings) : List Notice := if s.identifies then s.clientNotices else []

def courier (s : Settings) : Courier :=
  ⟨s.route.format.codec s.compresses, s.redactor, .withCapacity s.resendCapacity s.resendPause⟩

def delivery (s : Settings) (key : AccessKey) : Except PipelineError (Courier × Wire) :=
  (Wire.ofSettings s key).map fun wire => (s.courier, wire)

end Settings

namespace Pipeline

def openWith (s : Settings) (key : AccessKey) (collector : Server) : Told (Pipeline × Wire) :=
  match s.fault? with
  | some fault => (.error (.invalidConfig fault.message), [])
  | none =>
    match s.rules with
    | (.error e, said) => (.error e, said)
    | (.ok book, said) =>
      match s.delivery key with
      | .error e => (.error e, said)
      | .ok (courier, wire) =>
        (.ok (.start s courier (s.identitySource key collector) book, wire),
         said ++ s.wireNotices ++ s.identityNotices ++ startNotices s)

def keyWanted : String := "an API key is required for the direct transport"

def openWithOwnKey (s : Settings) (collector : Server) : Told (Pipeline × Wire) :=
  let key := s.apiKey.getD ""
  if key.isEmpty && s.route = .direct then (.error (.invalidConfig keyWanted), [])
  else openWith s (.ofText key) collector

end Pipeline
end LogDelivery
