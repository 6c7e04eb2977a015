import LogDelivery.Text.Basic
import LogDelivery.Text.LowerCase

/-!
# Routes

A pipeline delivers straight to the collector, or to an agent on the same host that listens on a
Unix socket.
-/
namespace LogDelivery

inductive Route where
  | direct | agent
  deriving DecidableEq, Repr

namespace Route

def name : Route → String
  | .direct => "direct"
  | .agent => "agent"

def ofText? (s : String) : Option Route :=
  match Text.lower (Text.trimmed s) with
  | "direct" | "http" | "https" => some .direct
  | "agent" | "uds" | "socket" => some .agent
  | _ => none

def usesSocket : Route → Bool
  | .direct => false
  | .agent => true

end Route
end LogDelivery
