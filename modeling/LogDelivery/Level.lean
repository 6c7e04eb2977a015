import LogDelivery.Text.LowerCase

/-!
# Severity levels

Six levels in order. A level is written by its name in capitals; read from a setting or from a line of
text, it may also go by a second name, and case does not matter.
-/
namespace LogDelivery

inductive Level where
  | trace | debug | info | warn | error | fatal
  deriving DecidableEq, Repr

namespace Level

def all : List Level := [.trace, .debug, .info, .warn, .error, .fatal]

def name : Level → String
  | .trace => "TRACE"
  | .debug => "DEBUG"
  | .info => "INFO"
  | .warn => "WARN"
  | .error => "ERROR"
  | .fatal => "FATAL"

def rank : Level → Nat
  | .trace => 0
  | .debug => 1
  | .info => 2
  | .warn => 3
  | .error => 4
  | .fatal => 5

instance : LE Level := ⟨fun a b => a.rank ≤ b.rank⟩
instance (a b : Level) : Decidable (a ≤ b) := inferInstanceAs (Decidable (a.rank ≤ b.rank))
instance : LT Level := ⟨fun a b => a.rank < b.rank⟩
instance (a b : Level) : Decidable (a < b) := inferInstanceAs (Decidable (a.rank < b.rank))

def named? (s : String) : Option Level := all.find? fun l => l.name == s

def ofText? (s : String) : Option Level :=
  match Text.asciiLower s with
  | "trace" => some .trace
  | "debug" => some .debug
  | "info" => some .info
  | "warn" | "warning" => some .warn
  | "error" | "err" => some .error
  | "fatal" | "critical" => some .fatal
  | _ => none

def unknownMessage (s : String) : String := "unknown level: " ++ s

end Level
end LogDelivery
