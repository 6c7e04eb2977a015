import LogDelivery.Pattern.Size

/-!
# Failures

What can go wrong with one delivery, and with a pipeline as a whole. What becomes of a payload whose delivery
failed depends on the kind of the failure alone.
-/
namespace LogDelivery

inductive Failure where
  | unauthorized
  | rejected (status : Nat)
  | server (status : Nat)
  | io (text : String)
  | encode (text : String)
  deriving DecidableEq, Repr

namespace Failure

inductive Kind where
  | unauthorized | retryable | unrecoverable
  deriving DecidableEq, Repr

def kind : Failure → Kind
  | .unauthorized => .unauthorized
  | .server _ | .io _ => .retryable
  | .rejected _ | .encode _ => .unrecoverable

def isRetryable (f : Failure) : Bool := f.kind ≠ .unrecoverable

def isUnauthorized (f : Failure) : Bool := f = .unauthorized

def message : Failure → String
  | .unauthorized => "collector rejected the API key (401)"
  | .rejected status => "collector rejected the payload with status " ++ toString status
  | .server status => "collector responded with status " ++ toString status
  | .io text => "I/O error: " ++ text
  | .encode text => "failed to encode payload: " ++ text

/-- What the status of an answer says about the delivery. -/
def ofStatus (status : Nat) : Except Failure Unit :=
  if 200 ≤ status ∧ status ≤ 299 then .ok ()
  else if status = 401 then .error .unauthorized
  else if 400 ≤ status ∧ status ≤ 499 then .error (.rejected status)
  else .error (.server status)

end Failure

inductive PipelineError where
  | invalidConfig (text : String)
  | invalidPattern (label : String) (fault : Pattern.Fault)
  | noRuntime
  | shutdownTimeout
  deriving DecidableEq, Repr

namespace PipelineError

/-- The text of an error, up to the end of its first line. -/
def message : PipelineError → String
  | .invalidConfig text => "Invalid configuration: " ++ text
  | .invalidPattern label fault => "Invalid mask pattern '" ++ label ++ "': " ++ fault.message
  | .noRuntime => "Pipeline must be started from within a tokio runtime"
  | .shutdownTimeout => "Shutdown timeout exceeded"

end PipelineError

end LogDelivery
