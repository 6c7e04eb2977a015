import LogDelivery.Forwarder

/-!
# The command

Forwards standard input. What would be posted is written to standard output and counts as taken; notices
go to standard error.
-/
namespace LogDelivery

def knownVariables : List String :=
  ["HTTPS_PROXY", "HOSTNAME", Forwarder.levelVariable] ++
  (["API_KEY", "APP_NAME", "ENV", "URL", "LOGS_PATH", "TRANSPORT", "AGENT_SOCKET", "MASK_ENABLED", "MASKS",
    "CUSTOM_MASKS", "SKIP_JSON_TAG", "USE_COMPRESSION", "COMPRESSION_LEVEL", "PROXY_HTTPS",
    "HTTP_PROTOCOL", "HOSTNAME", "QUEUE_CAPACITY", "RESEND_CAPACITY", "REQUEST_TIMEOUT_SECS",
    "CONNECT_TIMEOUT_SECS", "SHUTDOWN_TIMEOUT_SECS", "IDENTIFY"].map fun name =>
      Settings.variablePrefix ++ name)

/-- A request as text; a body that is no text is left out. -/
def Request.text (r : Request) : String :=
  let body := match r.body with
    | .json text => text
    | .messagePack _ => ""
  "\n".intercalate (r.startLine :: r.headers.map fun h => h.1 ++ ": " ++ h.2) ++ "\n\n" ++ body

end LogDelivery

open LogDelivery in
def main : IO UInt32 := do
  let values ← knownVariables.mapM fun name => do pure (name, ← IO.getEnv name)
  let input ← (← IO.getStdin).readBinToEnd
  let outcome := Forwarder.run (fun name => (values.lookup name).join) input.toList {} {}
  for r in outcome.requests do
    IO.println r.text
  for n in outcome.notices do
    IO.eprintln n.line
  pure (UInt32.ofNat outcome.code)
