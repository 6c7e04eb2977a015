import LogDelivery.Event.Decoder
import LogDelivery.Notice
import LogDelivery.Pace
import LogDelivery.Redaction.Redactor
import LogDelivery.Redaction.RuleBook
import LogDelivery.Throttle

/-!
# Settings

All settings have defaults and can be set by variables of the environment. A variable that is blank counts as
unset, and one that cannot be read is reported and counts as unset too. What a pipeline cannot work with
is found by `fault?`.
-/
namespace LogDelivery

def SecretKind.decode (_room : Nat) (j : Json) : Option SecretKind := j.text?.bind SecretKind.ofText?

namespace Route

def orDirect (s : String) : Route := (ofText? s).getD .direct

def decode (_room : Nat) (j : Json) : Option Route := j.text?.map orDirect

def decodeNotices (j : Json) : List Notice :=
  match j.text? with
  | some s => if (ofText? s).isNone then [.routeUnreadable s] else []
  | none => []

end Route

structure CustomRule where
  label : String
  pattern : String
  deriving DecidableEq, Repr

def CustomRule.decode : (room : Nat) → Json → Option CustomRule
  | 0, _ => none
  | _ + 1, j => do
    let [label, pattern] ← Json.slots [⟨"label", false⟩, ⟨"pattern", false⟩] j | none
    pure { label := ← Json.required Json.text? label, pattern := ← Json.required Json.text? pattern }

structure Settings where
  apiKey : Option String := none
  appName : String := "unknown-app"
  environment : String := "production"
  endpoint : String := "https://logs.example.com"
  logsPath : String := "/api/v1/logs"
  route : Route := .direct
  agentSocket : String := "/var/run/log-shipper/agent.sock"
  masks : Bool := true
  secretKinds : List SecretKind := [.creditCard, .ssn]
  customRules : List CustomRule := []
  marksJson : Bool := false
  compresses : Bool := false
  compressionLevel : Int := 3
  proxy : Option String := none
  httpProtocol : Option String := none
  /-- `none` is the name of the machine -/
  serverName : Option String := none
  logger : String := "log-shipper"
  platform : String := "rust"
  queueCapacity : Nat := 10000
  resendCapacity : Nat := 20
  requestTimeout : Duration := .ofSeconds 15
  connectTimeout : Duration := .ofSeconds 5
  shutdownTimeout : Duration := .ofSeconds 5
  identifies : Bool := false
  identityTtl : Duration := .ofSeconds 300
  resendPause : Duration := .ofMillis 250
  maxDuplicates : Nat := Throttle.usualMax
  pace : PaceLimits := {}
  deriving DecidableEq

namespace Settings

abbrev Environment := String → Option String

def variablePrefix : String := "LOG_SHIPPER_"

def trimmedValue (env : Environment) (name : String) : Option String :=
  ((env name).map Text.trimmed).filter fun v => !v.isEmpty

def value (env : Environment) (name : String) : Option String :=
  trimmedValue env (variablePrefix ++ name)

def bool? (s : String) : Option Bool :=
  match Text.asciiLower s with
  | "1" | "yes" | "on" | "true" => some true
  | "0" | "no" | "off" | "false" => some false
  | _ => none

def word64? : String → Option Nat := Text.natural? (2 ^ 64 - 1)

def signed32? : String → Option Int := Text.integer? (-(2 ^ 31)) (2 ^ 31 - 1)

def seconds? (s : String) : Option Duration := (word64? s).map Duration.ofSeconds

def customRules? (s : String) : Option (List CustomRule) :=
  readJson (Json.list? CustomRule.decode) s

/-- The parts of a list with commas, without blanks around them; empty parts do not count. -/
def listed (s : String) : List String := ((s.splitOn ",").map Text.trimmed).filter fun p => !p.isEmpty

/-- The kinds of a list, each where it first occurs. -/
def secretKinds? (s : String) : List SecretKind := ((listed s).filterMap SecretKind.ofText?).eraseDups

def readOr (read : String → Option α) (default : α) (v : Option String) : α := (v.bind read).getD default

/-- A value that cannot be read is reported. -/
def unreadable (read : String → Option α) (notice : String → Notice) (v : Option String) :
    List Notice :=
  match v with
  | some s => if (read s).isNone then [notice s] else []
  | none => []

def trimEndSlashes (s : String) : String := String.ofList (Text.dropEndWhile (· == '/') s.toList)

def hasScheme (s : String) : Bool := "https://".isPrefixOf s || "http://".isPrefixOf s

def normalizedUrl (s : String) : String :=
  let s := trimEndSlashes s
  if hasScheme s then s else "https://" ++ s

def absolutePath (s : String) : String := if s.toList.head? = some '/' then s else "/" ++ s

def ofEnvironment (env : Environment) : Settings :=
  let usual : Settings := {}
  let v := value env
  { apiKey := v "API_KEY"
    appName := (v "APP_NAME").getD usual.appName
    environment := (v "ENV").getD usual.environment
    endpoint := ((v "URL").map normalizedUrl).getD usual.endpoint
    logsPath := ((v "LOGS_PATH").map absolutePath).getD usual.logsPath
    route := readOr Route.ofText? usual.route (v "TRANSPORT")
    agentSocket := (v "AGENT_SOCKET").getD usual.agentSocket
    masks := readOr bool? usual.masks (v "MASK_ENABLED")
    secretKinds := ((v "MASKS").map secretKinds?).getD usual.secretKinds
    customRules := readOr customRules? usual.customRules (v "CUSTOM_MASKS")
    marksJson := readOr bool? usual.marksJson (v "SKIP_JSON_TAG")
    compresses := readOr bool? usual.compresses (v "USE_COMPRESSION")
    compressionLevel := readOr signed32? usual.compressionLevel (v "COMPRESSION_LEVEL")
    proxy := v "PROXY_HTTPS" <|> trimmedValue env "HTTPS_PROXY"
    httpProtocol := (v "HTTP_PROTOCOL").map Text.lower
    serverName := v "HOSTNAME" <|> (env "HOSTNAME").filter fun s => !Text.isBlankText s
    queueCapacity := readOr word64? usual.queueCapacity (v "QUEUE_CAPACITY")
    resendCapacity := readOr word64? usual.resendCapacity (v "RESEND_CAPACITY")
    requestTimeout := readOr seconds? usual.requestTimeout (v "REQUEST_TIMEOUT_SECS")
    connectTimeout := readOr seconds? usual.connectTimeout (v "CONNECT_TIMEOUT_SECS")
    shutdownTimeout := readOr seconds? usual.shutdownTimeout (v "SHUTDOWN_TIMEOUT_SECS")
    identifies := readOr bool? usual.identifies (v "IDENTIFY") }

def valueNotices (env : Environment) (read : String → Option α) (name : String) : List Notice :=
  unreadable read (fun s => .valueUnreadable s name) (value env name)

def notices (env : Environment) : List Notice :=
  let masks := ((value env "MASKS").map listed).getD []
  List.flatten [
    unreadable Route.ofText? .routeUnknown (value env "TRANSPORT"),
    valueNotices env bool? "MASK_ENABLED",
    masks.flatMap fun part =>
      unreadable SecretKind.ofText? (fun s => .secretKindUnknown (SecretKind.unknownMessage s))
        (some part),
    unreadable customRules? (fun _ => .rulesUnreadable) (value env "CUSTOM_MASKS"),
    valueNotices env bool? "SKIP_JSON_TAG",
    valueNotices env bool? "USE_COMPRESSION",
    valueNotices env signed32? "COMPRESSION_LEVEL",
    valueNotices env word64? "QUEUE_CAPACITY",
    valueNotices env word64? "RESEND_CAPACITY",
    valueNotices env seconds? "REQUEST_TIMEOUT_SECS",
    valueNotices env seconds? "CONNECT_TIMEOUT_SECS",
    valueNotices env seconds? "SHUTDOWN_TIMEOUT_SECS",
    valueNotices env bool? "IDENTIFY"]

inductive Fault where
  | noCapacity
  | noEndpoint
  | httpProtocol (name : String)
  | compressionLevel (level : Int)
  deriving DecidableEq, Repr

def Fault.message : Fault → String
  | .noCapacity => "queue capacity must be at least 1"
  | .noEndpoint => "collector endpoint is empty"
  | .httpProtocol name => "unsupported HTTP protocol '" ++ name ++ "', expected http1 or http2"
  | .compressionLevel level =>
    "zstd compression level " ++ toString level ++ " is outside 1..=22"

/-- The first fault that keeps a pipeline from working. -/
def fault? (s : Settings) : Option Fault :=
  if s.queueCapacity = 0 then some .noCapacity
  else if s.endpoint.isEmpty then some .noEndpoint
  else match s.httpProtocol.filter fun p => p ≠ "http1" && p ≠ "http2" with
    | some name => some (.httpProtocol name)
    | none =>
      if s.compressionLevel < 1 ∨ 22 < s.compressionLevel then
        some (.compressionLevel s.compressionLevel)
      else none

def logsUrl (s : Settings) : String := s.endpoint ++ s.logsPath

def context (s : Settings) : Context :=
  { appName := s.appName, environment := s.environment, serverName := s.serverName.getD "unknown"
    logger := s.logger, platform := s.platform }

def redactor (s : Settings) : Redactor := ⟨s.masks, s.marksJson⟩

end Settings
end LogDelivery
