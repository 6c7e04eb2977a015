import LogDelivery.Event
import LogDelivery.Json.Decoder
import LogDelivery.Json.Parser

/-!
# Reading events

Fields that are left out when they are written may be absent when they are read; optional ones may be
null. A batch is read from an object alone, and everything in it beside its events has to be a plain
value, even what nobody knows.
-/
namespace LogDelivery

open Json

/-- A level by its name, alone or as the only member of an object without content. -/
def Level.decode : (room : Nat) → Json → Option Level
  | _, .string (some name) => Level.named? name
  | _ + 1, .object [(some name, .null)] => Level.named? name
  | _, _ => none

/-- Texts by name: of two with one name the last counts. -/
def Tags.decode : (room : Nat) → Json → Option Tags
  | _ + 1, .object members => do
    let entries ← members.mapM fun (label, value) => do pure (← label, ← value.text?)
    pure (Tags.ofList entries)
  | _, _ => none

def Location.decode : (room : Nat) → Json → Option Location
  | 0, _ => none
  | _ + 1, j => do
    let [file, method, line] ← slots [⟨"file", false⟩, ⟨"method", false⟩, ⟨"line", false⟩] j | none
    pure {
      file := ← optional text? file
      method := ← optional text? method
      line := ← optional uint32? line }

def Frame.decode : (room : Nat) → Json → Option Frame
  | 0, _ => none
  | _ + 1, j => do
    let [method, file, line] ← slots [⟨"method", false⟩, ⟨"file", false⟩, ⟨"line", false⟩] j | none
    pure {
      method := ← required text? method
      file := ← optional text? file
      line := ← optional uint32? line }

def ErrorNode.shape : List Field :=
  [⟨"message", false⟩, ⟨"error_type", false⟩, ⟨"error_type_code", false⟩, ⟨"data", true⟩,
   ⟨"frames", true⟩, ⟨"inner", false⟩]

def ErrorChain.decode : (room : Nat) → Json → Option ErrorChain
  | 0, _ => none
  | room + 1, j => do
    let [message, kind, code, data, frames, inner] ← slots ErrorNode.shape j | none
    let node : ErrorNode := {
      message := ← required text? message
      kind := ← required text? kind
      code := ← optional text? code
      data := ← orElse .empty (Tags.decode room) data
      frames := ← orElse [] (list? Frame.decode room) frames }
    let cause ← optional (ErrorChain.decode room) inner
    pure ⟨node, (cause.map ErrorChain.nodes).getD []⟩

def Event.shape : List Field :=
  [⟨"message", false⟩, ⟨"level", false⟩, ⟨"timestamp", false⟩, ⟨"thread", false⟩, ⟨"location", false⟩,
   ⟨"error", false⟩, ⟨"tags", true⟩]

def Event.decode : (room : Nat) → Json → Option Event
  | 0, _ => none
  | room + 1, j => do
    let [message, level, timestamp, thread, location, error, tags] ← slots Event.shape j | none
    pure {
      message := ← optional text? message
      level := ← required (Level.decode room) level
      timestamp := ← required uint64? timestamp
      thread := ← optional text? thread
      location := ← optional (Location.decode room) location
      error := ← optional (ErrorChain.decode room) error
      tags := ← orElse .empty (Tags.decode room) tags }

def Identity.shape : List Field :=
  [⟨"device_id", true⟩, ⟨"device_app_id", true⟩, ⟨"app_name_id", true⟩, ⟨"env_id", true⟩,
   ⟨"app_env_id", true⟩, ⟨"environment", true⟩]

def Identity.decode : (room : Nat) → Json → Option Identity
  | 0, _ => none
  | _ + 1, j => do
    let [deviceId, deviceAppId, appNameId, envId, appEnvId, environment] ← slots Identity.shape j
      | none
    pure {
      deviceId := ← optional int64? deviceId
      deviceAppId := ← optional int64? deviceAppId
      appNameId := ← optional text? appNameId
      envId := ← optional int64? envId
      appEnvId := ← optional text? appEnvId
      environment := ← optional text? environment }

def Batch.shape : List Field :=
  [⟨"app_name", false⟩, ⟨"environment", false⟩, ⟨"server_name", false⟩, ⟨"logger", false⟩,
   ⟨"platform", false⟩, ⟨"identity", false⟩, ⟨"events", false⟩]

/-- All members but the events are plain values. -/
def besideEventsPlain (room : Nat) : Json → Bool
  | .object members => membersPlain room (members.filter fun m => m.1 ≠ some "events")
  | _ => false

def Batch.decode : (room : Nat) → Json → Option Batch
  | 0, _ => none
  | room + 1, j => do
    let [appName, environment, serverName, logger, platform, identity, events] ← keyed Batch.shape j
      | none
    if !besideEventsPlain room j then none
    pure {
      context := {
        appName := ← required text? appName
        environment := ← required text? environment
        serverName := ← required text? serverName
        logger := ← required text? logger
        platform := ← required text? platform
        identity := ← optional (Identity.decode room) identity }
      events := ← required (list? Event.decode room) events }

def readJson (decode : (room : Nat) → Json → Option α) (text : String) : Option α :=
  (Json.parse text).bind (decode Json.maxDepth)

end LogDelivery
