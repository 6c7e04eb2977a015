import LogDelivery.Document
import LogDelivery.Event

/-!
# Events as documents

Fields stand in a fixed order. What is absent is left out, and so are empty tags, data and frames. The
fields of a batch's context stand beside its events.
-/
namespace LogDelivery

open Document

def Level.document (l : Level) : Document := .text l.name

def Tags.document (t : Tags) : Document := .record (t.entries.map fun e => (e.1, .text e.2))

def Tags.field (name : String) (t : Tags) : List (String × Document) :=
  if t.isEmpty then [] else [(name, t.document)]

def Location.document (l : Location) : Document := .record (
  optional "file" (l.file.map .text) ++
  optional "method" (l.method.map .text) ++
  optional "line" (l.line.map fun n => .integer n.toNat))

def Frame.document (f : Frame) : Document := .record (
  ("method", .text f.method) ::
  optional "file" (f.file.map .text) ++
  optional "line" (f.line.map fun n => .integer n.toNat))

def ErrorNode.fields (n : ErrorNode) : List (String × Document) :=
  [("message", .text n.message), ("error_type", .text n.kind)] ++
  optional "error_type_code" (n.code.map .text) ++
  n.data.field "data" ++
  (if n.frames.isEmpty then [] else [("frames", .list (n.frames.map Frame.document))])

def ErrorNode.nested (n : ErrorNode) : List ErrorNode → Document
  | [] => .record n.fields
  | cause :: rest => .record (n.fields ++ [("inner", cause.nested rest)])

def ErrorChain.document (e : ErrorChain) : Document := e.outer.nested e.causes

def Event.document (e : Event) : Document := .record (
  optional "message" (e.message.map .text) ++
  [("level", e.level.document), ("timestamp", .integer e.timestamp.toNat)] ++
  optional "thread" (e.thread.map .text) ++
  optional "location" (e.location.map Location.document) ++
  optional "error" (e.error.map ErrorChain.document) ++
  e.tags.field "tags")

def Identity.document (i : Identity) : Document := .record (
  optional "device_id" (i.deviceId.map fun n => .integer n.toInt) ++
  optional "device_app_id" (i.deviceAppId.map fun n => .integer n.toInt) ++
  optional "app_name_id" (i.appNameId.map .text) ++
  optional "env_id" (i.envId.map fun n => .integer n.toInt) ++
  optional "app_env_id" (i.appEnvId.map .text) ++
  optional "environment" (i.environment.map .text))

def Context.fields (c : Context) : List (String × Document) :=
  [("app_name", .text c.appName), ("environment", .text c.environment),
   ("server_name", .text c.serverName), ("logger", .text c.logger), ("platform", .text c.platform)] ++
  optional "identity" (c.identity.map Identity.document)

def Batch.document (b : Batch) : Document :=
  .record (b.context.fields ++ [("events", .list (b.events.map Event.document))])

end LogDelivery
