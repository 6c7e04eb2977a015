import LogDelivery.Event.Document
import LogDelivery.MessagePack

/-!
# Payloads

A batch as it is posted: its body in one of two formats, compressed or not. Compression changes how the
body travels and not what it says, so a payload keeps the plain body and a note that it is compressed.
-/
namespace LogDelivery

inductive Body where
  | json (text : String)
  | messagePack (bytes : List UInt8)
  deriving DecidableEq, Repr

def Body.contentType : Body → String
  | .json _ => "application/json"
  | .messagePack _ => "application/msgpack"

def Body.size : Body → Nat
  | .json text => text.utf8ByteSize
  | .messagePack bytes => bytes.length

structure Payload where
  body : Body
  compressed : Bool
  events : Nat
  deriving DecidableEq, Repr

def Payload.contentEncoding (p : Payload) : Option String := if p.compressed then some "zstd" else none

inductive Format where
  | json | messagePack
  deriving DecidableEq, Repr

def Format.body (format : Format) (b : Batch) : Body :=
  match format with
  | .json => .json (String.ofList b.document.json)
  | .messagePack => .messagePack b.document.messagePack

abbrev Codec := Batch → Except String Payload

/-- The codec of a format; it never fails. -/
def Format.codec (format : Format) (compressed : Bool) : Codec := fun b =>
  .ok { body := format.body b, compressed, events := b.size }

end LogDelivery
