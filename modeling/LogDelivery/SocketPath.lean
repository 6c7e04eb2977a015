import LogDelivery.Text.Utf8

/-!
# Paths of sockets

The path of a Unix socket is a text, not empty, without null characters, short enough for a socket's
address, and absolute. Of several faults the first in this order is reported.
-/
namespace LogDelivery.SocketPath

def maxBytes : Nat := 100

inductive Fault where
  | notText
  | empty
  | hasNull
  | tooLong (bytes : Nat) (path : String)
  | relative (path : String)
  deriving DecidableEq, Repr

def Fault.message : Fault → String
  | .notText => "Unix socket path must be valid UTF-8"
  | .empty => "Unix socket path cannot be empty"
  | .hasNull => "Unix socket path cannot contain null bytes"
  | .tooLong bytes path =>
    s!"Unix socket path too long: {bytes} bytes (maximum {maxBytes} bytes). Path: " ++ path
  | .relative path => "Unix socket path should be absolute (start with '/'). Got: " ++ path

def fault? (path : String) : Option Fault :=
  if path.isEmpty then some .empty
  else if path.toList.contains '\x00' then some .hasNull
  else if maxBytes < path.utf8ByteSize then some (.tooLong path.utf8ByteSize path)
  else if path.toList.head? ≠ some '/' then some (.relative path)
  else none

def bytesFault? (bytes : List UInt8) : Option Fault :=
  match Text.decodeUtf8 bytes with
  | .ok path => fault? path
  | .error _ => some .notText

end LogDelivery.SocketPath
