import LogDelivery.Event
import LogDelivery.Text.Basic

/-!
# Fingerprints of errors

Two errors are of one kind if their innermost nodes have the same kind, the same code and the same
method in the first frame. The fingerprint is a 64-bit hash (FNV-1a) of these three.
-/
namespace LogDelivery

def littleEndian64 (n : Nat) : List UInt8 := (List.range 8).map fun i => UInt8.ofNat (n / 256 ^ i)

namespace Fingerprint

/-- A text, closed by a byte that no text contains. -/
def textInput (s : String) : List UInt8 := s.toUTF8.toList ++ [0xFF]

/-- A text that may be absent, after a word that tells which. -/
def optionalInput : Option String → List UInt8
  | none => littleEndian64 0
  | some s => littleEndian64 1 ++ textInput s

def input (e : ErrorChain) : List UInt8 :=
  let root := e.innermost
  textInput root.kind ++ optionalInput root.code ++ optionalInput (root.frames.head?.map (·.method))

def fnv1a (bytes : List UInt8) : UInt64 :=
  bytes.foldl (fun h b => (h ^^^ b.toUInt64) * 0x100000001B3) 0xCBF29CE484222325

def ofError (e : ErrorChain) : UInt64 := fnv1a (input e)

end Fingerprint
end LogDelivery
