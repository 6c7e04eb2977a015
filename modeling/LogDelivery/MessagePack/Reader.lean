import LogDelivery.MessagePack
import LogDelivery.Text.Utf8

/-!
# Reading MessagePack

The bytes of a document read back. Every form of a number and of a length is taken, not only the
shortest one; other kinds of values are refused.
-/
namespace LogDelivery.Document

def readBigEndian (count : Nat) (bytes : List UInt8) : Option (Nat × List UInt8) :=
  if bytes.length < count then none
  else some ((bytes.take count).foldl (fun n b => n * 256 + b.toNat) 0, bytes.drop count)

inductive Head where
  | integer (i : Int)
  | text (bytes : Nat)
  | list (items : Nat)
  | record (fields : Nat)
  deriving DecidableEq, Repr

namespace Head

def signed (count n : Nat) : Head :=
  .integer (if n < 2 ^ (8 * count - 1) then n else (n : Int) - 2 ^ (8 * count))

/-- What is still to be read after a first byte: so many bytes of a number, and what that number means. -/
def further (mark : Nat) : Option (Nat × (Nat → Head)) :=
  match mark with
  | 0xCC => some (1, fun n => .integer n)
  | 0xCD => some (2, fun n => .integer n)
  | 0xCE => some (4, fun n => .integer n)
  | 0xCF => some (8, fun n => .integer n)
  | 0xD0 => some (1, signed 1)
  | 0xD1 => some (2, signed 2)
  | 0xD2 => some (4, signed 4)
  | 0xD3 => some (8, signed 8)
  | 0xD9 => some (1, .text)
  | 0xDA => some (2, .text)
  | 0xDB => some (4, .text)
  | 0xDC => some (2, .list)
  | 0xDD => some (4, .list)
  | 0xDE => some (2, .record)
  | 0xDF => some (4, .record)
  | _ => none

def read? : List UInt8 → Option (Head × List UInt8)
  | [] => none
  | b :: rest =>
    let n := b.toNat
    if n < 0x80 then some (.integer n, rest)
    else if n < 0x90 then some (.record (n - 0x80), rest)
    else if n < 0xA0 then some (.list (n - 0x90), rest)
    else if n < 0xC0 then some (.text (n - 0xA0), rest)
    else if 0xE0 ≤ n then some (signed 1 n, rest)
    else match further n with
      | none => none
      | some (count, head) => (readBigEndian count rest).map fun (value, rest) => (head value, rest)

end Head

def readText (count : Nat) (bytes : List UInt8) : Option (String × List UInt8) :=
  if bytes.length < count then none
  else match Text.decodeUtf8 (bytes.take count) with
    | .ok s => some (s, bytes.drop count)
    | .error _ => none

mutual

def readValue : (fuel : Nat) → List UInt8 → Option (Document × List UInt8)
  | 0, _ => none
  | fuel + 1, bytes =>
    match Head.read? bytes with
    | none => none
    | some (.integer i, rest) => some (.integer i, rest)
    | some (.text count, rest) => (readText count rest).map fun (s, rest) => (.text s, rest)
    | some (.list count, rest) =>
      (readItems fuel count rest).map fun (items, rest) => (.list items, rest)
    | some (.record count, rest) =>
      (readFields fuel count rest).map fun (fields, rest) => (.record fields, rest)

def readItems : (fuel count : Nat) → List UInt8 → Option (List Document × List UInt8)
  | _, 0, bytes => some ([], bytes)
  | 0, _ + 1, _ => none
  | fuel + 1, count + 1, bytes => do
    let (item, rest) ← readValue fuel bytes
    let (items, rest) ← readItems fuel count rest
    pure (item :: items, rest)

def readFields : (fuel count : Nat) → List UInt8 → Option (List (String × Document) × List UInt8)
  | _, 0, bytes => some ([], bytes)
  | 0, _ + 1, _ => none
  | fuel + 1, count + 1, bytes => do
    let (.text length, rest) ← Head.read? bytes | none
    let (name, rest) ← readText length rest
    let (value, rest) ← readValue fuel rest
    let (fields, rest) ← readFields fuel count rest
    pure ((name, value) :: fields, rest)

end

/-- The document that bytes hold, if they hold one and nothing else. No value takes less than a byte. -/
def ofMessagePack? (bytes : List UInt8) : Option Document :=
  match readValue (2 * bytes.length + 1) bytes with
  | some (d, []) => some d
  | _ => none

end LogDelivery.Document
