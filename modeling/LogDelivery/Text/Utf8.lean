import LogDelivery.Text.Basic

/-!
# UTF-8

Bytes read as text, with the place and the length of the first fault.
-/
namespace LogDelivery.Text

inductive Utf8Fault where
  /-- the `length` bytes from `start` on are no character and the start of none -/
  | invalid (start length : Nat)
  | incomplete (start : Nat)
  deriving DecidableEq, Repr

def Utf8Fault.message : Utf8Fault → String
  | .invalid start length => s!"invalid utf-8 sequence of {length} bytes from index {start}"
  | .incomplete start => s!"incomplete utf-8 byte sequence from index {start}"

/-- The number of bytes after a first byte, and the values that the second byte may have. -/
def continuation? (b : UInt8) : Option (Nat × Nat × Nat) :=
  let n := b.toNat
  if 0xC2 ≤ n ∧ n ≤ 0xDF then some (1, 0x80, 0xBF)
  else if n = 0xE0 then some (2, 0xA0, 0xBF)
  else if n = 0xED then some (2, 0x80, 0x9F)
  else if 0xE1 ≤ n ∧ n ≤ 0xEF then some (2, 0x80, 0xBF)
  else if n = 0xF0 then some (3, 0x90, 0xBF)
  else if 0xF1 ≤ n ∧ n ≤ 0xF3 then some (3, 0x80, 0xBF)
  else if n = 0xF4 then some (3, 0x80, 0x8F)
  else none

/-- What a character's later bytes add to it: its code point, or how many of them were right and
whether the bytes ended there. -/
def later (value lo hi : Nat) : (count seen : Nat) → List UInt8 → Except (Nat × Bool) Nat
  | 0, _, _ => .ok value
  | _ + 1, seen, [] => .error (seen, true)
  | count + 1, seen, b :: rest =>
    if lo ≤ b.toNat ∧ b.toNat ≤ hi then
      later (value * 64 + b.toNat % 64) 0x80 0xBF count (seen + 1) rest
    else .error (seen, false)

def readUtf8 : (fuel start : Nat) → List UInt8 → List Char → Except Utf8Fault (List Char)
  | 0, _, _, done => .ok done.reverse
  | _ + 1, _, [], done => .ok done.reverse
  | fuel + 1, start, b :: rest, done =>
    if b.toNat < 0x80 then readUtf8 fuel (start + 1) rest (Char.ofNat b.toNat :: done)
    else match continuation? b with
      | none => .error (.invalid start 1)
      | some (count, lo, hi) =>
        match later (b.toNat % 2 ^ (6 - count)) lo hi count 1 rest with
        | .ok value => readUtf8 fuel (start + 1 + count) (rest.drop count) (Char.ofNat value :: done)
        | .error (_, true) => .error (.incomplete start)
        | .error (seen, false) => .error (.invalid start seen)

def decodeUtf8 (bytes : List UInt8) : Except Utf8Fault String :=
  (readUtf8 bytes.length 0 bytes []).map String.ofList

end LogDelivery.Text
