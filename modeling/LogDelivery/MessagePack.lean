import LogDelivery.Document
import LogDelivery.Text.Basic

/-!
# MessagePack

Documents as MessagePack, each number and each length in the shortest form that holds it; numbers that
are not negative take the unsigned forms.
-/
namespace LogDelivery.Document

def bigEndian : (count : Nat) → Nat → List UInt8
  | 0, _ => []
  | count + 1, n => bigEndian count (n / 256) ++ [UInt8.ofNat n]

def packNatural (n : Nat) : List UInt8 :=
  if n < 2 ^ 7 then [UInt8.ofNat n]
  else if n < 2 ^ 8 then 0xCC :: bigEndian 1 n
  else if n < 2 ^ 16 then 0xCD :: bigEndian 2 n
  else if n < 2 ^ 32 then 0xCE :: bigEndian 4 n
  else 0xCF :: bigEndian 8 n

def packNegative (n : Nat) : List UInt8 :=
  if n < 2 ^ 5 then [UInt8.ofNat (255 - n)]
  else if n < 2 ^ 7 then 0xD0 :: bigEndian 1 (2 ^ 8 - 1 - n)
  else if n < 2 ^ 15 then 0xD1 :: bigEndian 2 (2 ^ 16 - 1 - n)
  else if n < 2 ^ 31 then 0xD2 :: bigEndian 4 (2 ^ 32 - 1 - n)
  else 0xD3 :: bigEndian 8 (2 ^ 64 - 1 - n)

def packInteger : Int → List UInt8
  | .ofNat n => packNatural n
  | .negSucc n => packNegative n

/-- A length, in the first byte if it is below `small`, else in two or four bytes; `byte` marks
the form with one byte, where there is one. -/
def packLength (small fixed : Nat) (byte : Option UInt8) (two four : UInt8) (n : Nat) : List UInt8 :=
  if n < small then [UInt8.ofNat (fixed + n)]
  else match byte with
    | some mark => if n < 2 ^ 8 then mark :: bigEndian 1 n
      else if n < 2 ^ 16 then two :: bigEndian 2 n else four :: bigEndian 4 n
    | none => if n < 2 ^ 16 then two :: bigEndian 2 n else four :: bigEndian 4 n

def packText (s : String) : List UInt8 :=
  let bytes := s.toUTF8.toList
  packLength 32 0xA0 (some 0xD9) 0xDA 0xDB bytes.length ++ bytes

def packListHead (n : Nat) : List UInt8 := packLength 16 0x90 none 0xDC 0xDD n

def packRecordHead (n : Nat) : List UInt8 := packLength 16 0x80 none 0xDE 0xDF n

mutual

def messagePack : Document → List UInt8
  | .text s => packText s
  | .integer i => packInteger i
  | .list items => packListHead items.length ++ packItems items
  | .record fields => packRecordHead fields.length ++ packFields fields

def packItems : List Document → List UInt8
  | [] => []
  | d :: rest => messagePack d ++ packItems rest

def packFields : List (String × Document) → List UInt8
  | [] => []
  | (name, d) :: rest => packText name ++ messagePack d ++ packFields rest

end

end LogDelivery.Document
