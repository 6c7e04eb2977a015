import LogDelivery.Unicode.Property

/-!
# Quoted text

A text between double quotes is written as a JSON string, or for people to read, with every character that has
no visible form of its own written by its number. Without quotes only control characters are written so.
-/
namespace LogDelivery.Text

def hexDigits (n : Nat) : List Char := Nat.toDigits 16 n

def jsonChar (c : Char) : List Char :=
  if c = '"' then ['\\', '"']
  else if c = '\\' then ['\\', '\\']
  else if c = '\n' then ['\\', 'n']
  else if c = '\r' then ['\\', 'r']
  else if c = '\t' then ['\\', 't']
  else if c.toNat = 8 then ['\\', 'b']
  else if c.toNat = 12 then ['\\', 'f']
  else if c.toNat < 32 then
    ['\\', 'u', '0', '0', Nat.digitChar (c.toNat / 16), Nat.digitChar (c.toNat % 16)]
  else [c]

def jsonQuoted (cs : List Char) : List Char := '"' :: cs.flatMap jsonChar ++ ['"']

/-- A character with a visible form of its own: assigned, and no control, format or private character, no
separator other than the space, and nothing that extends the character before it. -/
def isVisible (c : Char) : Bool :=
  let n := c.toNat
  if n < 127 then 32 ≤ n
  else !(Unicode.graphemeExtend.contains n || Unicode.unassigned.contains n ||
    (Unicode.Category.union [.cc, .cf, .co, .zl, .zp, .zs]).contains n)

def numbered (c : Char) : List Char := "\\u\x7b".toList ++ hexDigits c.toNat ++ ['\x7d']

def visibleChar (c : Char) : List Char :=
  if c.toNat = 0 then ['\\', '0']
  else if c = '\t' then ['\\', 't']
  else if c = '\r' then ['\\', 'r']
  else if c = '\n' then ['\\', 'n']
  else if c = '"' then ['\\', '"']
  else if c = '\\' then ['\\', '\\']
  else if isVisible c then [c]
  else numbered c

def quoted (s : String) : String := String.ofList ('"' :: s.toList.flatMap visibleChar ++ ['"'])

def plainChar (c : Char) : List Char :=
  if c.toNat = 0x1B ∨ c.toNat = 7 ∨ c.toNat = 8 ∨ c.toNat = 12 ∨ c.toNat = 0x7F then
    ['\\', 'x', Nat.digitChar (c.toNat / 16), Nat.digitChar (c.toNat % 16)]
  else if 0x80 ≤ c.toNat ∧ c.toNat ≤ 0x9F then numbered c
  else [c]

def plain (s : String) : String := String.ofList (s.toList.flatMap plainChar)

end LogDelivery.Text
