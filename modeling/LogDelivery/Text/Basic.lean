/-!
# Texts

Blank characters are those with the Unicode property White_Space. Numbers in settings are decimal digits after
an optional sign. A sign other than `+` makes sense only for signed numbers, and a number out of the
wanted range is none.
-/

-- Powers are those of the core library, also where algebra has its own.
attribute [instance (high + 1), default_instance (high + 1)] instPowNat

namespace LogDelivery.Text

def isBlank (c : Char) : Bool :=
  let n := c.toNat
  (9 ≤ n && n ≤ 13) || n == 0x20 || n == 0x85 || n == 0xA0 || n == 0x1680 ||
    (0x2000 ≤ n && n ≤ 0x200A) || n == 0x2028 || n == 0x2029 || n == 0x202F || n == 0x205F || n == 0x3000

def dropEndWhile (p : Char → Bool) (cs : List Char) : List Char := (cs.reverse.dropWhile p).reverse

def trimStart (cs : List Char) : List Char := cs.dropWhile isBlank

def trimEnd (cs : List Char) : List Char := dropEndWhile isBlank cs

def trim (cs : List Char) : List Char := trimEnd (trimStart cs)

def trimmed (s : String) : String := String.ofList (trim s.toList)

def isBlankText (s : String) : Bool := s.toList.all isBlank

def decimalValue (ds : List Char) : Nat := ds.foldl (fun n c => n * 10 + (c.toNat - 48)) 0

/-- The number that a text spells if it holds digits, at least one, and nothing else. -/
def digits? (cs : List Char) : Option Nat :=
  if cs.isEmpty || !cs.all Char.isDigit then none else some (decimalValue cs)

def natural? (bound : Nat) (s : String) : Option Nat :=
  let value := match s.toList with
    | '+' :: rest => digits? rest
    | cs => digits? cs
  value.filter (· ≤ bound)

def integer? (lo hi : Int) (s : String) : Option Int :=
  let value := match s.toList with
    | '+' :: rest => (digits? rest).map Int.ofNat
    | '-' :: rest => (digits? rest).map fun n => -Int.ofNat n
    | cs => (digits? cs).map Int.ofNat
  value.filter fun i => lo ≤ i ∧ i ≤ hi

end LogDelivery.Text
