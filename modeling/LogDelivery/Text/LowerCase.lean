import LogDelivery.Unicode.Casing
import LogDelivery.Unicode.Property

/-!
# Lower case

`asciiLower` maps the letters A to Z alone. `lower` is the full lower case of Unicode: a capital sigma
at the end of a word becomes the final form, and a dotted capital I keeps its dot as a mark.
-/
namespace LogDelivery.Text

def asciiLowerChar (c : Char) : Char := if 'A' ≤ c ∧ c ≤ 'Z' then Char.ofNat (c.toNat + 32) else c

def asciiLower (s : String) : String := String.ofList (s.toList.map asciiLowerChar)

/-- Past the characters that case ignores, the next one has case. -/
private def meetsCased (cs : List Char) : Bool :=
  match cs.dropWhile fun c => Unicode.caseIgnorable.contains c.toNat with
  | [] => false
  | c :: _ => Unicode.cased.contains c.toNat

def lowerChar (c : Char) : List Char :=
  if c.toNat < 128 then [asciiLowerChar c]
  else if c.toNat = 0x130 then ['i', '\u0307']
  else match Unicode.lowerMap.lookup c.toNat with
    | some n => [Char.ofNat n]
    | none => [c]

/-- The lower case of a text, of which `before` holds the characters passed, the nearest first. -/
private def lowerFrom (before : List Char) : List Char → List Char
  | [] => []
  | c :: rest =>
    let here :=
      if c.toNat = 0x3A3 then
        if meetsCased before && !meetsCased rest then ['\u03C2'] else ['\u03C3']
      else lowerChar c
    here ++ lowerFrom (c :: before) rest

def lower (s : String) : String := String.ofList (lowerFrom [] s.toList)

end LogDelivery.Text
