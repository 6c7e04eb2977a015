import LogDelivery.Json
import LogDelivery.Text.Basic

/-!
# The values of numbers

A number without fraction and exponent is whole and kept as it is where it fits into 64 bits. Any other
is read as binary64 from the digits that fit into 64 bits and one power of ten: the significant part
is rounded, then multiplied or divided. A number that grows past the largest finite one is refused.
-/
namespace LogDelivery.Numeral

/-- Adds digits for as long as the value fits into 64 bits; the result also has the number of digits
that were added and of those that were left. -/
private def accumulate (value added : Nat) : List Char → Nat × Nat × Nat
  | [] => (value, added, 0)
  | c :: rest =>
    let next := value * 10 + (c.toNat - 48)
    if next < 2 ^ 64 then accumulate next (added + 1) rest else (value, added, rest.length + 1)

def significand (n : Numeral) : Nat × Int :=
  let (whole, _, dropped) := accumulate 0 0 n.whole
  if dropped = 0 then
    let (value, added, _) := accumulate whole 0 n.fraction
    (value, -(added : Int))
  else
    let (value, added, _) := accumulate whole 0 n.fraction
    (value, (dropped : Int) - added)

private def powerOfTen (n : Nat) : Float := Float.ofScientific 1 false n

private def scale : (fuel : Nat) → Float → Int → Option Float
  | 0, f, _ => some f
  | fuel + 1, f, e =>
    if e.natAbs ≤ 308 then
      if 0 ≤ e then
        let g := f * powerOfTen e.natAbs
        if g.isInf then none else some g
      else some (f / powerOfTen e.natAbs)
    else if f == 0 then some f
    else if 0 ≤ e then none
    else scale fuel (f / powerOfTen 308) (e + 308)

def toFloat? (n : Numeral) : Option Float :=
  let (value, power) := significand n
  let magnitude :=
    match n.exponent with
    | some e =>
      if 2 ^ 31 ≤ e.natAbs then if value ≠ 0 ∧ 0 < e then none else some 0.0
      else scale 8 (Float.ofNat value) (max (-(2 ^ 31)) (min (2 ^ 31 - 1) (power + e)))
    | none => scale 8 (Float.ofNat value) power
  magnitude.map fun f => if n.negative then -f else f

/-- A number without fraction and exponent; zero has no negative form among these. -/
def integer? (n : Numeral) : Option Int :=
  if n.fraction ≠ [] ∨ n.exponent ≠ none then none
  else
    let value := Text.decimalValue n.whole
    if n.negative then if value = 0 then none else some (-(value : Int)) else some (value : Int)

def isHeld (n : Numeral) : Bool :=
  n.integer?.any (fun i => -(2 ^ 63) ≤ i ∧ i < 2 ^ 64) || n.toFloat?.isSome

end LogDelivery.Numeral
