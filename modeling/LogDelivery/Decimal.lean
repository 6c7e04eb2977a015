import LogDelivery.Text.Basic

/-!
# Shortest decimals

The decimal with the fewest digits that reads back as a given binary number. The reals that round to
`m · 2 ^ q` form an interval, which has its ends if `m` is even. Of the decimals in it those on the coarsest
grid are wanted, and of two on that grid the nearer one; on a tie the larger one.
-/
namespace LogDelivery

structure Decimal where
  coefficient : Nat
  exponent : Int
  deriving DecidableEq, Repr

/-- The number `m · 2 ^ q`. `narrow` says that the numbers below it are twice as dense as those above. -/
structure Binary where
  m : Nat
  q : Int
  narrow : Bool
  deriving DecidableEq, Repr

namespace Binary

def ofBits (bits : UInt64) : Binary :=
  let fraction : Nat := bits.toNat % 2 ^ 52
  let power : Nat := bits.toNat / 2 ^ 52 % 2 ^ 11
  if power = 0 then { m := fraction, q := -1074, narrow := false }
  else { m := fraction + 2 ^ 52, q := (power : Int) - 1075, narrow := fraction = 0 && 1 < power }

def ofDecimal (b : Binary) (c : Nat) (k : Int) : Nat := c * 10 ^ k.toNat * 2 ^ (2 - b.q).toNat

def ofQuarters (b : Binary) (t : Nat) (k : Int) : Nat := t * 2 ^ (b.q - 2).toNat * 10 ^ (-k).toNat

def takes (b : Binary) (c : Nat) (k : Int) : Bool :=
  let x := b.ofDecimal c k
  let lo := b.ofQuarters (4 * b.m - if b.narrow then 1 else 2) k
  let hi := b.ofQuarters (4 * b.m + 2) k
  if b.m % 2 = 0 then lo ≤ x && x ≤ hi else lo < x && x < hi

/-- The multiple of `10 ^ k` that rounds to the number, the nearer one if there are two. Grids coarser
than the number have none. -/
def onGrid? (b : Binary) (k : Int) : Option Decimal :=
  let below := b.ofQuarters (4 * b.m) k / b.ofDecimal 1 k
  if below = 0 then none
  else
    let nearer := if b.ofQuarters (8 * b.m) k < b.ofDecimal (2 * below + 1) k then below else below + 1
    let other := 2 * below + 1 - nearer
    if b.takes nearer k then some ⟨nearer, k⟩
    else if b.takes other k then some ⟨other, k⟩
    else none

def grids : List Int := (List.range 634).map fun (i : Nat) => (309 : Int) - (i : Int)

/-- The shortest decimal of a positive number. -/
def shortest (b : Binary) : Decimal := (grids.findSome? b.onGrid?).getD ⟨0, 0⟩

end Binary

namespace Decimal

def scientific (d : Decimal) : List Char × Int :=
  let digits := Nat.toDigits 10 d.coefficient
  ((digits.reverse.dropWhile (· == '0')).reverse, d.exponent + digits.length - 1)

def positional (digits : List Char) (e : Int) : List Char :=
  if e < 0 then "0.".toList ++ List.replicate ((-e).toNat - 1) '0' ++ digits
  else
    let whole := digits.take (e.toNat + 1)
    let places := digits.drop (e.toNat + 1)
    whole ++ List.replicate (e.toNat + 1 - whole.length) '0' ++ '.' ::
      if places.isEmpty then ['0'] else places

def exponential (digits : List Char) (e : Int) : List Char :=
  (match digits with
  | first :: second :: rest => first :: '.' :: second :: rest
  | _ => digits) ++ 'e' :: (toString e).toList

def isPlain (e : Int) : Bool := -4 ≤ e && e < 16

end Decimal

def floatText (x : Float) : String :=
  let bits := x.toBits
  let sign := if 2 ^ 63 ≤ bits.toNat then "-" else ""
  let b := Binary.ofBits bits
  if b.m = 0 then sign ++ "0.0"
  else
    let (digits, e) := b.shortest.scientific
    sign ++ String.ofList (if Decimal.isPlain e then Decimal.positional digits e
      else Decimal.exponential digits e)

end LogDelivery
