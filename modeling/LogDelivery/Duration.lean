import LogDelivery.Text.Basic

/-!
# Durations

A duration is a number of nanoseconds. It is written in the largest of the units s, ms, µs and ns in
which it is at least one, with as many decimal places as it needs.
-/
namespace LogDelivery

abbrev Duration := Nat

namespace Duration

def ofSeconds (n : Nat) : Duration := n * 1000000000

def ofMillis (n : Nat) : Duration := n * 1000000

/-- The whole milliseconds that cover a duration, for a timer that counts milliseconds. -/
def ticks (d : Duration) : Nat := (d + 999999) / 1000000

def longest : Duration := (2 ^ 64 - 1) * 1000000000 + 999999999

def padded (places n : Nat) : List Char :=
  let ds := Nat.toDigits 10 n
  List.replicate (places - ds.length) '0' ++ ds

private def inUnit (n places : Nat) (unit : String) : String :=
  let whole := Nat.toDigits 10 (n / 10 ^ places)
  let part := ((padded places (n % 10 ^ places)).reverse.dropWhile (· == '0')).reverse
  String.ofList (if part.isEmpty then whole else whole ++ '.' :: part) ++ unit

def text (d : Duration) : String :=
  if 1000000000 ≤ d then inUnit d 9 "s"
  else if 1000000 ≤ d then inUnit d 6 "ms"
  else if 1000 ≤ d then inUnit d 3 "µs"
  else inUnit d 0 "ns"

end Duration
end LogDelivery
