import LogDelivery.Text.Basic

/-!
# JSON values

JSON as it is read. Numbers keep their digits, and a string may hold half a surrogate pair, which is
no text: both matter only where a value is used.
-/
namespace LogDelivery

/-- A number as written: digits before the point, digits after it, and the power of ten. -/
structure Numeral where
  negative : Bool
  whole : List Char
  fraction : List Char
  exponent : Option Int
  deriving DecidableEq, Repr

/-- The text of a string, `none` where it holds half a surrogate pair. -/
abbrev Label := Option String

inductive Json where
  | null
  | bool (b : Bool)
  | number (n : Numeral)
  | string (s : Label)
  | array (items : List Json)
  | object (members : List (Label × Json))

namespace Json

def named (name : String) (members : List (Label × Json)) : List Json :=
  members.filterMap fun (label, value) => if label = some name then some value else none

end Json
end LogDelivery
