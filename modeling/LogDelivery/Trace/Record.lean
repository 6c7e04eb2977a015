import LogDelivery.Decimal
import LogDelivery.Level
import LogDelivery.Text.Quoted

/-!
# Trace records

What an application records as it runs: records with named values, inside spans. A value keeps the way
in which it was recorded, as a tag and a line show it differently.
-/
namespace LogDelivery

inductive FieldValue where
  | text (s : String)
  | shown (s : String)
  | quoted (s : String)
  | integer (i : Int)
  | truth (b : Bool)
  | real (x : Float)
  | error (message : String) (causes : List String)

/-- The text of a value, without quotes that it does not bring itself. -/
def FieldValue.plain : FieldValue → String
  | .text s | .shown s => s
  | .quoted s => Text.quoted s
  | .integer i => toString i
  | .truth b => if b then "true" else "false"
  | .real x => floatText x
  | .error message _ => message

structure Field where
  name : String
  value : FieldValue

namespace Field

def messageName : String := "message"

def isMessage (f : Field) : Bool := f.name = messageName

end Field

structure Span where
  name : String
  fields : List Field

structure TraceRecord where
  level : Level
  target : String
  file : Option String := none
  line : Option UInt32 := none
  module : Option String := none
  fields : List Field

end LogDelivery
