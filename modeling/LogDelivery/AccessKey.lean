/-!
# Access keys

The key that the collector asks for is given, or found out by a resolver when it is first needed. The
resolver runs once, and its answer stays, also when it has none. An empty key is no key.
-/
namespace LogDelivery

/-- Where the key comes from. A resolver is known by its successive answers, after which it has none. -/
inductive AccessKey where
  | given (key : Option String)
  | resolver (answers : List (Option String)) (calls : Nat) (resolved : Option (Option String))
  deriving DecidableEq, Repr

namespace AccessKey

def none : AccessKey := .given Option.none

def nonempty (key : Option String) : Option String := key.filter fun k => !k.isEmpty

def ofText (key : String) : AccessKey := .given (nonempty key)

def ofResolver (answers : List (Option String)) : AccessKey := .resolver answers 0 Option.none

def get : AccessKey → Option String × AccessKey
  | .given key => (key, .given key)
  | .resolver answers calls (some key) => (key, .resolver answers calls (some key))
  | .resolver answers calls Option.none =>
    let key := nonempty (answers.headD Option.none)
    (key, .resolver answers.tail (calls + 1) (some key))

def calls : AccessKey → Nat
  | .given _ => 0
  | .resolver _ calls _ => calls

def shown : String := "ApiKeyFactory"

end AccessKey
end LogDelivery
