import LogDelivery.Text.Quoted

/-!
# Documents

What a batch looks like to a format: texts, whole numbers, lists, and records of named fields in
order. The same document is written as JSON here and as MessagePack in `LogDelivery.MessagePack`, so
the two formats hold the same fields.
-/
namespace LogDelivery

inductive Document where
  | text (s : String)
  | integer (i : Int)
  | list (items : List Document)
  | record (fields : List (String × Document))

namespace Document

def integerText : Int → List Char
  | .ofNat n => Nat.toDigits 10 n
  | .negSucc n => '-' :: Nat.toDigits 10 (n + 1)

mutual

def json : Document → List Char
  | .text s => Text.jsonQuoted s.toList
  | .integer i => integerText i
  | .list items => '[' :: jsonItems items ++ [']']
  | .record fields => '\x7b' :: jsonFields fields ++ ['\x7d']

def jsonItems : List Document → List Char
  | [] => []
  | [d] => json d
  | d :: rest => json d ++ ',' :: jsonItems rest

def jsonFields : List (String × Document) → List Char
  | [] => []
  | [(name, d)] => Text.jsonQuoted name.toList ++ ':' :: json d
  | (name, d) :: rest => Text.jsonQuoted name.toList ++ ':' :: json d ++ ',' :: jsonFields rest

end

/-- A field that is left out when there is nothing to write. -/
def optional (name : String) : Option Document → List (String × Document)
  | none => []
  | some d => [(name, d)]

end Document
end LogDelivery
