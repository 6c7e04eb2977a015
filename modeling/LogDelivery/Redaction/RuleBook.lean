import LogDelivery.Pattern.Size
import LogDelivery.Redaction.SecretKind

/-!
# Rules for masking

A rule is one or more patterns under a label. A rule book holds the rules in force, in the order in which
they were last put in; one label has one rule. To mask a text is to replace each character of each match
by an asterisk, pattern after pattern, each on what the ones before have left.
-/
namespace LogDelivery

structure Rule where
  label : String
  patterns : List Pattern
  deriving DecidableEq

def starred (spans : List (Nat × Nat)) (cs : List Char) : List Char :=
  cs.mapIdx fun i c => if spans.any fun s => s.1 ≤ i && i < s.2 then '*' else c

def Pattern.mask (p : Pattern) (cs : List Char) : List Char := starred (p.spans cs.toArray) cs

abbrev RuleBook := List Rule

namespace RuleBook

def empty : RuleBook := []

def labels (book : RuleBook) : List String := book.map (·.label)

def remove (book : RuleBook) (label : String) : RuleBook := book.filter fun r => r.label ≠ label

def has (book : RuleBook) (label : String) : Bool := book.any fun r => r.label == label

/-- Puts a rule at the end, in place of the one of its label. -/
def insert (book : RuleBook) (rule : Rule) : RuleBook := book.remove rule.label ++ [rule]

def enable (book : RuleBook) (c : SecretKind) : RuleBook := book.insert ⟨c.label, c.patterns⟩

def add (book : RuleBook) (label pattern : String) : Except Pattern.Fault RuleBook :=
  (Pattern.compile pattern).map fun p => book.insert ⟨label, [p]⟩

def usual : RuleBook := (empty.enable .creditCard).enable .ssn

def patterns (book : RuleBook) : List Pattern := book.flatMap (·.patterns)

def maskChars (book : RuleBook) (cs : List Char) : List Char :=
  book.patterns.foldl (fun cs p => p.mask cs) cs

def mask (book : RuleBook) (s : String) : String := String.ofList (book.maskChars s.toList)

end RuleBook
end LogDelivery
