import LogDelivery.Event
import LogDelivery.Redaction.RuleBook

/-!
# Redaction of batches

What is done to a batch before it is written. A message with both braces may be marked, so that nobody
takes it for JSON; after that, messages, tag values and the data of errors are masked. Along the chain of
an error, both reach as far as a walk does.
-/
namespace LogDelivery

structure Redactor where
  masks : Bool := true
  marks : Bool := false
  deriving DecidableEq, Repr

namespace Redactor

def mark : String := " #SKIPJSON"

def looksLikeJson (s : String) : Bool := s.toList.contains '\x7b' && s.toList.contains '\x7d'

def marked (s : String) : String := if looksLikeJson s then s ++ mark else s

def markEvent (e : Event) : Event :=
  { e with
    message := e.message.map marked
    error := e.error.map (·.mapReached fun n => { n with message := marked n.message }) }

def maskEvent (book : RuleBook) (e : Event) : Event :=
  { e with
    message := e.message.map book.mask
    tags := e.tags.mapValues book.mask
    error := e.error.map (·.mapReached fun n =>
      { n with message := book.mask n.message, data := n.data.mapValues book.mask }) }

def apply (r : Redactor) (book : RuleBook) (b : Batch) : Batch :=
  let events := if r.marks then b.events.map markEvent else b.events
  { b with events := if r.masks then events.map (maskEvent book) else events }

end Redactor
end LogDelivery
