import LogDelivery.Pattern.Basic
import LogDelivery.Unicode.Casing
import LogDelivery.Unicode.Script

/-!
# Named classes of characters

The classes that a pattern can name: those of one letter, those of ASCII between colons, and the properties of
Unicode, whose names are compared loosely.
-/
namespace LogDelivery.Pattern

open Unicode

def letterClass (unicode : Bool) (c : Char) : Option CodeSet :=
  match c.toLower with
  | 'd' => some (if unicode then Category.set .nd else asciiDigits)
  | 's' => some (if unicode then whiteSpace else asciiSpace)
  | 'w' => some (if unicode then word else asciiWord)
  | _ => none

def asciiClass? (name : String) : Option CodeSet :=
  (match name with
  | "alnum" => some [(0x30, 0x39), (0x41, 0x5A), (0x61, 0x7A)]
  | "alpha" => some [(0x41, 0x5A), (0x61, 0x7A)]
  | "ascii" => some [(0, 0x7F)]
  | "blank" => some [(9, 9), (32, 32)]
  | "cntrl" => some [(0, 31), (127, 127)]
  | "digit" => some [(0x30, 0x39)]
  | "graph" => some [(33, 126)]
  | "lower" => some [(0x61, 0x7A)]
  | "print" => some [(32, 126)]
  | "punct" => some [(33, 47), (58, 64), (91, 96), (123, 126)]
  | "space" => some [(9, 13), (32, 32)]
  | "upper" => some [(0x41, 0x5A)]
  | "word" => some [(0x30, 0x39), (0x41, 0x5A), (0x5F, 0x5F), (0x61, 0x7A)]
  | "xdigit" => some [(0x30, 0x39), (0x41, 0x46), (0x61, 0x66)]
  | _ => none).map CodeSet.ofRanges

/-- A name without case, separators and the word `is` in front; what is not ASCII does not count. -/
def looseName (name : String) : String :=
  let cs := name.toList
  let startsWithIs := (cs.take 2).map Char.toLower == ['i', 's']
  let cs := if startsWithIs then cs.drop 2 else cs
  let kept := (cs.filter fun c => c != ' ' && c != '_' && c != '-' && c.toNat < 128).map Char.toLower
  if startsWithIs && kept == ['c'] then "isc" else String.ofList kept

def category? : String → Option CodeSet
  | "any" => some .all
  | "assigned" => some unassigned.complement
  | "ascii" => some (.ofRanges [(0, 0x7F)])
  | "l" | "letter" => some letters
  | "lu" | "uppercaseletter" => some (Category.set .lu)
  | "ll" | "lowercaseletter" => some (Category.set .ll)
  | "lt" | "titlecaseletter" => some (Category.set .lt)
  | "lc" | "casedletter" => some (Category.union [.lu, .ll, .lt])
  | "lm" | "modifierletter" => some (Category.set .lm)
  | "lo" | "otherletter" => some (Category.set .lo)
  | "m" | "mark" | "combiningmark" => some marks
  | "mn" | "nonspacingmark" => some (Category.set .mn)
  | "mc" | "spacingmark" => some (Category.set .mc)
  | "me" | "enclosingmark" => some (Category.set .me)
  | "n" | "number" => some (Category.union [.nd, .nl, .no])
  | "nd" | "decimalnumber" | "digit" => some (Category.set .nd)
  | "nl" | "letternumber" => some (Category.set .nl)
  | "no" | "othernumber" => some (Category.set .no)
  | "p" | "punctuation" | "punct" => some (Category.union [.pc, .pd, .ps, .pe, .pi, .pf, .po])
  | "pc" | "connectorpunctuation" => some (Category.set .pc)
  | "pd" | "dashpunctuation" => some (Category.set .pd)
  | "ps" | "openpunctuation" => some (Category.set .ps)
  | "pe" | "closepunctuation" => some (Category.set .pe)
  | "pi" | "initialpunctuation" => some (Category.set .pi)
  | "pf" | "finalpunctuation" => some (Category.set .pf)
  | "po" | "otherpunctuation" => some (Category.set .po)
  | "s" | "symbol" => some (Category.union [.sm, .sc, .sk, .so])
  | "sm" | "mathsymbol" => some (Category.set .sm)
  | "sc" | "currencysymbol" => some (Category.set .sc)
  | "sk" | "modifiersymbol" => some (Category.set .sk)
  | "so" | "othersymbol" => some (Category.set .so)
  | "z" | "separator" => some (Category.union [.zs, .zl, .zp])
  | "zs" | "spaceseparator" => some (Category.set .zs)
  | "zl" | "lineseparator" => some (Category.set .zl)
  | "zp" | "paragraphseparator" => some (Category.set .zp)
  | "c" | "other" => some ((Category.union [.cc, .cf, .co]).union unassigned)
  | "cc" | "control" | "cntrl" => some (Category.set .cc)
  | "cf" | "format" => some (Category.set .cf)
  | "co" | "privateuse" => some (Category.set .co)
  | "cn" | "unassigned" => some unassigned
  | _ => none

def namedClass? (name : String) : Option CodeSet :=
  let name := looseName name
  property? name <|> category? name <|> script? name

def valueClass? (property value : String) : Option CodeSet :=
  match looseName property with
  | "gc" | "generalcategory" => category? (looseName value)
  | "sc" | "script" => script? (looseName value)
  | "scx" | "scriptextensions" => scriptExtension? (looseName value)
  | _ => none

end LogDelivery.Pattern
