import LogDelivery.Document
import LogDelivery.Json.Parser
import Mathlib.Tactic.SplitIfs

/-!
# Spelled values

Every value whose numbers have their digits in order is spelled by some text, whatever characters its
strings have and however large its numbers are; and no other value is ever read. A spelling is read as
its value and nothing else.
-/
namespace LogDelivery

namespace Json

theorem hexDigit?_digitChar {n : Nat} (hn : n < 16) : Unicode.hexDigit? n.digitChar = some n := by
  revert n
  decide

theorem unit?_control {n : Nat} (hn : n < 32) :
    unit? '0' '0' (n / 16).digitChar (n % 16).digitChar = some n := by
  have hzero : Unicode.hexDigit? '0' = some 0 := by decide
  have high : Unicode.hexDigit? (n / 16).digitChar = some (n / 16) := hexDigit?_digitChar (by omega)
  have low : Unicode.hexDigit? (n % 16).digitChar = some (n % 16) := hexDigit?_digitChar (by omega)
  simp only [unit?, hzero, high, low, Option.bind_eq_bind, Option.bind_some]
  exact congrArg some (by omega)

theorem readString_plain {c : Char} (hq : c ≠ '"') (hb : c ≠ '\\') (hc : ¬ c.toNat < 32)
    (cs : List Char) :
    readString (c :: cs) = (readString cs).map fun (ns, rest) => (c.toNat :: ns, rest) := by
  rw [readString.eq_def]
  split
  case h_5 h =>
    cases h
    rw [if_neg (not_or.2 ⟨hc, hb⟩)]
  all_goals simp_all

theorem readString_escaped {c : Char} {n : Nat} (hu : c ≠ 'u') (hn : escaped? c = some n)
    (cs : List Char) :
    readString ('\\' :: c :: cs) = (readString cs).map fun (ns, rest) => (n :: ns, rest) := by
  rw [readString.eq_def]
  split
  case h_4 h =>
    cases h
    rw [hn]
    cases readString cs <;> rfl
  all_goals grind

theorem readString_unit {a b c d : Char} {n : Nat} (hn : unit? a b c d = some n) (cs : List Char) :
    readString ('\\' :: 'u' :: a :: b :: c :: d :: cs) =
      (readString cs).map fun (ns, rest) => (n :: ns, rest) := by
  rw [readString, hn]
  cases readString cs <;> rfl

theorem readString_jsonChar (c : Char) (cs : List Char) :
    readString (Text.jsonChar c ++ cs) =
      (readString cs).map fun (ns, rest) => (c.toNat :: ns, rest) := by
  unfold Text.jsonChar
  split_ifs with hq hb hn hr ht hback hfeed hc
  · exact readString_escaped (by decide) (by rw [hq]; rfl) cs
  · exact readString_escaped (by decide) (by rw [hb]; rfl) cs
  · exact readString_escaped (by decide) (by rw [hn]; rfl) cs
  · exact readString_escaped (by decide) (by rw [hr]; rfl) cs
  · exact readString_escaped (by decide) (by rw [ht]; rfl) cs
  · exact readString_escaped (by decide) (by rw [hback]; rfl) cs
  · exact readString_escaped (by decide) (by rw [hfeed]; rfl) cs
  · exact readString_unit (unit?_control hc) cs
  · exact readString_plain hq hb hc cs

theorem readString_quoted (cs rest : List Char) :
    readString (cs.flatMap Text.jsonChar ++ '"' :: rest) = some (cs.map Char.toNat, rest) := by
  induction cs with
  | nil => rfl
  | cons c cs ih => simp [readString_jsonChar, ih]

theorem not_isSurrogate (c : Char) :
    isHighSurrogate c.toNat = false ∧ isLowSurrogate c.toNat = false := by
  have hvalid : c.toNat < 0xD800 ∨ 0xDFFF < c.toNat ∧ c.toNat < 0x110000 := c.valid
  simp only [isHighSurrogate, isLowSurrogate, Bool.and_eq_false_iff, decide_eq_false_iff_not]
  omega

theorem pairUnits_toNat (cs : List Char) : pairUnits (cs.map Char.toNat) = some cs := by
  induction cs with
  | nil => rfl
  | cons c cs ih =>
    obtain ⟨high, low⟩ := not_isSurrogate c
    rw [List.map_cons, pairUnits.eq_def]
    simp [high, low, ih]

/-- A string after its opening quote. One that is no text is spelled by half a surrogate pair. -/
def labelSpelling : Label → List Char
  | some s => s.toList.flatMap Text.jsonChar ++ ['"']
  | none => ['\\', 'u', 'd', '8', '0', '0', '"']

theorem readLabel_spelling (l : Label) (rest : List Char) :
    readLabel (labelSpelling l ++ rest) = some (l, rest) := by
  cases l with
  | none => rfl
  | some s => simp [readLabel, labelSpelling, readString_quoted, pairUnits_toNat]

theorem decimalValue_toDigits (n : Nat) : Text.decimalValue (Nat.toDigits 10 n) = n := by
  have hfold := Nat.ofDigitChars_ten_toDigits (n := n)
  rw [Nat.ofDigitChars_eq_foldl] at hfold
  simpa only [Text.decimalValue, Nat.mul_comm 10, show '0'.toNat = 48 from rfl] using hfold

theorem isDigit_of_mem {n : Nat} {c : Char} (hc : c ∈ Nat.toDigits 10 n) : c.isDigit :=
  Nat.isDigit_of_mem_toDigits (by decide) (by decide) hc

def Ended (cs : List Char) : Prop := ∀ c ∈ cs.head?, ¬ c.isDigit ∧ c ≠ '.' ∧ c ≠ 'e' ∧ c ≠ 'E'

theorem ended_of_ne_digit {c : Char} (rest : List Char) (hd : c.isDigit = false)
    (hc : c ≠ '.' ∧ c ≠ 'e' ∧ c ≠ 'E') : Ended (c :: rest) := by
  rintro d ⟨⟩
  exact ⟨by simp [hd], hc⟩

theorem readDigits_append {ds rest : List Char} (hds : ds ≠ []) (hall : ∀ d ∈ ds, d.isDigit)
    (hrest : ∀ c ∈ rest.head?, ¬ c.isDigit) : readDigits (ds ++ rest) = some (ds, rest) := by
  have htake : rest.takeWhile Char.isDigit = [] := by
    cases rest with
    | nil => rfl
    | cons d rest => simp [hrest d rfl]
  have hdrop : rest.dropWhile Char.isDigit = rest := by
    cases rest with
    | nil => rfl
    | cons d rest => simp [hrest d rfl]
  simp [readDigits, List.takeWhile_append_of_pos hall, List.dropWhile_append_of_pos hall, htake,
    hdrop, hds]

theorem readDigits_toDigits (n : Nat) {rest : List Char} (hrest : Ended rest) :
    readDigits (Nat.toDigits 10 n ++ rest) = some (Nat.toDigits 10 n, rest) :=
  readDigits_append Nat.toDigits_ne_nil (fun _ => isDigit_of_mem) fun c hc => (hrest c hc).1

theorem readDigits_eq_some {cs ds rest : List Char} (h : readDigits cs = some (ds, rest)) :
    ds ≠ [] ∧ (∀ d ∈ ds, d.isDigit) ∧ ds ++ rest = cs := by
  simp only [readDigits] at h
  split_ifs at h with hempty
  cases h
  exact ⟨by simpa using hempty, List.all_eq_true.1 List.all_takeWhile,
    List.takeWhile_append_dropWhile⟩

end Json

namespace Numeral

open Json

/-- Digits as a text can have them: at least one in front of the point, of which the first is a zero
only where it stands alone. -/
structure Proper (n : Numeral) : Prop where
  whole : n.whole = ['0'] ∨ n.whole ≠ [] ∧ n.whole.head? ≠ some '0' ∧ ∀ d ∈ n.whole, d.isDigit
  fraction : ∀ d ∈ n.fraction, d.isDigit

def fractionSpelling (digits : List Char) : List Char := if digits = [] then [] else '.' :: digits

def exponentSpelling : Option Int → List Char
  | none => []
  | some i => 'e' :: Document.integerText i

def spelling (n : Numeral) : List Char :=
  (if n.negative then ['-'] else []) ++
    (n.whole ++ (fractionSpelling n.fraction ++ exponentSpelling n.exponent))

theorem readExponent_spelling (e : Option Int) {rest : List Char} (hrest : Ended rest) :
    readExponent (exponentSpelling e ++ rest) = some (e, rest) := by
  match e with
  | none =>
    cases rest with
    | nil => rfl
    | cons c rest => simp [exponentSpelling, readExponent, (hrest c rfl).2.2]
  | some (.ofNat n) =>
    have hread := readDigits_toDigits n hrest
    have hall : ∀ d ∈ Nat.toDigits 10 n, d.isDigit := fun _ => isDigit_of_mem
    obtain ⟨c, cs, hdigits⟩ := List.exists_cons_of_ne_nil (Nat.toDigits_ne_nil (n := n) (b := 10))
    have hc : c.isDigit := hall c (hdigits ▸ List.mem_cons_self)
    rw [exponentSpelling, Document.integerText, List.cons_append, readExponent, if_pos (.inl rfl),
      hread]
    · simp [decimalValue_toDigits]
    all_goals
      intro tail hsign
      rw [hdigits, List.cons_append] at hsign
      obtain ⟨rfl, -⟩ := List.cons.inj hsign
      cases hc
  | some (.negSucc n) =>
    have hread := readDigits_toDigits (n + 1) hrest
    simp [exponentSpelling, Document.integerText, readExponent, hread, decimalValue_toDigits,
      Int.negSucc_eq]

theorem head_exponentSpelling (e : Option Int) {rest : List Char} (hrest : Ended rest) :
    ∀ c ∈ (exponentSpelling e ++ rest).head?, ¬ c.isDigit ∧ c ≠ '.' := by
  cases e with
  | none => exact fun c hc => ⟨(hrest c hc).1, (hrest c hc).2.1⟩
  | some i =>
    rintro c ⟨⟩
    decide

theorem readFraction_spelling {digits rest : List Char} (hall : ∀ d ∈ digits, d.isDigit)
    (hrest : ∀ c ∈ rest.head?, ¬ c.isDigit ∧ c ≠ '.') :
    readFraction (fractionSpelling digits ++ rest) = some (digits, rest) := by
  by_cases hempty : digits = []
  · rw [fractionSpelling, if_pos hempty, hempty]
    cases rest with
    | nil => rfl
    | cons c rest => exact readFraction.eq_2 _ fun _ h => (hrest c rfl).2 (List.cons.inj h).1
  · rw [fractionSpelling, if_neg hempty]
    exact readDigits_append hempty hall fun c hc => (hrest c hc).1

theorem head_fractionSpelling (digits : List Char) {rest : List Char}
    (hrest : ∀ c ∈ rest.head?, ¬ c.isDigit) :
    ∀ c ∈ (fractionSpelling digits ++ rest).head?, ¬ c.isDigit := by
  unfold fractionSpelling
  split
  · exact hrest
  · rintro c ⟨⟩
    decide

theorem Proper.readWhole_append {n : Numeral} (hn : n.Proper) {rest : List Char}
    (hrest : ∀ c ∈ rest.head?, ¬ c.isDigit) : readWhole (n.whole ++ rest) = some (n.whole, rest) := by
  rcases hn.whole with hzero | ⟨hne, hhead, hall⟩
  · rw [hzero]
    rfl
  · rw [← readDigits_append hne hall hrest, readWhole]
    obtain ⟨c, cs, hwhole⟩ := List.exists_cons_of_ne_nil hne
    rw [hwhole] at hhead ⊢
    exact fun _ h => hhead (congrArg some (List.cons.inj h).1)

theorem Proper.whole_eq_cons {n : Numeral} (hn : n.Proper) :
    ∃ c cs, n.whole = c :: cs ∧ c.isDigit := by
  rcases hn.whole with hzero | ⟨hne, -, hall⟩
  · exact ⟨'0', [], hzero, rfl⟩
  · obtain ⟨c, cs, hwhole⟩ := List.exists_cons_of_ne_nil hne
    exact ⟨c, cs, hwhole, hall c (hwhole ▸ List.mem_cons_self)⟩

theorem Proper.spelling_eq_cons {n : Numeral} (hn : n.Proper) :
    ∃ c cs, n.spelling = c :: cs ∧ (c = '-' ∨ c.isDigit) := by
  obtain ⟨c, cs, hwhole, hc⟩ := hn.whole_eq_cons
  by_cases hsign : n.negative
  · exact ⟨'-', _, by rw [spelling, if_pos hsign]; rfl, .inl rfl⟩
  · exact ⟨c, _, by rw [spelling, if_neg hsign, hwhole]; rfl, .inr hc⟩

theorem Proper.readNumeral_spelling {n : Numeral} (hn : n.Proper) {rest : List Char}
    (hrest : Ended rest) : readNumeral (n.spelling ++ rest) = some (n, rest) := by
  have hhead := head_exponentSpelling n.exponent hrest
  have hunsigned : readUnsigned n.negative
      (n.whole ++ (fractionSpelling n.fraction ++ (exponentSpelling n.exponent ++ rest))) =
      some (n, rest) := by
    simp [readUnsigned, readExponent_spelling n.exponent hrest,
      readFraction_spelling hn.fraction hhead,
      hn.readWhole_append (head_fractionSpelling n.fraction fun c hc => (hhead c hc).1)]
  rw [spelling]
  by_cases hsign : n.negative
  · rw [hsign] at hunsigned
    simpa [hsign, readNumeral] using hunsigned
  · rw [Bool.not_eq_true] at hsign
    obtain ⟨c, cs, hwhole, hc⟩ := hn.whole_eq_cons
    rw [hsign] at hunsigned
    rw [if_neg (by simp [hsign]), List.nil_append, List.append_assoc, List.append_assoc, readNumeral,
      hunsigned]
    intro tail h
    rw [hwhole] at h
    obtain ⟨rfl, -⟩ := List.cons.inj h
    cases hc

end Numeral

namespace Json

theorem readWhole_eq_some {cs ds rest : List Char} (h : readWhole cs = some (ds, rest)) :
    ds = ['0'] ∨ ds ≠ [] ∧ ds.head? ≠ some '0' ∧ ∀ d ∈ ds, d.isDigit := by
  rw [readWhole.eq_def] at h
  split at h
  · cases h
    exact .inl rfl
  · rename_i hzero
    obtain ⟨hne, hall, happend⟩ := readDigits_eq_some h
    obtain ⟨c, tail, rfl⟩ := List.exists_cons_of_ne_nil hne
    refine .inr ⟨hne, ?_, hall⟩
    rintro ⟨⟩
    exact hzero _ happend.symm

theorem readFraction_eq_some {cs ds rest : List Char} (h : readFraction cs = some (ds, rest)) :
    ∀ d ∈ ds, d.isDigit := by
  rw [readFraction.eq_def] at h
  split at h
  · exact (readDigits_eq_some h).2.1
  · cases h
    simp

theorem proper_of_readNumeral {cs rest : List Char} {n : Numeral}
    (h : readNumeral cs = some (n, rest)) : n.Proper := by
  have hunsigned : ∀ {negative cs}, readUnsigned negative cs = some (n, rest) → n.Proper := by
    intro negative cs h
    simp only [readUnsigned, Option.bind_eq_bind, Option.bind_eq_some_iff, Prod.exists] at h
    obtain ⟨whole, mid, hwhole, fraction, tail, hfraction, exponent, last, -, h⟩ := h
    cases h
    exact ⟨readWhole_eq_some hwhole, readFraction_eq_some hfraction⟩
  rw [readNumeral.eq_def] at h
  split at h
  · exact hunsigned h
  · exact hunsigned h

mutual

def spelling : Json → List Char
  | .null => ['n', 'u', 'l', 'l']
  | .bool true => ['t', 'r', 'u', 'e']
  | .bool false => ['f', 'a', 'l', 's', 'e']
  | .number n => n.spelling
  | .string s => '"' :: labelSpelling s
  | .array items => '[' :: itemsSpelling items ++ [']']
  | .object members => '\x7b' :: membersSpelling members ++ ['\x7d']

def itemsSpelling : List Json → List Char
  | [] => []
  | [j] => spelling j
  | j :: rest => spelling j ++ ',' :: itemsSpelling rest

def membersSpelling : List (Label × Json) → List Char
  | [] => []
  | [(label, j)] => '"' :: labelSpelling label ++ ':' :: spelling j
  | (label, j) :: rest => '"' :: labelSpelling label ++ ':' :: spelling j ++ ',' :: membersSpelling rest

end

mutual

def Proper : Json → Prop
  | .number n => n.Proper
  | .array items => ItemsProper items
  | .object members => MembersProper members
  | _ => True

def ItemsProper : List Json → Prop
  | [] => True
  | j :: rest => Proper j ∧ ItemsProper rest

def MembersProper : List (Label × Json) → Prop
  | [] => True
  | (_, j) :: rest => Proper j ∧ MembersProper rest

end

theorem itemsProper_iff {items : List Json} : ItemsProper items ↔ ∀ j ∈ items, j.Proper := by
  induction items with
  | nil => simp [ItemsProper]
  | cons j rest ih => simp [ItemsProper, ih]

theorem membersProper_iff {members : List (Label × Json)} :
    MembersProper members ↔ ∀ m ∈ members, m.2.Proper := by
  induction members with
  | nil => simp [MembersProper]
  | cons m rest ih => simp [MembersProper, ih]

/-- A text that starts like a value: no blank, no comma and no closing bracket. -/
def Opens (cs : List Char) : Prop :=
  ∃ c ∈ cs.head?, isJsonBlank c = false ∧ c ≠ ']' ∧ c ≠ '\x7d'

theorem Proper.opens {j : Json} (hj : j.Proper) : Opens j.spelling := by
  match j with
  | .null => exact ⟨'n', rfl, by decide⟩
  | .bool true => exact ⟨'t', rfl, by decide⟩
  | .bool false => exact ⟨'f', rfl, by decide⟩
  | .number n =>
    obtain ⟨c, cs, hspelling, hc⟩ := Numeral.Proper.spelling_eq_cons hj
    refine ⟨c, by rw [spelling, hspelling]; rfl, ?_⟩
    rcases hc with rfl | hc
    · decide
    · have hne (d : Char) (hd : d.isDigit = false) : c ≠ d := by
        rintro rfl
        simp [hc] at hd
      simp [isJsonBlank, hne]
  | .string s => exact ⟨'"', rfl, by decide⟩
  | .array items => exact ⟨'[', rfl, by decide⟩
  | .object members => exact ⟨'\x7b', rfl, by decide⟩

theorem Opens.append {cs : List Char} (h : Opens cs) (rest : List Char) : Opens (cs ++ rest) := by
  obtain ⟨c, hc, opens⟩ := h
  exact ⟨c, by simp [List.head?_append, Option.mem_def.1 hc], opens⟩

theorem Opens.skipBlanks {cs : List Char} (h : Opens cs) : skipBlanks cs = cs := by
  obtain ⟨c, hc, hblank, -⟩ := h
  cases cs with
  | nil => cases hc
  | cons d cs =>
    cases hc
    simp [Json.skipBlanks, hblank]

theorem Opens.ne_closing {cs : List Char} (h : Opens cs) (tail : List Char) :
    cs ≠ ']' :: tail ∧ cs ≠ '\x7d' :: tail := by
  obtain ⟨c, hc, -, hbracket, hbrace⟩ := h
  cases cs with
  | nil => cases hc
  | cons d cs =>
    cases hc
    exact ⟨fun h => hbracket (List.cons.inj h).1, fun h => hbrace (List.cons.inj h).1⟩

theorem Opens.length_pos {cs : List Char} (h : Opens cs) : 0 < cs.length := by
  obtain ⟨c, hc, -⟩ := h
  cases cs with
  | nil => cases hc
  | cons => simp

theorem readValue_number {n : Numeral} (hn : n.Proper) (fuel : Nat) {rest : List Char}
    (hrest : Ended rest) : readValue (fuel + 1) (n.spelling ++ rest) = some (.number n, rest) := by
  have hread := hn.readNumeral_spelling hrest
  have hskip := ((show (Json.number n).Proper from hn).opens.append rest).skipBlanks
  obtain ⟨c, cs, hspelling, hc⟩ := hn.spelling_eq_cons
  rw [spelling, hspelling, List.cons_append] at hskip
  rw [hspelling, List.cons_append] at hread ⊢
  rw [readValue, hskip]
  split
  case h_8 => rw [hread]; rfl
  all_goals simp_all

theorem readValue_string (s : Label) (fuel : Nat) (rest : List Char) :
    readValue (fuel + 1) ('"' :: labelSpelling s ++ rest) = some (.string s, rest) := by
  have hlabel := readLabel_spelling s rest
  exact congrArg (Option.map fun x => (Json.string x.1, x.2)) hlabel

theorem readValue_array {fuel : Nat} {cs rest : List Char} {items : List Json} (opens : Opens cs)
    (hitems : readItems fuel cs = some (items, rest)) :
    readValue (fuel + 1) ('[' :: cs) = some (.array items, rest) := by
  have hbracket : skipBlanks ('[' :: cs) = '[' :: cs := rfl
  simp [readValue, hbracket, opens.skipBlanks, hitems, opens.ne_closing]

theorem readItems_last {fuel : Nat} {cs rest : List Char} {item : Json}
    (hitem : readValue fuel cs = some (item, ']' :: rest)) :
    readItems (fuel + 1) cs = some ([item], rest) := by
  rw [readItems, hitem]
  rfl

theorem readItems_more {fuel : Nat} {cs mid rest : List Char} {item : Json} {items : List Json}
    (hitem : readValue fuel cs = some (item, ',' :: mid))
    (hitems : readItems fuel mid = some (items, rest)) :
    readItems (fuel + 1) cs = some (item :: items, rest) := by
  have hskip : skipBlanks (',' :: mid) = ',' :: mid := rfl
  rw [readItems, hitem]
  simp [hskip, hitems]

theorem readValue_object {fuel : Nat} {cs rest : List Char} {members : List (Label × Json)}
    (hmembers : readMembers fuel ('"' :: cs) = some (members, rest)) :
    readValue (fuel + 1) ('\x7b' :: '"' :: cs) = some (.object members, rest) := by
  have hbrace : skipBlanks ('\x7b' :: '"' :: cs) = '\x7b' :: '"' :: cs := rfl
  have hquote : skipBlanks ('"' :: cs) = '"' :: cs := rfl
  simp [readValue, hbrace, hquote, hmembers]

theorem readMembers_last {fuel : Nat} {label : Label} {cs rest : List Char} {value : Json}
    (hvalue : readValue fuel cs = some (value, '\x7d' :: rest)) :
    readMembers (fuel + 1) ('"' :: labelSpelling label ++ ':' :: cs) =
      some ([(label, value)], rest) := by
  have hlabel := readLabel_spelling label (':' :: cs)
  have hquote : ∀ text, skipBlanks ('"' :: text) = '"' :: text := fun _ => rfl
  have hcolon : skipBlanks (':' :: cs) = ':' :: cs := rfl
  have hclosing : skipBlanks ('\x7d' :: rest) = '\x7d' :: rest := rfl
  simp [readMembers, hquote, hlabel, hcolon, hvalue, hclosing]

theorem readMembers_more {fuel : Nat} {label : Label} {cs mid rest : List Char} {value : Json}
    {members : List (Label × Json)} (hvalue : readValue fuel cs = some (value, ',' :: mid))
    (hmembers : readMembers fuel mid = some (members, rest)) :
    readMembers (fuel + 1) ('"' :: labelSpelling label ++ ':' :: cs) =
      some ((label, value) :: members, rest) := by
  have hlabel := readLabel_spelling label (':' :: cs)
  have hquote : ∀ text, skipBlanks ('"' :: text) = '"' :: text := fun _ => rfl
  have hcolon : skipBlanks (':' :: cs) = ':' :: cs := rfl
  have hcomma : skipBlanks (',' :: mid) = ',' :: mid := rfl
  simp [readMembers, hquote, hlabel, hcolon, hvalue, hcomma, hmembers]

theorem opens_itemsSpelling {j : Json} (hj : j.Proper) (items : List Json) (rest : List Char) :
    Opens (itemsSpelling (j :: items) ++ rest) := by
  cases items with
  | nil => exact hj.opens.append rest
  | cons i items =>
    simp only [itemsSpelling, List.append_assoc]
    exact hj.opens.append _

theorem membersSpelling_eq_cons (m : Label × Json) (members : List (Label × Json)) :
    ∃ cs, membersSpelling (m :: members) = '"' :: cs := by
  cases members with
  | nil => exact ⟨_, rfl⟩
  | cons _ members => exact ⟨_, rfl⟩

mutual

/-- The readers follow the writers through the value. A value has at least one character, and what
comes after it is never a digit, so that a number ends where it was written to end. -/
theorem readValue_spelling (j : Json) (hj : j.Proper) {fuel : Nat}
    (hfuel : 2 * j.spelling.length ≤ fuel) {rest : List Char} (hrest : Ended rest) :
    readValue fuel (j.spelling ++ rest) = some (j, rest) := by
  obtain ⟨fuel, rfl⟩ : ∃ f, fuel = f + 1 :=
    Nat.exists_eq_succ_of_ne_zero (by have := hj.opens.length_pos; omega)
  match j, hj with
  | .null, _ => rfl
  | .bool true, _ => rfl
  | .bool false, _ => rfl
  | .number n, hn => exact readValue_number hn fuel hrest
  | .string s, _ => exact readValue_string s fuel rest
  | .array [], _ => rfl
  | .array (j :: items), hitems =>
    simp only [spelling, List.cons_append, List.length_cons, List.length_append,
      List.append_assoc, List.nil_append] at hfuel ⊢
    exact readValue_array (opens_itemsSpelling hitems.1 items _)
      (readItems_spelling (j :: items) hitems (by simp) (by omega) rest)
  | .object [], _ => rfl
  | .object (m :: members), hmembers =>
    simp only [spelling, List.cons_append, List.length_cons, List.length_append,
      List.append_assoc, List.nil_append] at hfuel ⊢
    have hread : readMembers fuel (membersSpelling (m :: members) ++ '\x7d' :: rest) =
        some (m :: members, rest) :=
      readMembers_spelling (m :: members) hmembers (by simp) (by omega) rest
    obtain ⟨cs, hcs⟩ := membersSpelling_eq_cons m members
    rw [hcs] at hread ⊢
    exact readValue_object hread

theorem readItems_spelling (items : List Json) (hitems : ItemsProper items) (hne : items ≠ [])
    {fuel : Nat} (hfuel : 2 * (itemsSpelling items).length + 1 ≤ fuel) (rest : List Char) :
    readItems fuel (itemsSpelling items ++ ']' :: rest) = some (items, rest) := by
  obtain ⟨fuel, rfl⟩ : ∃ f, fuel = f + 1 := Nat.exists_eq_succ_of_ne_zero (by omega)
  match items with
  | [] => exact absurd rfl hne
  | [j] =>
    rw [itemsSpelling] at hfuel ⊢
    exact readItems_last
      (readValue_spelling j hitems.1 (by omega) (ended_of_ne_digit _ (by decide) (by decide)))
  | j :: i :: items =>
    simp only [itemsSpelling, List.length_append, List.length_cons, List.append_assoc,
      List.cons_append] at hfuel ⊢
    exact readItems_more
      (readValue_spelling j hitems.1 (by omega) (ended_of_ne_digit _ (by decide) (by decide)))
      (readItems_spelling (i :: items) hitems.2 (by simp) (by omega) rest)

theorem readMembers_spelling (members : List (Label × Json)) (hmembers : MembersProper members)
    (hne : members ≠ []) {fuel : Nat} (hfuel : 2 * (membersSpelling members).length + 1 ≤ fuel)
    (rest : List Char) :
    readMembers fuel (membersSpelling members ++ '\x7d' :: rest) = some (members, rest) := by
  obtain ⟨fuel, rfl⟩ : ∃ f, fuel = f + 1 := Nat.exists_eq_succ_of_ne_zero (by omega)
  match members with
  | [] => exact absurd rfl hne
  | [(label, j)] =>
    simp only [membersSpelling, List.length_append, List.length_cons, List.append_assoc,
      List.cons_append] at hfuel ⊢
    exact readMembers_last
      (readValue_spelling j hmembers.1 (by omega) (ended_of_ne_digit _ (by decide) (by decide)))
  | (label, j) :: m :: members =>
    simp only [membersSpelling, List.length_append, List.length_cons, List.append_assoc,
      List.cons_append] at hfuel ⊢
    exact readMembers_more
      (readValue_spelling j hmembers.1 (by omega) (ended_of_ne_digit _ (by decide) (by decide)))
      (readMembers_spelling (m :: members) hmembers.2 (by simp) (by omega) rest)

end

theorem parse_spelling {j : Json} (hj : j.Proper) : parse (String.ofList j.spelling) = some j := by
  have hread : readValue (2 * j.spelling.length + 2) (j.spelling ++ []) = some (j, []) :=
    readValue_spelling j hj (by omega) (by simp [Ended])
  rw [List.append_nil] at hread
  rw [parse, String.toList_ofList]
  simp only [hread, Option.bind_eq_bind, Option.bind_some]
  rfl

structure ReadsProper (fuel : Nat) : Prop where
  value {cs j rest} : readValue fuel cs = some (j, rest) → j.Proper
  items {cs items rest} : readItems fuel cs = some (items, rest) → ItemsProper items
  members {cs members rest} : readMembers fuel cs = some (members, rest) → MembersProper members

variable {fuel : Nat}

theorem ReadsProper.value_succ (ih : ReadsProper fuel) {cs rest : List Char} {j : Json}
    (h : readValue (fuel + 1) cs = some (j, rest)) : j.Proper := by
  simp only [readValue] at h
  split at h
  case h_1 => cases h
  case h_5 =>
    obtain ⟨read, -, h⟩ := Option.map_eq_some_iff.1 h
    cases h
    trivial
  case h_6 =>
    split at h
    · cases h
      trivial
    · obtain ⟨read, hread, h⟩ := Option.map_eq_some_iff.1 h
      cases h
      exact ih.items hread
  case h_7 =>
    split at h
    · cases h
      trivial
    · obtain ⟨read, hread, h⟩ := Option.map_eq_some_iff.1 h
      cases h
      exact ih.members hread
  case h_8 =>
    obtain ⟨read, hread, h⟩ := Option.map_eq_some_iff.1 h
    cases h
    exact proper_of_readNumeral hread
  all_goals
    cases h
    trivial

theorem ReadsProper.items_succ (ih : ReadsProper fuel) {cs rest : List Char} {items : List Json}
    (h : readItems (fuel + 1) cs = some (items, rest)) : ItemsProper items := by
  simp only [readItems, Option.bind_eq_bind, Option.bind_eq_some_iff, Prod.exists] at h
  obtain ⟨item, tail, hitem, h⟩ := h
  split at h
  · cases h
    exact ⟨ih.value hitem, trivial⟩
  · simp only [Option.bind_eq_some_iff, Prod.exists] at h
    obtain ⟨more, last, hmore, h⟩ := h
    cases h
    exact ⟨ih.value hitem, ih.items hmore⟩
  · cases h

theorem ReadsProper.members_succ (ih : ReadsProper fuel) {cs rest : List Char}
    {members : List (Label × Json)} (h : readMembers (fuel + 1) cs = some (members, rest)) :
    MembersProper members := by
  simp only [readMembers] at h
  split at h
  · simp only [Option.bind_eq_bind, Option.bind_eq_some_iff, Prod.exists] at h
    obtain ⟨label, tail, -, h⟩ := h
    split at h
    · simp only [Option.bind_eq_some_iff, Prod.exists] at h
      obtain ⟨member, tail, hmember, h⟩ := h
      split at h
      · cases h
        exact ⟨ih.value hmember, trivial⟩
      · simp only [Option.bind_eq_some_iff, Prod.exists] at h
        obtain ⟨more, last, hmore, h⟩ := h
        cases h
        exact ⟨ih.value hmember, ih.members hmore⟩
      · cases h
    · cases h
  · cases h

theorem readsProper (fuel : Nat) : ReadsProper fuel := by
  induction fuel with
  | zero => constructor <;> simp [readValue, readItems, readMembers]
  | succ fuel ih => exact ⟨ih.value_succ, ih.items_succ, ih.members_succ⟩

def Spelled (j : Json) : Prop := ∃ text, parse text = some j

theorem spelled_iff {j : Json} : j.Spelled ↔ j.Proper := by
  constructor
  · rintro ⟨text, h⟩
    simp only [parse, Option.bind_eq_bind, Option.bind_eq_some_iff, Prod.exists] at h
    obtain ⟨value, rest, hread, h⟩ := h
    split_ifs at h
    cases h
    exact (readsProper _).value hread
  · exact fun hj => ⟨_, parse_spelling hj⟩

end Json
end LogDelivery
