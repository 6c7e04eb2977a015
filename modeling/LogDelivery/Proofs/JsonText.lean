import LogDelivery.Json.Decoder
import LogDelivery.Proofs.Spelling
import Mathlib.Tactic.IntervalCases

/-!
# JSON texts read back

The text of a document spells that document and nothing else, whatever characters its strings have and
however large its numbers are.
-/
namespace LogDelivery

namespace Numeral

open Json

def ofInt : Int → Numeral
  | .ofNat n => ⟨false, Nat.toDigits 10 n, [], none⟩
  | .negSucc n => ⟨true, Nat.toDigits 10 (n + 1), [], none⟩

theorem head_toDigits {n : Nat} (hn : 0 < n) :
    ∃ c rest, Nat.toDigits 10 n = c :: rest ∧ c ≠ '0' := by
  induction n using Nat.strongRecOn with
  | ind n ih =>
    by_cases hsmall : n < 10
    · refine ⟨n.digitChar, [], Nat.toDigits_of_lt_base hsmall, ?_⟩
      interval_cases n <;> decide
    · obtain ⟨c, rest, hdiv, hc⟩ := ih (n / 10) (by omega) (by omega)
      refine ⟨c, rest ++ [(n % 10).digitChar], ?_, hc⟩
      rw [Nat.toDigits_of_base_le (by decide) (by omega), hdiv, List.cons_append]

theorem proper_ofInt (i : Int) : (ofInt i).Proper := by
  have hwhole (n : Nat) : Nat.toDigits 10 n = ['0'] ∨ Nat.toDigits 10 n ≠ [] ∧
      (Nat.toDigits 10 n).head? ≠ some '0' ∧ ∀ d ∈ Nat.toDigits 10 n, d.isDigit := by
    obtain rfl | hn := Nat.eq_zero_or_pos n
    · exact .inl rfl
    · obtain ⟨c, cs, hdigits, hc⟩ := head_toDigits hn
      refine .inr ⟨Nat.toDigits_ne_nil, ?_, fun _ => isDigit_of_mem⟩
      rw [hdigits]
      simpa using hc
  cases i with
  | ofNat n => exact ⟨hwhole n, by simp [ofInt]⟩
  | negSucc n => exact ⟨hwhole (n + 1), by simp [ofInt]⟩

theorem spelling_ofInt (i : Int) : (ofInt i).spelling = Document.integerText i := by
  cases i <;> simp [spelling, ofInt, fractionSpelling, exponentSpelling, Document.integerText]

end Numeral

namespace Json

theorem integer?_ofInt (i : Int) : (Numeral.ofInt i).integer? = some i := by
  cases i with
  | ofNat n => simp [Numeral.ofInt, Numeral.integer?, decimalValue_toDigits]
  | negSucc n => simp [Numeral.ofInt, Numeral.integer?, decimalValue_toDigits, Int.negSucc_eq]

mutual

def ofDocument : Document → Json
  | .text s => .string (some s)
  | .integer i => .number (.ofInt i)
  | .list items => .array (ofItems items)
  | .record fields => .object (ofFields fields)

def ofItems : List Document → List Json
  | [] => []
  | d :: rest => ofDocument d :: ofItems rest

def ofFields : List (String × Document) → List (Label × Json)
  | [] => []
  | (name, d) :: rest => (some name, ofDocument d) :: ofFields rest

end

theorem ofItems_eq_map (items : List Document) : ofItems items = items.map ofDocument := by
  induction items with
  | nil => rfl
  | cons d rest ih => rw [ofItems, ih, List.map_cons]

theorem ofFields_eq_map (fields : List (String × Document)) :
    ofFields fields = fields.map fun f => (some f.1, ofDocument f.2) := by
  induction fields with
  | nil => rfl
  | cons f rest ih => rw [ofFields, ih, List.map_cons]

mutual

theorem spelling_ofDocument (d : Document) : (ofDocument d).spelling = d.json := by
  match d with
  | .text s => simp [ofDocument, spelling, labelSpelling, Document.json, Text.jsonQuoted]
  | .integer i => exact Numeral.spelling_ofInt i
  | .list items => rw [ofDocument, spelling, itemsSpelling_ofItems items, Document.json]
  | .record fields => rw [ofDocument, spelling, membersSpelling_ofFields fields, Document.json]

theorem itemsSpelling_ofItems (items : List Document) :
    itemsSpelling (ofItems items) = Document.jsonItems items := by
  match items with
  | [] => rfl
  | [d] => exact spelling_ofDocument d
  | d :: e :: items =>
    have hrest := itemsSpelling_ofItems (e :: items)
    rw [ofItems] at hrest
    simp [ofItems, itemsSpelling, Document.jsonItems, spelling_ofDocument d, hrest]

theorem membersSpelling_ofFields (fields : List (String × Document)) :
    membersSpelling (ofFields fields) = Document.jsonFields fields := by
  match fields with
  | [] => rfl
  | [(name, d)] =>
    simp [ofFields, membersSpelling, labelSpelling, Document.jsonFields, Text.jsonQuoted,
      spelling_ofDocument d]
  | (name, d) :: f :: fields =>
    have hrest := membersSpelling_ofFields (f :: fields)
    rw [ofFields] at hrest
    simp [ofFields, membersSpelling, labelSpelling, Document.jsonFields, Text.jsonQuoted,
      spelling_ofDocument d, hrest]

end

mutual

theorem proper_ofDocument (d : Document) : (ofDocument d).Proper := by
  match d with
  | .text s => trivial
  | .integer i => exact Numeral.proper_ofInt i
  | .list items => exact itemsProper_ofItems items
  | .record fields => exact membersProper_ofFields fields

theorem itemsProper_ofItems (items : List Document) : ItemsProper (ofItems items) := by
  match items with
  | [] => trivial
  | d :: items => exact ⟨proper_ofDocument d, itemsProper_ofItems items⟩

theorem membersProper_ofFields (fields : List (String × Document)) :
    MembersProper (ofFields fields) := by
  match fields with
  | [] => trivial
  | (name, d) :: fields => exact ⟨proper_ofDocument d, membersProper_ofFields fields⟩

end

/-- The text of a document spells the document. -/
theorem parse_json (d : Document) : parse (String.ofList d.json) = some (ofDocument d) := by
  rw [← spelling_ofDocument]
  exact parse_spelling (proper_ofDocument d)

end Json
end LogDelivery
