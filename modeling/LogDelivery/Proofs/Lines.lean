import LogDelivery.Forwarder
import LogDelivery.Proofs.Trimming

/-!
# Lines that name their level

A line may name its level: there may be brackets around the name and colons behind it, and a message follows
after blanks. The parts of such a line are given with what each may consist of, and the trims and the one cut at
a blank by which a line is read find exactly these parts.
-/
namespace LogDelivery

namespace Level

variable {s : String} {level : Level}

def spellings : Level → List String
  | .trace => ["trace"]
  | .debug => ["debug"]
  | .info => ["info"]
  | .warn => ["warn", "warning"]
  | .error => ["error", "err"]
  | .fatal => ["fatal", "critical"]

theorem ofText?_eq_some_iff : ofText? s = some level ↔ Text.asciiLower s ∈ level.spellings := by
  unfold ofText?
  split <;> cases level <;> simp_all [spellings]

theorem spelling_isLower {name : String} (h : name ∈ level.spellings) :
    name.toList ≠ [] ∧ ∀ c ∈ name.toList, c.isLower := by
  have hall : ∀ level : Level, level.spellings.all fun name =>
      !name.toList.isEmpty && name.toList.all Char.isLower := by
    intro level
    cases level <;> decide +kernel
  simpa using List.all_eq_true.mp (hall level) name h

end Level

namespace Text

variable {c : Char}

theorem isAlpha_iff :
    c.isAlpha ↔ (65 ≤ c.toNat ∧ c.toNat ≤ 90) ∨ (97 ≤ c.toNat ∧ c.toNat ≤ 122) := by
  have hranges : c.isAlpha = (decide (65 ≤ c.val ∧ c.val ≤ 90) ||
      (decide (97 ≤ c.val) && decide (c.val ≤ 122))) := rfl
  rw [hranges]
  simp [UInt32.le_iff_toNat_le]

theorem isAlpha_of_isLower (h : (asciiLowerChar c).isLower) : c.isAlpha := by
  unfold asciiLowerChar at h
  split at h
  · next hupper =>
    have hle : 65 ≤ c.toNat ∧ c.toNat ≤ 90 := hupper
    exact isAlpha_iff.mpr (Or.inl hle)
  · exact Bool.or_eq_true_iff.mpr (Or.inr h)

theorem isBlank_of_isAlpha (h : c.isAlpha) : isBlank c = false := by
  rw [isAlpha_iff] at h
  simp [isBlank]
  omega

theorem ne_of_isAlpha {d : Char} (h : c.isAlpha) (hd : d.isAlpha = false) : (c == d) = false := by
  rw [beq_eq_false_iff_ne]
  rintro rfl
  rw [h] at hd
  cases hd

end Text

namespace Forwarder

variable {line : List Char} {level : Level} {s : String} {t : UInt64} {e : Event}

/-- A line that names its level, in its parts. -/
structure MarkedLine where
  level : Level
  lead : List Char
  opening : List Char
  name : List Char
  closing : List Char
  colons : List Char
  gap : List Char
  message : List Char
  lead_blank : ∀ c ∈ lead, Text.isBlank c
  opening_brackets : ∀ c ∈ opening, c = '['
  name_known : Text.asciiLower (String.ofList name) ∈ level.spellings
  closing_brackets : ∀ c ∈ closing, c = ']'
  colons_only : ∀ c ∈ colons, c = ':'
  gap_ne_nil : gap ≠ []
  gap_blank : ∀ c ∈ gap, Text.isBlank c
  message_begins : ∃ c, message.head? = some c ∧ Text.isBlank c = false

namespace MarkedLine

variable (m : MarkedLine)

def word : List Char := m.opening ++ (m.name ++ (m.closing ++ m.colons))

def text : List Char := m.lead ++ (m.word ++ (m.gap ++ m.message))

theorem name_isAlpha : m.name ≠ [] ∧ ∀ c ∈ m.name, c.isAlpha := by
  have hlower := Level.spelling_isLower m.name_known
  simp only [Text.asciiLower, String.toList_ofList, List.map_eq_nil_iff, ne_eq, List.forall_mem_map]
    at hlower
  exact ⟨hlower.1, fun c hc => Text.isAlpha_of_isLower (hlower.2 c hc)⟩

theorem word_ne_nil : m.word ≠ [] := by
  simp [word, m.name_isAlpha.1]

theorem word_not_blank : ∀ c ∈ m.word, Text.isBlank c = false := by
  intro c hc
  simp only [word, List.mem_append] at hc
  rcases hc with hc | hc | hc | hc
  · rw [m.opening_brackets c hc]; decide
  · exact Text.isBlank_of_isAlpha (m.name_isAlpha.2 c hc)
  · rw [m.closing_brackets c hc]; decide
  · rw [m.colons_only c hc]; decide

/-- The marks around the name are taken off, first those in front, then the colons, then the brackets. -/
theorem candidate_word : candidate m.word = String.ofList m.name := by
  have hfront : m.word.dropWhile (· == '[') = m.name ++ (m.closing ++ m.colons) := by
    refine Text.dropWhile_stop (by simpa using m.opening_brackets) fun c hc => ?_
    rw [List.head?_append_of_ne_nil _ m.name_isAlpha.1] at hc
    exact Text.ne_of_isAlpha (m.name_isAlpha.2 c (List.mem_of_mem_head? hc)) (by decide)
  have hcolons : Text.dropEndWhile (· == ':') ((m.name ++ m.closing) ++ m.colons) =
      m.name ++ m.closing := by
    refine Text.dropEndWhile_stop (fun c hc => ?_) (by simpa using m.colons_only)
    rcases List.mem_append.mp (List.mem_of_mem_getLast? hc) with hmem | hmem
    · exact Text.ne_of_isAlpha (m.name_isAlpha.2 c hmem) (by decide)
    · rw [m.closing_brackets c hmem]; decide
  have hclosing : Text.dropEndWhile (· == ']') (m.name ++ m.closing) = m.name := by
    refine Text.dropEndWhile_stop (fun c hc => ?_) (by simpa using m.closing_brackets)
    exact Text.ne_of_isAlpha (m.name_isAlpha.2 c (List.mem_of_mem_getLast? hc)) (by decide)
  rw [candidate, hfront, ← List.append_assoc, hcolons, hclosing]

end MarkedLine

theorem word_eq (word : List Char) : ∃ opening closing colons,
    word = opening ++ ((candidate word).toList ++ (closing ++ colons)) ∧
      (∀ c ∈ opening, c = '[') ∧ (∀ c ∈ closing, c = ']') ∧ (∀ c ∈ colons, c = ':') := by
  obtain ⟨colons, hcolons, hall⟩ :=
    Text.dropEndWhile_append_dropped (· == ':') (word.dropWhile (· == '['))
  obtain ⟨closing, hclosing, hall'⟩ := Text.dropEndWhile_append_dropped (· == ']')
    (Text.dropEndWhile (· == ':') (word.dropWhile (· == '[')))
  refine ⟨word.takeWhile (· == '['), closing, colons, ?_, ?_, ?_, ?_⟩
  · calc word = word.takeWhile (· == '[') ++ word.dropWhile (· == '[') :=
          List.takeWhile_append_dropWhile.symm
      _ = word.takeWhile (· == '[') ++ ((candidate word).toList ++ closing ++ colons) := by
          rw [candidate, String.toList_ofList, hclosing, hcolons]
      _ = word.takeWhile (· == '[') ++ ((candidate word).toList ++ (closing ++ colons)) := by
          rw [List.append_assoc]
  · exact fun c hc => by simpa using List.mem_takeWhile_imp hc
  · exact fun c hc => by simpa using hall' c hc
  · exact fun c hc => by simpa using hall c hc

/-- A line that names its level is read as its message at that level, and another one, unless it is blank,
as a whole at the usual level. Blanks at the end do not count. -/
inductive ReadAs (line : List Char) (t : UInt64) : Event → Prop
  | marked (m : MarkedLine) (h : m.text = Text.trimEnd line) :
      ReadAs line t (.ofMessage m.level (String.ofList m.message) t)
  | plain (hletter : ∃ c ∈ line, Text.isBlank c = false)
      (h : ∀ m : MarkedLine, m.text ≠ Text.trimEnd line) :
      ReadAs line t (.ofMessage .info (String.ofList (Text.trimEnd line)) t)

theorem trimStart_trimEnd_eq_nil_iff :
    Text.trimStart (Text.trimEnd line) = [] ↔ ∀ c ∈ line, Text.isBlank c := by
  constructor
  · intro h
    obtain ⟨dropped, hdropped, hblank⟩ := Text.dropEndWhile_append_dropped Text.isBlank line
    have hkept : ∀ c ∈ Text.trimEnd line, Text.isBlank c := by simpa [Text.trimStart] using h
    intro c hc
    rw [← hdropped] at hc
    exact (List.mem_append.mp hc).elim (hkept c) (hblank c)
  · intro h
    rw [Text.trimEnd_eq_nil_iff.mpr h, Text.trimStart, List.dropWhile_nil]

theorem event?_eq_none_iff : event? s t = none ↔ ∀ c ∈ s.toList, Text.isBlank c := by
  rw [← trimStart_trimEnd_eq_nil_iff, event?]
  simp only [List.isEmpty_iff]
  split
  · next h => simp [h]
  · next h =>
    simp only [h, iff_false]
    split
    · split <;> simp
    · simp

theorem event?_marked (m : MarkedLine) (h : m.text = Text.trimEnd s.toList) :
    event? s t = some (.ofMessage m.level (String.ofList m.message) t) := by
  obtain ⟨c, hc, hletter⟩ := m.message_begins
  have hstart : Text.trimStart m.text = m.word ++ (m.gap ++ m.message) := by
    refine Text.dropWhile_stop m.lead_blank fun c hc => ?_
    rw [List.head?_append_of_ne_nil _ m.word_ne_nil] at hc
    exact m.word_not_blank c (List.mem_of_mem_head? hc)
  have hword : (m.word ++ (m.gap ++ m.message)).takeWhile (fun c => !Text.isBlank c) = m.word := by
    refine Text.takeWhile_stop (by simpa using m.word_not_blank) fun c hc => ?_
    rw [List.head?_append_of_ne_nil _ m.gap_ne_nil] at hc
    simp [m.gap_blank c (List.mem_of_mem_head? hc)]
  have hrest : Text.trimStart (m.gap ++ m.message) = m.message := by
    refine Text.dropWhile_stop m.gap_blank fun d hd => ?_
    obtain rfl : c = d := Option.some.inj (hc.symm.trans hd)
    exact hletter
  have hlevel : Level.ofText? (String.ofList m.name) = some m.level :=
    Level.ofText?_eq_some_iff.mpr m.name_known
  have hmessage : m.message ≠ [] := List.ne_nil_of_mem (List.mem_of_mem_head? hc)
  simp [event?, ← h, hstart, hword, hrest, m.candidate_word, hlevel, m.word_ne_nil, hmessage]

theorem length_message_lt (m : MarkedLine) : m.message.length < m.text.length := by
  have hword := List.length_pos_iff.mpr m.word_ne_nil
  simp only [MarkedLine.text, List.length_append]
  omega

theorem exists_marked {word tail : List Char}
    (hword : word = (Text.trimStart line).takeWhile fun c => !Text.isBlank c)
    (htail : tail = (Text.trimStart line).dropWhile fun c => !Text.isBlank c)
    (hlevel : Level.ofText? (candidate word) = some level) (hne : Text.trimStart tail ≠ []) :
    ∃ m : MarkedLine, m.text = line ∧ m.level = level ∧ m.message = Text.trimStart tail := by
  obtain ⟨opening, closing, colons, hparts, hopening, hclosing, hcolons⟩ := word_eq word
  obtain ⟨c, message, hmessage⟩ := List.exists_cons_of_ne_nil hne
  have hhead : (tail.dropWhile Text.isBlank).head? = some c := congrArg List.head? hmessage
  have hletter : Text.isBlank c = false := Text.head?_dropWhile hhead
  have hgap : tail.takeWhile Text.isBlank ≠ [] := by
    cases htl : tail with
    | nil => simp [htl, Text.trimStart] at hne
    | cons d tail =>
      have hstop := Text.head?_dropWhile (htail ▸ congrArg List.head? htl)
      simp [show Text.isBlank d = true by simpa using hstop]
  let m : MarkedLine := {
    level, opening, closing, colons
    lead := line.takeWhile Text.isBlank
    name := (candidate word).toList
    gap := tail.takeWhile Text.isBlank
    message := Text.trimStart tail
    lead_blank := fun _ => List.mem_takeWhile_imp
    opening_brackets := hopening
    name_known := by rw [String.ofList_toList]; exact Level.ofText?_eq_some_iff.mp hlevel
    closing_brackets := hclosing
    colons_only := hcolons
    gap_ne_nil := hgap
    gap_blank := fun _ => List.mem_takeWhile_imp
    message_begins := ⟨c, by rw [hmessage]; rfl, hletter⟩ }
  refine ⟨m, ?_, rfl, rfl⟩
  calc m.text = line.takeWhile Text.isBlank ++ (word ++
        (tail.takeWhile Text.isBlank ++ tail.dropWhile Text.isBlank)) := by
        rw [MarkedLine.text, show m.word = word from hparts.symm]
        rfl
    _ = line.takeWhile Text.isBlank ++ Text.trimStart line := by
        rw [List.takeWhile_append_dropWhile, hword, htail, List.takeWhile_append_dropWhile]
    _ = line := List.takeWhile_append_dropWhile

/-- What is read as a whole is in no parts: a message would be shorter. -/
theorem readAs_plain (h : event? s t = some (.ofMessage .info (String.ofList (Text.trimEnd s.toList)) t)) :
    ReadAs s.toList t (.ofMessage .info (String.ofList (Text.trimEnd s.toList)) t) := by
  refine .plain ?_ fun m hm => ?_
  · by_contra hblank
    have hnone : event? s t = none := event?_eq_none_iff.mpr (by simpa using hblank)
    rw [hnone] at h
    cases h
  · rw [event?_marked m hm] at h
    have hmessage : m.message = Text.trimEnd s.toList := by
      simpa [Event.ofMessage, ← String.toList_inj] using (congrArg (Option.bind · Event.message) h)
    have hlt := length_message_lt m
    rw [hm, hmessage] at hlt
    exact Nat.lt_irrefl _ hlt

theorem readAs_of_event? (h : event? s t = some e) : ReadAs s.toList t e := by
  have hevent := h
  unfold event? at h
  simp only [Text.drop_length_takeWhile, List.isEmpty_iff] at h
  split at h
  · cases h
  · split at h
    · next level hlevel =>
      split at h
      · obtain rfl := Option.some.inj h
        exact readAs_plain hevent
      · next hne =>
        obtain ⟨m, htext, rfl, hmessage⟩ := exists_marked rfl rfl hlevel hne
        rw [← hmessage] at h
        obtain rfl := Option.some.inj h
        exact .marked m htext
    · obtain rfl := Option.some.inj h
      exact readAs_plain hevent

theorem event?_eq_some_iff : event? s t = some e ↔ ReadAs s.toList t e := by
  refine ⟨readAs_of_event?, fun h => ?_⟩
  cases h with
  | marked m h => exact event?_marked m h
  | plain hletter hno =>
    cases he : event? s t with
    | none =>
      obtain ⟨c, hc, hletter⟩ := hletter
      rw [event?_eq_none_iff.mp he c hc] at hletter
      cases hletter
    | some e =>
      cases readAs_of_event? he with
      | marked m h => exact absurd h (hno m)
      | plain => rfl

theorem ReadAs.message_isSuffix (h : ReadAs line t e) : ∃ message,
    e.message = some (String.ofList message) ∧ message <:+ Text.trimEnd line ∧
      ∃ c ∈ message, Text.isBlank c = false := by
  cases h with
  | marked m h =>
    obtain ⟨c, hc, hletter⟩ := m.message_begins
    refine ⟨m.message, rfl, ?_, c, List.mem_of_mem_head? hc, hletter⟩
    rw [← h]
    exact ⟨m.lead ++ (m.word ++ m.gap), by simp [MarkedLine.text]⟩
  | plain hletter h =>
    refine ⟨_, rfl, List.suffix_refl _, ?_⟩
    by_contra hblank
    have hall : ∀ c ∈ line, Text.isBlank c := by
      rw [← trimStart_trimEnd_eq_nil_iff, Text.trimStart, List.dropWhile_eq_nil_iff]
      simpa using hblank
    obtain ⟨c, hc, hletter⟩ := hletter
    rw [hall c hc] at hletter
    cases hletter

end Forwarder
end LogDelivery
