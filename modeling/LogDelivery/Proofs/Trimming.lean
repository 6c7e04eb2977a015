import LogDelivery.Text.Basic
import Mathlib.Data.List.DropRight

/-!
# Ends of texts

Characters with a property are taken or dropped at the ends of a text up to the first one without it.
-/
namespace LogDelivery.Text

variable {p : Char → Bool} {cs before after : List Char} {c : Char}

theorem dropWhile_stop (h : ∀ c ∈ before, p c) (stop : ∀ c, after.head? = some c → p c = false) :
    (before ++ after).dropWhile p = after := by
  rw [List.dropWhile_append_of_pos h]
  cases after with
  | nil => rfl
  | cons c after => simp [stop c rfl]

theorem takeWhile_stop (h : ∀ c ∈ before, p c) (stop : ∀ c, after.head? = some c → p c = false) :
    (before ++ after).takeWhile p = before := by
  rw [List.takeWhile_append_of_pos h]
  cases after with
  | nil => simp
  | cons c after => simp [stop c rfl]

theorem drop_length_takeWhile : cs.drop (cs.takeWhile p).length = cs.dropWhile p := by
  have h : (cs.takeWhile p ++ cs.dropWhile p).drop (cs.takeWhile p).length = cs.dropWhile p :=
    List.drop_left
  rwa [List.takeWhile_append_dropWhile] at h

theorem dropEndWhile_stop (stop : ∀ c, before.getLast? = some c → p c = false)
    (h : ∀ c ∈ after, p c) : dropEndWhile p (before ++ after) = before := by
  rw [dropEndWhile, List.reverse_append, dropWhile_stop, List.reverse_reverse]
  · simpa using h
  · simpa using stop

theorem head?_dropWhile (h : (cs.dropWhile p).head? = some c) : p c = false := by
  simpa [h] using List.head?_dropWhile_not p cs

theorem getLast?_dropEndWhile (h : (dropEndWhile p cs).getLast? = some c) : p c = false := by
  rw [dropEndWhile, List.getLast?_reverse] at h
  exact head?_dropWhile h

theorem dropEndWhile_append_dropped (p : Char → Bool) (cs : List Char) :
    ∃ dropped, dropEndWhile p cs ++ dropped = cs ∧ ∀ c ∈ dropped, p c :=
  ⟨cs.rtakeWhile p, List.rdropWhile_append_rtakeWhile, fun _ => List.mem_rtakeWhile_imp⟩

theorem dropEndWhile_isPrefix : dropEndWhile p cs <+: cs := List.rdropWhile_prefix p cs

theorem dropEndWhile_eq_self (stop : ∀ c, cs.getLast? = some c → p c = false) :
    dropEndWhile p cs = cs := by
  conv_lhs => rw [← List.append_nil cs]
  exact dropEndWhile_stop stop (by simp)

theorem isBlank_lineFeed : isBlank '\n' = true := by decide

theorem isBlank_carriageReturn : isBlank '\r' = true := by decide

theorem trimEnd_eq_nil_iff : trimEnd cs = [] ↔ ∀ c ∈ cs, isBlank c := List.rdropWhile_eq_nil_iff

theorem trimStart_eq_self (first : ∀ c, cs.head? = some c → isBlank c = false) :
    trimStart cs = cs := by
  conv_lhs => rw [← List.nil_append cs]
  exact dropWhile_stop (by simp) first

end LogDelivery.Text
