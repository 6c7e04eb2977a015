import LogDelivery.Proofs.Trimming
import LogDelivery.Settings
import Mathlib.Data.String.Basic

/-!
# The address of the collector

Blanks are trimmed before slashes are, and the scheme is looked for last. So what is made of a variable is
an address whenever there is more in it than slashes, and is made again from itself unless a blank comes before
the slashes.
-/
namespace LogDelivery.Settings

variable {s v e : String} {c : Char} {env : Environment}

def schemes : List String := ["https://", "http://"]

def lastLetter? (s : String) : Option Char := s.toList.reverse.find? (· != '/')

def Environment.set (env : Environment) (name value : String) : Environment :=
  fun n => if n = name then some value else env n

def written (env : Environment) : String := (value env "URL").getD ({} : Settings).endpoint

theorem hasScheme_iff : hasScheme s ↔ ∃ scheme ∈ schemes, scheme.toList <+: s.toList := by
  have hstarts : ∀ p : String, p.isPrefixOf s = true ↔ p.toList <+: s.toList :=
    fun p => String.startsWith_string_iff
  simp [hasScheme, schemes, hstarts]

theorem scheme_ends_in_slash : ∀ scheme ∈ schemes, scheme.toList.getLast? = some '/' := by
  decide +kernel

theorem rest_eq_empty {scheme rest : String} (hmem : scheme ∈ schemes)
    (h : scheme ++ rest = "https://") : rest = "" := by
  have hlist := congrArg String.toList h
  rw [String.toList_append] at hlist
  simp only [schemes, List.mem_cons, List.not_mem_nil, or_false] at hmem
  rcases hmem with rfl | rfl
  · simpa using hlist
  · cases hlist

theorem scheme_begins_with_letter : ∀ scheme ∈ schemes, scheme.toList.head? = some 'h' := by
  decide +kernel

theorem lastLetter?_eq : lastLetter? s = (trimEndSlashes s).toList.getLast? := by
  have hfind : ∀ cs : List Char, cs.find? (· != '/') = (cs.dropWhile (· == '/')).head? := by
    intro cs
    induction cs with
    | nil => rfl
    | cons c cs ih => by_cases h : c = '/' <;> simp [h, ih]
  rw [lastLetter?, hfind, trimEndSlashes, Text.dropEndWhile, String.toList_ofList, List.getLast?_reverse]

theorem lastLetter?_ne_slash (h : lastLetter? s = some c) : c ≠ '/' := by
  simpa using List.find?_some h

theorem lastLetter?_eq_none_iff : lastLetter? s = none ↔ trimEndSlashes s = "" := by
  rw [lastLetter?_eq, List.getLast?_eq_none_iff, String.toList_eq_nil_iff]

theorem normalizedUrl_cases (v : String) :
    (hasScheme (trimEndSlashes v) ∧ normalizedUrl v = trimEndSlashes v) ∨
      (¬ hasScheme (trimEndSlashes v) ∧ normalizedUrl v = "https://" ++ trimEndSlashes v) := by
  cases h : hasScheme (trimEndSlashes v) <;> simp [normalizedUrl, h]

theorem normalizedUrl_eq_scheme_append (v : String) :
    ∃ scheme ∈ schemes, ∃ rest, normalizedUrl v = scheme ++ rest ∧
      (rest = "" ↔ lastLetter? v = none) := by
  rcases normalizedUrl_cases v with ⟨hscheme, heq⟩ | ⟨-, heq⟩
  · obtain ⟨scheme, hmem, rest, hrest⟩ := hasScheme_iff.mp hscheme
    have hsplit : trimEndSlashes v = scheme ++ String.ofList rest := by
      rw [← String.toList_inj, String.toList_append, String.toList_ofList, hrest]
    refine ⟨scheme, hmem, String.ofList rest, heq.trans hsplit, ?_⟩
    have hlast := lastLetter?_eq (s := v)
    rw [hsplit, String.toList_append, String.toList_ofList, List.getLast?_append,
      scheme_ends_in_slash scheme hmem] at hlast
    constructor
    · intro hnil
      have hslash : lastLetter? v = some '/' := by
        simpa [String.ofList_eq_empty_iff.mp hnil] using hlast
      exact absurd rfl (lastLetter?_ne_slash hslash)
    · intro hnone
      simp [hnone] at hlast
  · exact ⟨"https://", by decide +kernel, _, heq, lastLetter?_eq_none_iff.symm⟩

theorem getLast?_normalizedUrl :
    (normalizedUrl v).toList.getLast? = some ((lastLetter? v).getD '/') := by
  rcases normalizedUrl_cases v with ⟨hscheme, heq⟩ | ⟨-, heq⟩
  · rw [heq, ← lastLetter?_eq]
    obtain ⟨scheme, hmem, hstarts⟩ := hasScheme_iff.mp hscheme
    cases hlast : lastLetter? v with
    | some c => rfl
    | none =>
      rw [lastLetter?_eq_none_iff.mp hlast] at hstarts
      have hend := scheme_ends_in_slash scheme hmem
      rw [List.prefix_nil.mp hstarts] at hend
      cases hend
  · rw [heq, String.toList_append, List.getLast?_append, ← lastLetter?_eq]
    cases lastLetter? v <;> rfl

theorem normalizedUrl_of_slashes (h : lastLetter? v = none) : normalizedUrl v = "https://" := by
  rw [normalizedUrl, lastLetter?_eq_none_iff.mp h]
  decide +kernel

theorem hasScheme_normalizedUrl : hasScheme (normalizedUrl v) := by
  obtain ⟨scheme, hmem, rest, heq, -⟩ := normalizedUrl_eq_scheme_append v
  exact hasScheme_iff.mpr ⟨scheme, hmem, by rw [heq, String.toList_append]; exact List.prefix_append _ _⟩

theorem head?_normalizedUrl : (normalizedUrl v).toList.head? = some 'h' := by
  obtain ⟨scheme, hmem, rest, heq, -⟩ := normalizedUrl_eq_scheme_append v
  rw [heq, String.toList_append, List.head?_append, scheme_begins_with_letter scheme hmem]
  rfl

theorem toList_trimmed (hfirst : e.toList.head? = some 'h') :
    (Text.trimmed e).toList = Text.trimEnd e.toList := by
  rw [Text.trimmed, String.toList_ofList, Text.trim, Text.trimStart_eq_self]
  intro c hc
  obtain rfl : 'h' = c := Option.some.inj (hfirst.symm.trans hc)
  decide

theorem trimmed_ne_empty (hfirst : e.toList.head? = some 'h') : Text.trimmed e ≠ "" := by
  intro h
  have hblank : Text.trimEnd e.toList = [] := by rw [← toList_trimmed hfirst, h, String.toList_empty]
  have hall := Text.trimEnd_eq_nil_iff.mp hblank
  exact absurd (hall 'h' (List.mem_of_mem_head? hfirst)) (by decide)

theorem normalizedUrl_trimmed (hscheme : hasScheme e) (hfirst : e.toList.head? = some 'h')
    (hlast : e.toList.getLast? = some c) (hslash : c ≠ '/') (hblank : Text.isBlank c = false) :
    normalizedUrl (Text.trimmed e) = e := by
  have hstop : ∀ p : Char → Bool, p c = false → Text.dropEndWhile p e.toList = e.toList := by
    refine fun p hp => Text.dropEndWhile_eq_self fun d hd => ?_
    obtain rfl : c = d := Option.some.inj (hlast.symm.trans hd)
    exact hp
  have htrim : Text.trimmed e = e := by
    rw [← String.toList_inj, toList_trimmed hfirst]
    exact hstop _ hblank
  have hslashes : trimEndSlashes e = e := by
    rw [trimEndSlashes, hstop _ (by simpa using hslash), String.ofList_toList]
  rw [htrim, normalizedUrl, hslashes]
  exact if_pos hscheme

/-- An address that ends in a blank is not made from itself. -/
theorem not_blank_of_normalizedUrl_trimmed (hfirst : e.toList.head? = some 'h')
    (hlast : lastLetter? (Text.trimmed e) = some c)
    (h : normalizedUrl (Text.trimmed e) = e) : Text.isBlank c = false := by
  have hkept : (trimEndSlashes (Text.trimmed e)).toList <+: (Text.trimmed e).toList := by
    rw [trimEndSlashes, String.toList_ofList]
    exact Text.dropEndWhile_isPrefix
  have htrim : (Text.trimmed e).toList <+: e.toList := by
    rw [toList_trimmed hfirst]
    exact Text.dropEndWhile_isPrefix
  rw [lastLetter?_eq] at hlast
  rcases normalizedUrl_cases (Text.trimmed e) with ⟨-, heq⟩ | ⟨hscheme, heq⟩
  · -- nothing has been trimmed, so there was no blank
    have hsame : (trimEndSlashes (Text.trimmed e)).toList = (Text.trimmed e).toList :=
      hkept.eq_of_length_le (by rw [← heq, h]; exact htrim.length_le)
    rw [hsame, toList_trimmed hfirst] at hlast
    exact Text.getLast?_dropEndWhile hlast
  · -- what is behind the scheme is where the scheme is
    have hfront : "https://".toList <+: e.toList := by
      rw [← h, heq, String.toList_append]
      exact List.prefix_append _ _
    rcases List.prefix_or_prefix_of_prefix hfront (hkept.trans htrim) with hlong | hshort
    · exact absurd (hasScheme_iff.mpr ⟨_, by decide +kernel, hlong⟩) hscheme
    · have hall : "https://".toList.all fun c => !Text.isBlank c := by decide +kernel
      have hmem := hshort.subset (List.mem_of_mem_getLast? hlast)
      simpa using List.all_eq_true.mp hall c hmem

/-- What is made of a variable is made again from itself if it ends in no blank and was more than
slashes. -/
theorem normalizedUrl_stable_iff :
    normalizedUrl (Text.trimmed (normalizedUrl v)) = normalizedUrl v ↔
      ∃ c, lastLetter? v = some c ∧ Text.isBlank c = false := by
  have hlast := getLast?_normalizedUrl (v := v)
  constructor
  · intro h
    have hagain := getLast?_normalizedUrl (v := Text.trimmed (normalizedUrl v))
    rw [h, hlast] at hagain
    cases hv : lastLetter? v with
    | some c =>
      cases hw : lastLetter? (Text.trimmed (normalizedUrl v)) with
      | some d =>
        obtain rfl : c = d := by simpa [hv, hw] using hagain
        exact ⟨c, rfl, not_blank_of_normalizedUrl_trimmed head?_normalizedUrl hw h⟩
      | none =>
        have hslash : c = '/' := by simpa [hv, hw] using hagain
        exact absurd hslash (lastLetter?_ne_slash hv)
    | none =>
      rw [normalizedUrl_of_slashes hv] at h
      exact absurd h (by decide +kernel)
  · rintro ⟨c, hv, hblank⟩
    rw [hv] at hlast
    exact normalizedUrl_trimmed hasScheme_normalizedUrl head?_normalizedUrl hlast
      (lastLetter?_ne_slash hv) hblank

theorem endpoint_eq (env : Environment) :
    (ofEnvironment env).endpoint = normalizedUrl (written env) := by
  have hendpoint : (ofEnvironment env).endpoint =
      ((value env "URL").map normalizedUrl).getD ({} : Settings).endpoint := rfl
  simp only [hendpoint, written]
  cases value env "URL" with
  | none => decide +kernel
  | some v => rw [Option.map_some, Option.getD_some, Option.getD_some]

theorem value_set (h : Text.trimmed s ≠ "") (name : String) :
    value (env.set (variablePrefix ++ name) s) name = some (Text.trimmed s) := by
  simp [value, trimmedValue, Environment.set, h]

theorem logsPath_eq_slash_append (env : Environment) :
    ∃ rest, (ofEnvironment env).logsPath = "/" ++ rest := by
  have habsolute : ∀ path : String, ∃ rest, absolutePath path = "/" ++ rest := by
    intro path
    unfold absolutePath
    split
    · next h =>
      obtain ⟨rest, hrest⟩ := List.head?_eq_some_iff.mp h
      exact ⟨String.ofList rest, by simp [← String.toList_inj, hrest]⟩
    · exact ⟨path, rfl⟩
  have hpath : (ofEnvironment env).logsPath =
      ((value env "LOGS_PATH").map absolutePath).getD "/api/v1/logs" := rfl
  rw [hpath]
  cases value env "LOGS_PATH" with
  | none => exact ⟨"api/v1/logs", rfl⟩
  | some path => exact habsolute path

/-- The endpoint begins with a scheme and the path with a slash. The endpoint ends in no slash, and there is
something between the scheme and the path, exactly if the address as it is written is more than slashes; and
it is made again from itself exactly if its last letter is no blank. -/
theorem address_wellFormed_iff (env : Environment) :
    let s := ofEnvironment env
    (∃ scheme ∈ schemes, ∃ rest, s.endpoint = scheme ++ rest) ∧
    (∃ rest, s.logsPath = "/" ++ rest) ∧
    (s.endpoint.toList.getLast? ≠ some '/' ↔ lastLetter? (written env) ≠ none) ∧
    ((∃ scheme ∈ schemes, ∃ rest, rest ≠ "" ∧ s.logsUrl = scheme ++ rest ++ s.logsPath) ↔
      lastLetter? (written env) ≠ none) ∧
    ((ofEnvironment (env.set "LOG_SHIPPER_URL" s.endpoint)).endpoint = s.endpoint ↔
      ∃ c, lastLetter? (written env) = some c ∧ Text.isBlank c = false) := by
  intro s
  have hend : s.endpoint = normalizedUrl (written env) := endpoint_eq env
  obtain ⟨scheme, hmem, rest, hsplit, hrest⟩ := normalizedUrl_eq_scheme_append (written env)
  refine ⟨⟨scheme, hmem, rest, hend.trans hsplit⟩, logsPath_eq_slash_append env, ?_, ?_, ?_⟩
  · rw [hend, getLast?_normalizedUrl]
    cases h : lastLetter? (written env) with
    | none => simp
    | some c => simpa using lastLetter?_ne_slash h
  · constructor
    · rintro ⟨scheme', hmem', rest', hne, heq⟩ hnone
      have hbare : scheme' ++ rest' = "https://" := by
        rw [← normalizedUrl_of_slashes hnone, ← hend]
        exact ((String.append_left_inj s.logsPath).mp heq).symm
      exact hne (rest_eq_empty hmem' hbare)
    · intro hsome
      exact ⟨scheme, hmem, rest, fun h => hsome (hrest.mp h), by rw [logsUrl, hend, hsplit]⟩
  · have hagain : written (env.set "LOG_SHIPPER_URL" s.endpoint) = Text.trimmed s.endpoint := by
      have hne : Text.trimmed s.endpoint ≠ "" := trimmed_ne_empty (hend ▸ head?_normalizedUrl)
      have hvalue : value (env.set "LOG_SHIPPER_URL" s.endpoint) "URL" =
          some (Text.trimmed s.endpoint) := value_set hne "URL"
      rw [written, hvalue, Option.getD_some]
    rw [endpoint_eq, hagain, hend, normalizedUrl_stable_iff]

/-- Slashes alone are no address, and what is made of them is not made again. -/
theorem slash_is_no_address :
    let env : Environment := fun name => if name = "LOG_SHIPPER_URL" then some "/" else none
    let s := ofEnvironment env
    s.endpoint = "https://" ∧ s.endpoint.toList.getLast? = some '/' ∧
      (ofEnvironment (env.set "LOG_SHIPPER_URL" s.endpoint)).endpoint = "https://https:" := by
  decide +kernel

example : normalizedUrl "a /" = "https://a " ∧
    normalizedUrl (Text.trimmed "https://a ") = "https://a" := by
  decide +kernel

end LogDelivery.Settings
