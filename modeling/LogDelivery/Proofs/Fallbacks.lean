import LogDelivery.Settings
import Mathlib.Data.String.Basic

/-!
# Values that make no sense

Which values of variables make sense is said without the functions that read them. A value that makes
none counts as unset, with one exception: a list of kinds of secrets in which no kind is known is an empty
list, where no list at all would be the usual one.
-/
namespace LogDelivery

namespace Text

structure Spells (ds : List Char) (n : Nat) : Prop where
  ne_nil : ds ≠ []
  digits : ∀ c ∈ ds, c.isDigit
  value : decimalValue ds = n

inductive Unsigned : List Char → Nat → Prop
  | plain (h : Spells ds n) : Unsigned ds n
  | plus (h : Spells ds n) : Unsigned ('+' :: ds) n

inductive Signed : List Char → Int → Prop
  | unsigned (h : Unsigned cs n) : Signed cs n
  | minus (h : Spells ds n) : Signed ('-' :: ds) (-n)

variable {cs ds : List Char} {c : Char} {n bound : Nat} {i lo hi : Int} {s : String}

theorem digits?_eq_some_iff : digits? ds = some n ↔ Spells ds n := by
  unfold digits?
  split
  · next h =>
    constructor
    · intro h'
      cases h'
    · intro h'
      simp [h'.ne_nil] at h
      obtain ⟨c, hc, hnot⟩ := h
      rw [h'.digits c hc] at hnot
      cases hnot
  · next h =>
    simp only [Bool.or_eq_true, List.isEmpty_iff, Bool.not_eq_true', not_or, Bool.not_eq_false,
      List.all_eq_true] at h
    exact ⟨fun h' => ⟨h.1, h.2, Option.some.inj h'⟩, fun h' => congrArg some h'.value⟩

theorem not_spells_cons (hc : c.isDigit = false) : ¬ Spells (c :: cs) n := by
  intro h
  rw [h.digits c (by simp)] at hc
  cases hc

theorem unsigned_plus_iff : Unsigned ('+' :: cs) n ↔ Spells cs n := by
  refine ⟨fun h => ?_, .plus⟩
  cases h with
  | plain h => exact absurd h (not_spells_cons rfl)
  | plus h => exact h

theorem unsigned_iff (h : ∀ rest, cs ≠ '+' :: rest) : Unsigned cs n ↔ Spells cs n := by
  refine ⟨fun h' => ?_, .plain⟩
  cases h' with
  | plain h' => exact h'
  | plus => exact absurd rfl (h _)

theorem natural?_eq_some_iff : natural? bound s = some n ↔ Unsigned s.toList n ∧ n ≤ bound := by
  unfold natural?
  simp only [Option.filter_eq_some_iff, decide_eq_true_iff, and_congr_left_iff]
  intro _
  split
  · next hs => rw [hs, digits?_eq_some_iff, unsigned_plus_iff]
  · next hs => rw [digits?_eq_some_iff, unsigned_iff hs]

theorem integer?_eq_some_iff :
    integer? lo hi s = some i ↔ Signed s.toList i ∧ lo ≤ i ∧ i ≤ hi := by
  unfold integer?
  simp only [Option.filter_eq_some_iff, decide_eq_true_iff, and_congr_left_iff]
  intro _
  split
  · next rest hs =>
    rw [hs]
    simp only [Option.map_eq_some_iff, digits?_eq_some_iff]
    constructor
    · rintro ⟨n, hn, rfl⟩
      exact .unsigned (.plus hn)
    · intro h
      cases h with
      | unsigned h => exact ⟨_, unsigned_plus_iff.mp h, rfl⟩
  · next rest hs =>
    rw [hs]
    simp only [Option.map_eq_some_iff, digits?_eq_some_iff]
    constructor
    · rintro ⟨n, hn, rfl⟩
      exact .minus hn
    · intro h
      cases h with
      | unsigned h => exact absurd ((unsigned_iff (by simp)).mp h) (not_spells_cons rfl)
      | minus h => exact ⟨_, h, rfl⟩
  · next hplus hminus =>
    simp only [Option.map_eq_some_iff, digits?_eq_some_iff]
    constructor
    · rintro ⟨n, hn, rfl⟩
      exact .unsigned (.plain hn)
    · intro h
      generalize hcs : s.toList = cs at h
      cases h with
      | unsigned h =>
        subst hcs
        exact ⟨_, (unsigned_iff hplus).mp h, rfl⟩
      | minus => exact absurd hcs (hminus _)

end Text

namespace Text
open String

theorem atEnd_ofList_iff {l r : List Char} :
    Pos.Raw.atEnd (ofList (l ++ r)) ⟨utf8Len l⟩ = true ↔ r = [] := by
  rw [atEnd_iff, rawEndPos_ofList, utf8Len_append, Pos.Raw.mk_le_mk, ← utf8Len_eq_zero]
  omega

/-- Where `l` is behind, `m` is the part so far and `r` is ahead. -/
theorem splitOnAux_eq (sep : Char) (l m r : List Char) (parts : List String) :
    splitOnAux (ofList (l ++ m ++ r)) (ofList [sep]) ⟨utf8Len l⟩ ⟨utf8Len l + utf8Len m⟩ 0 parts =
      parts.reverse ++ (List.splitOnPPrepend (· == sep) r m.reverse).map ofList := by
  have hsep : Pos.Raw.get (ofList [sep]) 0 = sep := get_of_valid [] [sep]
  have hnext : Pos.Raw.next (ofList [sep]) 0 = ⟨sep.utf8Size⟩ := by
    simpa using next_of_valid [] sep []
  have hdone : Pos.Raw.atEnd (ofList [sep]) ⟨sep.utf8Size⟩ = true := by
    simpa only [utf8Len_cons, utf8Len_nil, Nat.zero_add, List.append_nil] using
      (atEnd_ofList_iff (l := [sep]) (r := [])).mpr rfl
  induction r generalizing l m parts with
  | nil =>
    have hend := (atEnd_ofList_iff (l := l ++ m)).mpr rfl
    rw [utf8Len_append] at hend
    unfold splitOnAux
    rw [if_pos hend, extract_of_valid]
    simp
  | cons c r ih =>
    have hend : Pos.Raw.atEnd (ofList (l ++ m ++ c :: r)) ⟨utf8Len l + utf8Len m⟩ ≠ true := by
      rw [← utf8Len_append, ne_eq, atEnd_ofList_iff]
      simp
    have hget := get_of_valid (l ++ m) (c :: r)
    have hstep := next_of_valid (l ++ m) c r
    rw [utf8Len_append] at hget hstep
    have hback : (⟨utf8Len l + utf8Len m + c.utf8Size⟩ : Pos.Raw).unoffsetBy ⟨c.utf8Size⟩ =
        ⟨utf8Len l + utf8Len m⟩ := by
      simp [Pos.Raw.unoffsetBy]
    unfold splitOnAux
    rw [if_neg hend, hget, hsep, List.headD_cons, hstep, hnext]
    simp only [hdone, if_true, Pos.Raw.unoffsetBy_zero, hstep, beq_iff_eq]
    split
    · next hc =>
      -- the part is complete, and the next one begins behind the separator
      subst hc
      have hrec := ih (l ++ m ++ [c]) [] (ofList m :: parts)
      rw [hback, extract_of_valid]
      simpa [Nat.add_assoc, -ofList_append, List.splitOnPPrepend_cons_eq_if] using hrec
    · next hc =>
      have hrec := ih l (m ++ [c]) parts
      simpa [Nat.add_assoc, -ofList_append, List.splitOnPPrepend_cons_eq_if, hc] using hrec

theorem splitOn_eq (s : String) (sep : Char) :
    s.splitOn (ofList [sep]) = (s.toList.splitOn sep).map ofList := by
  rw [splitOn, if_neg]
  · simpa [List.splitOn] using splitOnAux_eq sep [] [] s.toList []
  · simp

end Text

def boolWords : List String := ["1", "yes", "on", "true", "0", "no", "off", "false"]

def routeWords : List String := ["direct", "http", "https", "agent", "uds", "socket"]

def secretKindWords : List String :=
  ["creditcard", "credit_card", "credit-card", "ssn", "ip", "ipv4", "ip_address"]

theorem Settings.bool?_isSome_iff {s : String} :
    (Settings.bool? s).isSome ↔ Text.asciiLower s ∈ boolWords := by
  unfold Settings.bool?
  split <;> simp_all [boolWords]

theorem Route.ofText?_isSome_iff {s : String} :
    (Route.ofText? s).isSome ↔ Text.lower (Text.trimmed s) ∈ routeWords := by
  unfold Route.ofText?
  split <;> simp_all [routeWords]

theorem SecretKind.ofText?_isSome_iff {s : String} :
    (SecretKind.ofText? s).isSome ↔ SecretKind.normalized s ∈ secretKindWords := by
  unfold SecretKind.ofText?
  split <;> simp_all [secretKindWords]

namespace Json

variable {name : String} {members : List (Label × Json)} {j x y : Json}

theorem only?_eq_some_some_iff : only? name members = some (some x) ↔ named name members = [x] := by
  unfold only?
  split
  · next h => simp [h]
  · next value h => simp [h]
  · next hone =>
    constructor
    · intro h
      cases h
    · intro h
      exact absurd h (hone x)

/-- Two fields that have to be there are the two items of an array, or members of an object that each
occur once. -/
theorem slots_pair_iff {a b : String} :
    slots [⟨a, false⟩, ⟨b, false⟩] j = some [some x, some y] ↔
      j = .array [x, y] ∨ ∃ members, j = .object members ∧ (∀ m ∈ members, m.1 ≠ none) ∧
        named a members = [x] ∧ named b members = [y] := by
  cases j with
  | array items =>
    rcases items with _ | ⟨u, _ | ⟨v, _ | ⟨w, items⟩⟩⟩ <;> simp [slots, positional]
  | object members =>
    simp only [slots, keyed, ← only?_eq_some_some_iff]
    cases h : members.any fun m => m.1.isNone with
    | true =>
      obtain ⟨m, hm, hnone⟩ := List.any_eq_true.mp h
      simp only [if_true, reduceCtorEq, false_iff]
      rintro (h | ⟨_, h, htexts, -⟩)
      · cases h
      · cases h
        exact htexts m hm (Option.isNone_iff_eq_none.mp hnone)
    | false =>
      have htexts : ∀ m ∈ members, m.1 ≠ none := by
        intro m hm hnone
        have hm := List.any_eq_false.mp h m hm
        simp [hnone] at hm
      simpa [bind, Option.bind_eq_some_iff] using
        fun _ _ label value hmem => htexts (label, value) hmem
  | _ => simp [slots, keyed]

theorem required_text?_eq_some_iff {o : Option Json} {s : String} :
    required text? o = some s ↔ o = some (.string s) := by
  rcases o with _ | _ | _ | _ | _ | _ | _ <;> simp [required, text?]

end Json

/-- A JSON value gives a rule: its label and its pattern in this order, or each once by its name. -/
inductive CustomRule.GivenBy (rule : CustomRule) : Json → Prop
  | array : GivenBy rule (.array [.string rule.label, .string rule.pattern])
  | object (members : List (Label × Json)) (texts : ∀ m ∈ members, m.1 ≠ none)
      (label : Json.named "label" members = [.string rule.label])
      (pattern : Json.named "pattern" members = [.string rule.pattern]) :
      GivenBy rule (.object members)

theorem CustomRule.decode_eq_some_iff {room : Nat} {j : Json} {rule : CustomRule} :
    CustomRule.decode (room + 1) j = some rule ↔ rule.GivenBy j := by
  have hslots : CustomRule.decode (room + 1) j = some rule ↔
      Json.slots [⟨"label", false⟩, ⟨"pattern", false⟩] j =
        some [some (.string rule.label), some (.string rule.pattern)] := by
    obtain ⟨label, pattern⟩ := rule
    rw [CustomRule.decode]
    rcases Json.slots [⟨"label", false⟩, ⟨"pattern", false⟩] j with _ | _ | ⟨a, _ | ⟨b, _ | _⟩⟩ <;>
      simp [bind, Option.bind_eq_some_iff, Json.required_text?_eq_some_iff]
  rw [hslots, Json.slots_pair_iff]
  constructor
  · rintro (rfl | ⟨members, rfl, htexts, hlabel, hpattern⟩)
    · exact .array
    · exact .object members htexts hlabel hpattern
  · intro h
    cases h with
    | array => exact Or.inl rfl
    | object members htexts hlabel hpattern =>
      exact Or.inr ⟨members, rfl, htexts, hlabel, hpattern⟩

namespace Settings

theorem mapM_isSome_iff {f : α → Option β} {xs : List α} :
    (xs.mapM f).isSome ↔ ∀ x ∈ xs, (f x).isSome := by
  induction xs with
  | nil => simp
  | cons x xs ih =>
    rw [List.mapM_cons, List.forall_mem_cons, ← ih]
    cases f x <;> cases xs.mapM f <;> simp

inductive Variable where
  | route | masks | secretKinds | customRules | marksJson | compresses | compressionLevel
  | queueCapacity | resendCapacity | requestTimeout | connectTimeout | shutdownTimeout | identifies
  deriving DecidableEq, Repr

namespace Variable

def name : Variable → String
  | .route => "TRANSPORT"
  | .masks => "MASK_ENABLED"
  | .secretKinds => "MASKS"
  | .customRules => "CUSTOM_MASKS"
  | .marksJson => "SKIP_JSON_TAG"
  | .compresses => "USE_COMPRESSION"
  | .compressionLevel => "COMPRESSION_LEVEL"
  | .queueCapacity => "QUEUE_CAPACITY"
  | .resendCapacity => "RESEND_CAPACITY"
  | .requestTimeout => "REQUEST_TIMEOUT_SECS"
  | .connectTimeout => "CONNECT_TIMEOUT_SECS"
  | .shutdownTimeout => "SHUTDOWN_TIMEOUT_SECS"
  | .identifies => "IDENTIFY"

def all : List Variable :=
  [.route, .masks, .secretKinds, .customRules, .marksJson, .compresses, .compressionLevel,
    .queueCapacity, .resendCapacity, .requestTimeout, .connectTimeout, .shutdownTimeout, .identifies]

theorem mem_all (v : Variable) : v ∈ all := by
  cases v <;> decide

def Accepts : Variable → String → Prop
  | .route, s => Text.lower (Text.trimmed s) ∈ routeWords
  | .masks, s | .marksJson, s | .compresses, s | .identifies, s => Text.asciiLower s ∈ boolWords
  | .secretKinds, s => ∃ part ∈ s.toList.splitOn ',',
      SecretKind.normalized (String.ofList (Text.trim part)) ∈ secretKindWords
  | .customRules, s => ∃ items, Json.parse s = some (.array items) ∧
      ∀ item ∈ items, ∃ rule : CustomRule, rule.GivenBy item
  | .compressionLevel, s => ∃ i, Text.Signed s.toList i ∧ -(2 ^ 31) ≤ i ∧ i ≤ 2 ^ 31 - 1
  | .queueCapacity, s | .resendCapacity, s | .requestTimeout, s | .connectTimeout, s
  | .shutdownTimeout, s => ∃ n, Text.Unsigned s.toList n ∧ n ≤ 2 ^ 64 - 1

/-- The variable has a value, blanks around it aside, and that makes no sense; or it has none. -/
def Unreadable (v : Variable) (env : Environment) : Prop :=
  ∀ s, value env v.name = some s → ¬ v.Accepts s

end Variable

def Environment.without (env : Environment) (name : String) : Environment :=
  fun n => if n = name then none else env n

variable {env : Environment} {v : Variable} {s : String}

theorem customRules?_isSome_iff : (customRules? s).isSome ↔ Variable.customRules.Accepts s := by
  have hitem : ∀ item : Json, (CustomRule.decode 126 item).isSome ↔
      ∃ rule : CustomRule, rule.GivenBy item := by
    intro item
    rw [Option.isSome_iff_exists]
    exact exists_congr fun rule => CustomRule.decode_eq_some_iff
  rw [customRules?, readJson, Variable.Accepts]
  rcases Json.parse s with _ | _ | _ | _ | _ | items | _ <;>
    simp [Json.maxDepth, Json.list?, mapM_isSome_iff, hitem]

theorem listed_eq : listed s =
    ((s.toList.splitOn ',').map fun part => String.ofList (Text.trim part)).filter fun p => !p.isEmpty := by
  rw [listed, show "," = String.ofList [','] from rfl, Text.splitOn_eq, List.map_map]
  simp only [Function.comp_def, Text.trimmed, String.toList_ofList]

/-- Empty parts need not be left out: they are the name of no kind. -/
theorem secretKinds?_eq_nil_iff : secretKinds? s = [] ↔ ¬ Variable.secretKinds.Accepts s := by
  have hempty : ∀ {p kind}, SecretKind.ofText? p = some kind → p ≠ "" := by
    rintro p kind h rfl
    exact absurd h (by decide +kernel +revert)
  simp only [Variable.Accepts, ← SecretKind.ofText?_isSome_iff, Option.isSome_iff_exists,
    List.eq_nil_iff_forall_not_mem, secretKinds?, List.mem_eraseDups, List.mem_filterMap, listed_eq,
    List.mem_filter, List.mem_map, Bool.not_eq_true', String.isEmpty_eq_false_iff]
  constructor
  · rintro h ⟨part, hpart, kind, hkind⟩
    exact h kind ⟨_, ⟨⟨part, hpart, rfl⟩, hempty hkind⟩, hkind⟩
  · rintro h kind ⟨_, ⟨⟨part, hpart, rfl⟩, -⟩, hkind⟩
    exact h ⟨part, hpart, kind, hkind⟩

theorem word64?_isSome (h : (word64? s).isSome) : Variable.queueCapacity.Accepts s := by
  obtain ⟨n, hn⟩ := Option.isSome_iff_exists.mp h
  exact ⟨n, Text.natural?_eq_some_iff.mp hn⟩

theorem seconds?_isSome (h : (seconds? s).isSome) : Variable.requestTimeout.Accepts s :=
  word64?_isSome (by rwa [seconds?, Option.isSome_map] at h)

theorem signed32?_isSome (h : (signed32? s).isSome) : Variable.compressionLevel.Accepts s := by
  obtain ⟨i, hi⟩ := Option.isSome_iff_exists.mp h
  exact ⟨i, Text.integer?_eq_some_iff.mp hi⟩

theorem Variable.name_injective : Function.Injective Variable.name := by
  intro v w h
  cases v <;> cases w <;> first | rfl | exact absurd h (by decide)

theorem value_without (env : Environment) (name name' : String) :
    value (env.without (variablePrefix ++ name)) name' =
      if name' = name then none else value env name' := by
  by_cases h : name' = name <;> simp [value, trimmedValue, Environment.without, h]

theorem readOr_without {read : String → Option α} (h : v.Unreadable env) (w : Variable)
    (name : String) (hname : name = w.name) (hread : ∀ s, (read s).isSome → w.Accepts s)
    (default : α) :
    readOr read default (value (env.without (variablePrefix ++ v.name)) name) =
      readOr read default (value env name) := by
  rw [hname, value_without]
  split
  · next hsame =>
    obtain rfl := Variable.name_injective hsame
    unfold readOr
    cases hv : value env w.name with
    | none => rfl
    | some s =>
      have hnone : read s = none := by
        by_contra hsome
        exact h s hv (hread s (Option.isSome_iff_ne_none.mpr hsome))
      rw [Option.bind_some, hnone]
      rfl
  · rfl

theorem ofEnvironment_without (h : v.Unreadable env) :
    let unset := env.without (variablePrefix ++ v.name)
    { ofEnvironment env with secretKinds := (ofEnvironment unset).secretKinds } =
      ofEnvironment unset := by
  intro unset
  have hother : ∀ name, name ∉ Variable.all.map Variable.name →
      value unset name = value env name := by
    intro name hname
    rw [value_without, if_neg]
    rintro rfl
    exact hname (List.mem_map_of_mem (Variable.mem_all v))
  have hforeign : ∀ name, (∀ w : Variable, name ≠ variablePrefix ++ w.name) →
      unset name = env name := fun name hname => if_neg (hname v)
  have hproxy : trimmedValue unset "HTTPS_PROXY" = trimmedValue env "HTTPS_PROXY" := by
    rw [trimmedValue, hforeign _ (fun w => by cases w <;> decide), trimmedValue]
  have hhost : unset "HOSTNAME" = env "HOSTNAME" :=
    hforeign _ fun w => by cases w <;> decide
  simp (disch := decide) only [ofEnvironment, hother, hproxy, hhost,
    readOr_without h .route "TRANSPORT" rfl fun s => Route.ofText?_isSome_iff.mp,
    readOr_without h .masks "MASK_ENABLED" rfl fun s => bool?_isSome_iff.mp,
    readOr_without h .customRules "CUSTOM_MASKS" rfl fun s => customRules?_isSome_iff.mp,
    readOr_without h .marksJson "SKIP_JSON_TAG" rfl fun s => bool?_isSome_iff.mp,
    readOr_without h .compresses "USE_COMPRESSION" rfl fun s => bool?_isSome_iff.mp,
    readOr_without h .compressionLevel "COMPRESSION_LEVEL" rfl fun s => signed32?_isSome,
    readOr_without h .queueCapacity "QUEUE_CAPACITY" rfl fun s => word64?_isSome,
    readOr_without h .resendCapacity "RESEND_CAPACITY" rfl fun s => word64?_isSome,
    readOr_without h .requestTimeout "REQUEST_TIMEOUT_SECS" rfl fun s => seconds?_isSome,
    readOr_without h .connectTimeout "CONNECT_TIMEOUT_SECS" rfl fun s => seconds?_isSome,
    readOr_without h .shutdownTimeout "SHUTDOWN_TIMEOUT_SECS" rfl fun s => seconds?_isSome,
    readOr_without h .identifies "IDENTIFY" rfl fun s => bool?_isSome_iff.mp, unset]

/-- A value that makes no sense counts as unset, and concerns no other setting than its own. Only
where it should be a list of kinds of secrets it makes a difference: no kind is masked then, where
without the variable the usual ones are. -/
theorem unreadable_is_unset_iff (env : Environment) (v : Variable) (h : v.Unreadable env) :
    let unset := env.without (variablePrefix ++ v.name)
    (ofEnvironment env = ofEnvironment unset ↔ (v = .secretKinds → value env v.name = none)) ∧
    { ofEnvironment env with secretKinds := (ofEnvironment unset).secretKinds } =
      ofEnvironment unset ∧
    (v = .secretKinds → value env v.name ≠ none →
      (ofEnvironment env).secretKinds = [] ∧
      (ofEnvironment unset).secretKinds = [.creditCard, .ssn]) := by
  intro unset
  have hrest := ofEnvironment_without h
  have hkinds : ∀ env, (ofEnvironment env).secretKinds =
      ((value env "MASKS").map secretKinds?).getD [.creditCard, .ssn] := fun _ => rfl
  have hvalue : value unset "MASKS" = if "MASKS" = v.name then none else value env "MASKS" :=
    value_without env v.name "MASKS"
  have hempty : v = .secretKinds → value env v.name ≠ none →
      (ofEnvironment env).secretKinds = [] ∧
      (ofEnvironment unset).secretKinds = [.creditCard, .ssn] := by
    rintro rfl hset
    obtain ⟨s, hs⟩ := Option.ne_none_iff_exists'.mp hset
    have hs' : value env "MASKS" = some s := hs
    rw [hkinds, hkinds, hvalue, hs']
    exact ⟨secretKinds?_eq_nil_iff.mpr (h s hs), rfl⟩
  refine ⟨⟨fun heq hv => ?_, fun hv => ?_⟩, hrest, hempty⟩
  · by_contra hset
    obtain ⟨hnone, husual⟩ := hempty hv hset
    rw [heq, husual] at hnone
    cases hnone
  · have hsame : (ofEnvironment unset).secretKinds = (ofEnvironment env).secretKinds := by
      rw [hkinds, hkinds, hvalue]
      split
      · next hname =>
        have hv' : v = .secretKinds := Variable.name_injective hname.symm
        rw [hname, hv hv']
      · rfl
    rw [← hrest, hsame]

theorem pigeon_is_unset :
    let env : Environment := fun name =>
      if name = "LOG_SHIPPER_TRANSPORT" then some " pigeon " else none
    Variable.route.Unreadable env ∧
      ofEnvironment env = ofEnvironment (env.without (variablePrefix ++ Variable.route.name)) := by
  intro env
  have h : Variable.route.Unreadable env := by
    intro s hs
    have hvalue : value env "TRANSPORT" = some "pigeon" := by decide +kernel
    obtain rfl : "pigeon" = s := Option.some.inj (hvalue.symm.trans hs)
    exact (by decide +kernel : Text.lower (Text.trimmed "pigeon") ∉ routeWords)
  exact ⟨h, (unreadable_is_unset_iff env .route h).1.mpr (by intro h; cases h)⟩

/-- A list in which no kind is known masks nothing, while no list masks the usual kinds. -/
theorem unknown_kind_is_not_unset :
    let env : Environment := fun name => if name = "LOG_SHIPPER_MASKS" then some "passport" else none
    Variable.secretKinds.Unreadable env ∧
      ofEnvironment env ≠ ofEnvironment (env.without (variablePrefix ++ Variable.secretKinds.name)) := by
  intro env
  have hvalue : value env "MASKS" = some "passport" := by decide +kernel
  have hunknown : ¬ Variable.secretKinds.Accepts "passport" :=
    (by decide +kernel : ¬ ∃ part ∈ "passport".toList.splitOn ',',
      SecretKind.normalized (String.ofList (Text.trim part)) ∈ secretKindWords)
  constructor
  · intro s hs
    obtain rfl : "passport" = s := Option.some.inj (hvalue.symm.trans hs)
    exact hunknown
  · intro heq
    have hkinds := congrArg Settings.secretKinds heq
    have hnone : value (env.without (variablePrefix ++ Variable.secretKinds.name)) "MASKS" = none :=
      (value_without env "MASKS" "MASKS").trans (if_pos rfl)
    simp only [ofEnvironment, hvalue, hnone, Option.map_some, Option.getD_some, Option.map_none,
      Option.getD_none, secretKinds?_eq_nil_iff.mpr hunknown] at hkinds
    cases hkinds

end Settings
end LogDelivery
