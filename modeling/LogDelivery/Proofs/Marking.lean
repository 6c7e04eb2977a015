import LogDelivery.Proofs.ErrorRedaction
import LogDelivery.Proofs.Secrets

/-!
# Marks and masks

A message that looks like JSON is marked before it is masked, so a pattern sees the mark. It may
match in it, or lose a match that has to end where the text ends. Patterns that overlook the mark do
neither: with these, marks and masks are independent of each other.
-/
namespace LogDelivery

open Redactor (mark looksLikeJson marked)

def Look.seesEnd : Look → Bool
  | .textEnd | .lineEnd | .anyLineEnd => true
  | _ => false

def tag : List Char := "#SKIPJSON".toList

theorem toList_mark : mark.toList = ' ' :: tag := rfl

section Behind

variable {cs : List Char} {i j : Nat}

theorem getElem?_mark_of_lt (h : i < cs.length) : (cs ++ ' ' :: tag)[i]? = cs[i]? :=
  List.getElem?_append_left h

theorem getElem?_mark_self : (cs ++ ' ' :: tag)[cs.length]? = some ' ' := by
  simp

theorem mem_tag_of_getElem? {c : Char} (hi : cs.length < i)
    (h : (cs ++ ' ' :: tag)[i]? = some c) : c ∈ tag := by
  rw [List.getElem?_append_right (Nat.le_of_lt hi),
    show i - cs.length = (i - cs.length - 1) + 1 by omega, List.getElem?_cons_succ] at h
  exact List.mem_of_getElem? h

theorem isLetter_mark (unicode : Bool) (hi : i ≤ cs.length) :
    Look.isLetter unicode (cs ++ ' ' :: tag)[i]? = Look.isLetter unicode cs[i]? := by
  rcases Nat.eq_or_lt_of_le hi with rfl | hlt
  · rw [getElem?_mark_self, List.getElem?_eq_none (Nat.le_refl _)]
    cases unicode <;> rfl
  · rw [getElem?_mark_of_lt hlt]

theorem before?_mark (hi : i ≤ cs.length) :
    Look.before? (cs ++ ' ' :: tag).toArray i = Look.before? cs.toArray i := by
  unfold Look.before?
  split
  · rfl
  · rw [List.getElem?_toArray, List.getElem?_toArray, getElem?_mark_of_lt (by omega)]

theorem holds_mark {l : Look} (hl : l.seesEnd = false) (hi : i ≤ cs.length) :
    l.holds (cs ++ ' ' :: tag).toArray i = l.holds cs.toArray i := by
  have hfeed : ((cs ++ ' ' :: tag)[i]? != some '\n') = (cs[i]? != some '\n') := by
    rcases Nat.eq_or_lt_of_le hi with rfl | hlt
    · rw [getElem?_mark_self, List.getElem?_eq_none (Nat.le_refl _)]
      rfl
    · rw [getElem?_mark_of_lt hlt]
  cases l with
  | textEnd | lineEnd | anyLineEnd => cases hl
  | _ =>
    simp only [Look.holds, before?_mark hi, List.getElem?_toArray, isLetter_mark _ hi, hfeed]

theorem boundaryAt_mark (hi : i ≤ cs.length) :
    boundaryAt (cs ++ ' ' :: tag) i = boundaryAt cs i :=
  holds_mark rfl hi

end Behind

namespace Pattern

variable {p : Pattern} {patterns : List Pattern} {cs : List Char} {last : Option Nat}
  {i j k e : Nat} {l : List (Nat × Nat)}

/-- With a mark behind a text, a pattern prefers the same matches in the text, and in the mark none
but empty ones. -/
structure Overlooks (p : Pattern) : Prop where
  before : ∀ cs i, i ≤ cs.length →
    (p.ends (cs ++ ' ' :: tag).toArray i).head? = (p.ends cs.toArray i).head?
  behind : ∀ cs i j, cs.length < i → j ∈ p.ends (cs ++ ' ' :: tag).toArray i → j = i

/-- The pattern takes no space and asks for no end of a text or a line, and its matches begin with no
letter of the mark. -/
def ignoresMark (p : Pattern) : Bool :=
  p.looks.all (fun l => !l.seesEnd) && p.classes.all (fun s => !s.contains ' '.toNat) &&
    tag.all fun c => !p.opensWith c

theorem overlooks_of_ignoresMark (h : p.ignoresMark) : p.Overlooks := by
  simp only [ignoresMark, Bool.and_eq_true, List.all_eq_true, Bool.not_eq_true'] at h
  obtain ⟨⟨hlooks, hclasses⟩, hopens⟩ := h
  constructor
  case before =>
    intro cs i hi
    have halike : p.Alike cs.toArray (cs ++ ' ' :: tag).toArray (· ≤ cs.length) := by
      constructor
      case inside => simp
      case longer => simp
      case one =>
        intro s hs i hi
        rw [ends, ends, List.getElem?_toArray, List.getElem?_toArray]
        rcases Nat.eq_or_lt_of_le hi with rfl | hlt
        · rw [getElem?_mark_self, List.getElem?_eq_none (Nat.le_refl _)]
          exact if_neg (Bool.eq_false_iff.mp (hclasses s hs))
        · rw [getElem?_mark_of_lt hlt]
      case stays =>
        intro s _ i hi j hj
        exact le_size_of_mem_ends (by simpa using hi) hj
      case look =>
        intro l hl i hi
        exact holds_mark (hlooks l hl) hi
    rw [halike.ends_eq hi]
  case behind =>
    intro cs i j hi hj
    rcases opens_of_mem_ends hj with rfl | ⟨c, hc, hopen⟩
    · rfl
    · have hmem := mem_tag_of_getElem? hi (by simpa using hc)
      simp [hopens c hmem] at hopen

theorem FindsNumbers.overlooks (hp : p.FindsNumbers) : p.Overlooks := by
  have hdigit : ∀ {cs : List Char} {i : Nat} {c : Char}, (cs ++ ' ' :: tag)[i]? = some c →
      c.isDigit → i < cs.length := by
    intro cs i c hc hdigit
    by_contra hge
    rcases Nat.eq_or_lt_of_le (Nat.le_of_not_lt hge) with rfl | hlt
    · rw [getElem?_mark_self] at hc
      obtain rfl := Option.some.inj hc
      cases hdigit
    · have hnone : tag.all (fun c => !c.isDigit) = true := by decide
      have hother := List.all_eq_true.mp hnone c (mem_tag_of_getElem? hlt hc)
      simp [hdigit] at hother
  constructor
  case before =>
    intro cs i hi
    have hsame : ∀ j ≤ cs.length,
        (j ∈ p.ends (cs ++ ' ' :: tag).toArray i ↔ j ∈ p.ends cs.toArray i) := by
      intro j hj
      obtain ⟨L, gaps, -, hends⟩ := hp
      rw [hends, hends, boundaryAt_mark hi, boundaryAt_mark hj]
      refine and_congr_right fun _ => and_congr_left fun _ => ?_
      refine exists_congr fun w => and_congr_right fun _ => and_congr_left fun hw => ?_
      exact reads_congr fun k _ hk => getElem?_mark_of_lt (by omega)
    cases hends : (p.ends cs.toArray i).head? with
    | some j =>
      have hj := List.mem_of_head? hends
      have hle := le_size_of_mem_ends (by simpa using hi) hj
      exact hp.head?_ends ((hsame j (by simpa using hle)).mpr hj)
    | none =>
      rw [List.head?_eq_none_iff, List.eq_nil_iff_forall_not_mem]
      intro j hj
      obtain ⟨-, -, c, hc, hlast⟩ := hp.digits hj
      have hin := hdigit hc hlast
      have hj' := (hsame j (by omega)).mp hj
      rw [List.head?_eq_none_iff.mp hends] at hj'
      cases hj'
  case behind =>
    intro cs i j hi hj
    obtain ⟨-, ⟨c, hc, hfirst⟩, -⟩ := hp.digits hj
    have hlt := hdigit hc hfirst
    omega

namespace Overlooks

theorem reported?_eq (hp : p.Overlooks) (hk : k ≤ cs.length) :
    p.reported? (cs ++ ' ' :: tag).toArray last k = p.reported? cs.toArray last k := by
  rw [reported?, reported?, hp.before cs k hk]

theorem empty_behind (hp : p.Overlooks) (h : p.Scan (cs ++ ' ' :: tag).toArray last i l)
    (hi : cs.length < i) : ∀ x ∈ l, x.2 = x.1 := by
  induction h with
  | done => simp
  | @next _ _ s e _ start _ _ found _ ih =>
    have hs := Nat.lt_of_lt_of_le hi start
    obtain rfl := hp.behind cs s e hs (mem_of_reported? found)
    exact List.forall_mem_cons.mpr ⟨rfl, ih hs⟩

/-- The scan of a text with a mark begins as that of the text does and covers nothing else. -/
theorem exists_scan (hp : p.Overlooks) (h : p.Scan (cs ++ ' ' :: tag).toArray last i l)
    (hi : i ≤ cs.length) :
    ∃ l', p.Scan cs.toArray last i l' ∧ ∀ k, Covered l k ↔ Covered l' k := by
  induction h with
  | @done last i passed =>
    refine ⟨[], .done fun k hk hsize => ?_, fun _ => Iff.rfl⟩
    rw [List.size_toArray] at hsize
    rw [← hp.reported?_eq hsize]
    exact passed k hk (by simp; omega)
  | @next last i s e rest start inside passed found onward ih =>
    by_cases hs : s ≤ cs.length
    · rw [hp.reported?_eq hs] at found
      have hinside : s ≤ cs.toArray.size := by simpa using hs
      have he := le_size_of_mem_ends hinside (mem_of_reported? found)
      obtain ⟨rest', hscan, hcovered⟩ := ih (by simpa using he)
      refine ⟨(s, e) :: rest', .next start hinside (fun k hk hks => ?_) found hscan, fun k => ?_⟩
      · rw [← hp.reported?_eq (by omega)]
        exact passed k hk hks
      · simp only [Covered, List.exists_mem_cons_iff]
        exact or_congr_right (hcovered k)
    · have hlt := Nat.lt_of_not_le hs
      have hempty := hp.empty_behind (.next (Nat.le_refl s) inside (by omega) found onward) hlt
      refine ⟨[], .done fun k hk hsize => ?_, fun k => ⟨?_, by simp [Covered]⟩⟩
      · rw [List.size_toArray] at hsize
        rw [← hp.reported?_eq hsize]
        exact passed k hk (by omega)
      · rintro ⟨x, hx, hle, hgt⟩
        have hnothing := hempty x hx
        omega

theorem covered_spans (hp : p.Overlooks) :
    Covered (p.spans (cs ++ ' ' :: tag).toArray) k ↔ Covered (p.spans cs.toArray) k := by
  obtain ⟨l, hscan, hcovered⟩ := hp.exists_scan (scan_iff.mpr rfl) (Nat.zero_le cs.length)
  rw [hcovered, scan_iff.mp hscan]

theorem mask_mark (hp : p.Overlooks) (cs : List Char) :
    p.mask (cs ++ ' ' :: tag) = p.mask cs ++ ' ' :: tag := by
  refine List.ext_getElem? fun k => ?_
  rw [mask, mask]
  by_cases hk : Covered (p.spans cs.toArray) k
  · have hlt := lt_of_covered (scan_iff.mpr rfl) hk
    rw [getElem?_starred_of_covered (hp.covered_spans.mpr hk) (by simp; omega),
      List.getElem?_append_left (by simpa using hlt), getElem?_starred_of_covered hk hlt]
  · rw [getElem?_starred_of_not_covered (mt hp.covered_spans.mp hk), List.getElem?_append,
      List.getElem?_append, length_starred, getElem?_starred_of_not_covered hk]

theorem maskAll_mark (h : ∀ p ∈ patterns, p.Overlooks) (cs : List Char) :
    maskAll patterns (cs ++ ' ' :: tag) = maskAll patterns cs ++ ' ' :: tag := by
  induction patterns generalizing cs with
  | nil => rfl
  | cons p patterns ih =>
    obtain ⟨hp, hrest⟩ := List.forall_mem_cons.mp h
    rw [maskAll_cons, maskAll_cons, hp.mask_mark, ih hrest]

end Overlooks

end Pattern

def Event.messages (e : Event) : List String :=
  e.message.toList ++ (e.error.map (·.reached.map (·.message))).getD []

def Batch.messages (b : Batch) : List String := b.events.flatMap (·.messages)

theorem ErrorChain.reached_mapReached (f : ErrorNode → ErrorNode) (e : ErrorChain) :
    (e.mapReached f).reached = e.reached.map f := by
  refine List.ext_getElem? fun depth => ?_
  rw [reached_eq, reached_eq, List.getElem?_map]
  by_cases h : depth < maxReach
  · rw [List.getElem?_take_of_lt h, List.getElem?_take_of_lt h, nodes_mapReached_of_lt f h]
  · rw [List.getElem?_take_eq_none (Nat.le_of_not_lt h),
      List.getElem?_take_eq_none (Nat.le_of_not_lt h), Option.map_none]

namespace Redactor

variable {book : RuleBook} {b : Batch}

def redacted (r : Redactor) (book : RuleBook) (s : String) : String :=
  let s := if r.marks then marked s else s
  if r.masks then book.mask s else s

def markedLike (raw s : String) : String := if looksLikeJson raw then s ++ mark else s

theorem messages_markEvent (e : Event) : (markEvent e).messages = e.messages.map marked := by
  rcases e with ⟨message, _, _, _, _, error, _⟩
  cases message <;> cases error <;>
    simp [markEvent, Event.messages, ErrorChain.reached_mapReached, Function.comp_def]

theorem messages_maskEvent (book : RuleBook) (e : Event) :
    (maskEvent book e).messages = e.messages.map book.mask := by
  rcases e with ⟨message, _, _, _, _, error, _⟩
  cases message <;> cases error <;>
    simp [maskEvent, Event.messages, ErrorChain.reached_mapReached, Function.comp_def]

theorem messages_map {f : Event → Event} {g : String → String}
    (h : ∀ e, (f e).messages = e.messages.map g) (b : Batch) :
    Batch.messages { b with events := b.events.map f } = b.messages.map g := by
  simp only [Batch.messages, List.flatMap_map, List.map_flatMap, h]

theorem messages_apply (r : Redactor) :
    (r.apply book b).messages = b.messages.map (r.redacted book) := by
  rcases r with ⟨_ | _, _ | _⟩
  · exact (List.map_id _).symm
  · exact messages_map messages_markEvent b
  · exact messages_map (messages_maskEvent book) b
  · have hmarked := messages_map messages_markEvent b
    have hmasked := messages_map (messages_maskEvent book)
      { b with events := b.events.map markEvent }
    refine hmasked.trans ?_
    rw [hmarked, List.map_map]
    rfl

/-- Marks and masks have nothing to do with each other in a batch: each message of the batch that is
also marked is the one of the batch that is not, followed by the mark if the raw message looks like
JSON. -/
def MarkedApart (book : RuleBook) (masks : Bool) (b : Batch) : Prop :=
  ((⟨masks, true⟩ : Redactor).apply book b).messages =
    List.zipWith markedLike b.messages ((⟨masks, false⟩ : Redactor).apply book b).messages

theorem markedApart_iff {masks : Bool} :
    MarkedApart book masks b ↔ ∀ s ∈ b.messages, (⟨masks, true⟩ : Redactor).redacted book s =
      markedLike s ((⟨masks, false⟩ : Redactor).redacted book s) := by
  rw [MarkedApart, messages_apply, messages_apply, List.zipWith_map_right, List.zipWith_self,
    List.map_inj_left]

theorem markedApart_true_iff :
    MarkedApart book true b ↔
      ∀ s ∈ b.messages, looksLikeJson s → book.mask (s ++ mark) = book.mask s ++ mark := by
  rw [markedApart_iff]
  refine forall₂_congr fun s _ => ?_
  cases hs : looksLikeJson s <;> simp [redacted, marked, markedLike, hs]

theorem markedApart_false : MarkedApart book false b :=
  markedApart_iff.mpr fun _ _ => rfl

/-- A batch that is only marked is what it should be. One that is masked, too, is exactly if masking
leaves the marks of its messages and is the same in front of them. So it is with the known kinds of
secrets and with all patterns that take no space, ask for no end of a text or a line, and begin with
no character of the mark. -/
theorem marks_apart_from_masks (book : RuleBook) (b : Batch) :
    MarkedApart book false b ∧
      (MarkedApart book true b ↔
        ∀ s ∈ b.messages, looksLikeJson s → book.mask (s ++ mark) = book.mask s ++ mark) ∧
      ((∀ p ∈ book.patterns, p.ignoresMark ∨ ∃ kind : SecretKind, p ∈ kind.patterns) →
        MarkedApart book true b) := by
  refine ⟨markedApart_false, markedApart_true_iff, fun h => ?_⟩
  refine markedApart_true_iff.mpr fun s _ _ => String.toList_inj.mp ?_
  have hoverlooks : ∀ p ∈ book.patterns, p.Overlooks := by
    intro p hp
    rcases h p hp with hp | ⟨kind, hp⟩
    · exact Pattern.overlooks_of_ignoresMark hp
    · exact (SecretKind.findsNumbers hp).overlooks
  rw [RuleBook.toList_mask, String.toList_append, String.toList_append, RuleBook.toList_mask,
    toList_mark, Pattern.Overlooks.maskAll_mark hoverlooks]

def pin : Pattern := .seq (.many true SecretKind.digit) (.look .textEnd)

example : (Pattern.compile "[0-9]+$").toOption = some pin := by decide +kernel

/-- With the mark behind it, the number is no longer at the end and stays readable. -/
theorem pin_shown_by_mark :
    ¬ MarkedApart [⟨"pin", [pin]⟩] true
      ⟨⟨"app", "test", "host", "logger", "linux", none⟩,
        [.ofMessage .info "\x7bpin\x7d 1234" 0]⟩ := by
  unfold MarkedApart
  decide +kernel

end Redactor

end LogDelivery
