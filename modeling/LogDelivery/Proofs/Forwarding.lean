import LogDelivery.Proofs.Buffer
import LogDelivery.Proofs.Lines
import LogDelivery.Proofs.Utf8
import Mathlib.Data.List.Forall2

/-!
# From an input to its events

The bytes of a text are read as its lines, and each line that is not blank becomes one event. None of
these events reports an error, so the throttle lets all of them in, and the count is the number of the lines.
-/
namespace LogDelivery

namespace Rehearsal

variable {σ : Type} {run : Rehearsal σ} {said : List Notice}

theorem said_moved (h : said <+: run.notices) (r : Pipeline × List Notice) :
    said <+: (run.moved r).notices :=
  h.trans (List.prefix_append _ _)

theorem said_conclude (h : said <+: run.notices) (limit : Nat) :
    said <+: (run.conclude limit).1.notices := by
  unfold conclude
  split <;> exact said_moved h _

variable [Peer σ]

theorem said_settle (fuel : Nat) (h : said <+: run.notices) :
    said <+: (settle fuel run).notices := by
  induction fuel generalizing run with
  | zero => exact h
  | succ fuel ih =>
    have hworked := said_moved h (run.pipeline.workOn Pipeline.maxMoves run.wallClock)
    rw [settle]
    generalize run.moved (run.pipeline.workOn Pipeline.maxMoves run.wallClock) = worked at hworked
    cases worked.pipeline.wait with
    | answer payload =>
      have hposted : said <+: worked.notices ++ (Peer.post worked.peer payload).2.2 :=
        hworked.trans (List.prefix_append _ _)
      dsimp only
      split
      · exact ih (said_moved hposted _)
      · exact hposted
      · exact hposted
      · exact said_moved hposted _
    | pause length =>
      dsimp only
      split
      · exact ih (said_moved hworked _)
      · exact hworked
    | nothing =>
      dsimp only
      split <;> exact hworked

theorem said_fire (h : said <+: run.notices) : said <+: run.fire.notices := by
  unfold fire
  split <;> exact said_settle _ (said_moved h _)

theorem said_elapse (limit fuel : Nat) (h : said <+: run.notices) :
    said <+: (elapse limit fuel run).notices := by
  induction fuel generalizing run with
  | zero => exact h
  | succ fuel ih =>
    rw [elapse]
    split
    · exact h
    · split
      · exact ih (said_fire h)
      · exact h

theorem said_waitFor (h : said <+: run.notices) (wasSleeping : Bool) (ticks : Nat) :
    said <+: (run.waitFor wasSleeping ticks).notices := by
  unfold waitFor
  split
  · exact h
  · refine said_elapse _ _ ?_
    split
    · exact said_settle _ h
    · exact h

theorem said_shutdown (h : said <+: run.notices) : said <+: run.shutdown.1.notices := by
  have hcancelled := said_moved h (run.pipeline.cancel, [])
  unfold shutdown
  dsimp only
  split
  · exact hcancelled
  · have hjoined : said <+:
        ({ run.moved (run.pipeline.cancel, []) with joined := true } : Rehearsal σ).notices := hcancelled
    exact said_conclude (said_waitFor hjoined _ _) _

end Rehearsal

namespace Text

def encoded (cs : List Char) : List UInt8 := cs.flatMap String.utf8EncodeChar

theorem decodeUtf8_encoded (cs : List Char) : decodeUtf8 (encoded cs) = .ok (String.ofList cs) := by
  have h := decodeUtf8_toUTF8 (String.ofList cs)
  rwa [toUTF8_toList, String.toList_ofList] at h

theorem lineFeed_not_mem_encodeChar {c : Char} (h : c ≠ '\n') :
    (0x0A : UInt8) ∉ String.utf8EncodeChar c := by
  intro hmem
  rcases toNat_of_mem_encodeChar hmem with ⟨hsame, -⟩ | ⟨hle, -⟩
  · exact h (Char.toNat_inj.mp hsame.symm)
  · exact absurd hle (by decide)

end Text

namespace Forwarder

variable {s : String} {t : UInt64} {e : Event}

/-- The parts of a text between its line feeds as lines. Each line ends with its line feed, and the last
part, which has none, is a line only if there is something in it. -/
def fullLines : List (List Char) → List (List Char)
  | [] => []
  | [last] => if last = [] then [] else [last]
  | part :: next :: more => (part ++ ['\n']) :: fullLines (next :: more)

/-- Something put in front of the first line, or a line of its own. -/
def putInFront (front : List α) : List (List α) → List (List α)
  | [] => [front]
  | first :: more => (front ++ first) :: more

theorem fullLines_modifyHead (c : Char) {parts : List (List Char)} (h : parts ≠ []) :
    fullLines (parts.modifyHead (List.cons c)) = putInFront [c] (fullLines parts) := by
  rcases parts with _ | ⟨part, _ | ⟨next, more⟩⟩
  · exact absurd rfl h
  · by_cases hpart : part = [] <;> simp [fullLines, putInFront, hpart]
  · rfl

theorem pieces_append {bytes : List UInt8} (hne : bytes ≠ []) (h : 0x0A ∉ bytes)
    (rest : List UInt8) : pieces (bytes ++ rest) = putInFront bytes (pieces rest) := by
  induction bytes with
  | nil => exact absurd rfl hne
  | cons b bytes ih =>
    rw [List.mem_cons, not_or] at h
    rw [List.cons_append, pieces, if_neg (Ne.symm h.1)]
    by_cases hbytes : bytes = []
    · subst hbytes
      cases hrest : pieces rest <;> simp [putInFront, hrest]
    · rw [ih hbytes h.2]
      cases hrest : pieces rest <;> simp [putInFront]

/-- The bytes of a text fall into the bytes of its lines. -/
theorem pieces_encoded (cs : List Char) :
    pieces (Text.encoded cs) = (fullLines (cs.splitOn '\n')).map Text.encoded := by
  induction cs with
  | nil => rfl
  | cons c cs ih =>
    rw [List.splitOn_cons_eq_if_modifyHead]
    split
    · next hc =>
      obtain rfl := eq_of_beq hc
      obtain ⟨part, more, hparts⟩ := List.exists_cons_of_ne_nil (List.splitOn_ne_nil '\n' cs)
      have hsplit : Text.encoded ('\n' :: cs) = 0x0A :: Text.encoded cs := rfl
      rw [hsplit, pieces, if_pos rfl, ih, hparts]
      rfl
    · next hc =>
      have hne : c ≠ '\n' := by simpa using hc
      rw [fullLines_modifyHead c (List.splitOn_ne_nil _ _)]
      have hsplit : Text.encoded (c :: cs) = String.utf8EncodeChar c ++ Text.encoded cs := rfl
      rw [hsplit, pieces_append String.utf8EncodeChar_ne_nil (Text.lineFeed_not_mem_encodeChar hne), ih]
      cases fullLines (cs.splitOn '\n') <;> simp [putInFront, Text.encoded]

theorem readPieces_encoded (lines : List (List Char)) :
    readPieces (lines.map Text.encoded) =
      (lines.map fun line => withoutEnd (String.ofList line), none) := by
  induction lines with
  | nil => rfl
  | cons line lines ih =>
    rw [List.map_cons, readPieces, Text.decodeUtf8_encoded]
    simp [ih]

theorem readLines_toUTF8 (text : String) : readLines text.toUTF8.toList =
    ((fullLines (text.toList.splitOn '\n')).map fun line => withoutEnd (String.ofList line), none) := by
  rw [readLines, Text.toUTF8_toList]
  exact (congrArg readPieces (pieces_encoded text.toList)).trans (readPieces_encoded _)

theorem event?_congr {s' : String} (h : Text.trimEnd s.toList = Text.trimEnd s'.toList) :
    event? s t = event? s' t := by
  simp only [event?, h]

theorem trimEnd_withoutEnd : Text.trimEnd (withoutEnd s).toList = Text.trimEnd s.toList := by
  rw [withoutEnd, String.toList_ofList]
  split
  · next h =>
    simp [Text.trimEnd, Text.dropEndWhile, h, Text.isBlank_lineFeed, Text.isBlank_carriageReturn]
  · next h => simp [Text.trimEnd, Text.dropEndWhile, h, Text.isBlank_lineFeed]
  · rfl

theorem event?_withoutEnd : event? (withoutEnd s) t = event? s t :=
  event?_congr trimEnd_withoutEnd

def events (text : String) : List Event :=
  (text.toList.splitOn '\n').filterMap fun line => event? (String.ofList line) 0

def lettered (text : String) : List (List Char) :=
  (text.toList.splitOn '\n').filter fun line => line.any fun c => !Text.isBlank c

theorem filterMap_fullLines (parts : List (List Char)) :
    (fullLines parts).filterMap (fun line => event? (String.ofList line) t) =
      parts.filterMap fun line => event? (String.ofList line) t := by
  have hempty : event? (String.ofList []) t = none := event?_eq_none_iff.mpr (by simp)
  have hfeed : ∀ part, event? (String.ofList (part ++ ['\n'])) t = event? (String.ofList part) t := by
    intro part
    refine event?_congr ?_
    simp [Text.trimEnd, Text.dropEndWhile, Text.isBlank_lineFeed]
  induction parts using fullLines.induct with
  | case1 => rfl
  | case2 => simp [fullLines, hempty]
  | case3 last hlast => simp [fullLines, hlast]
  | case4 part next more ih =>
    rw [fullLines, List.filterMap_cons, hfeed, ih, List.filterMap_cons (a := part)]

theorem filterMap_readLines (text : String) :
    (readLines text.toUTF8.toList).1.filterMap (event? · 0) = events text := by
  rw [readLines_toUTF8, List.filterMap_map]
  simp only [Function.comp_def, event?_withoutEnd]
  exact filterMap_fullLines _

theorem forall₂_events (text : String) :
    List.Forall₂ (fun line e => ReadAs line 0 e) (lettered text) (events text) := by
  rw [lettered, events]
  induction text.toList.splitOn '\n' with
  | nil => exact .nil
  | cons line lines ih =>
    cases he : event? (String.ofList line) 0 with
    | none =>
      have hblank : ¬ (line.any fun c => !Text.isBlank c) := by
        simpa using event?_eq_none_iff.mp he
      rwa [List.filterMap_cons, he, List.filter_cons, if_neg hblank]
    | some e =>
      have hletter : line.any fun c => !Text.isBlank c := by
        by_contra hblank
        rw [event?_eq_none_iff.mpr (by simpa using hblank)] at he
        cases he
      have hread := event?_eq_some_iff.mp he
      rw [String.toList_ofList] at hread
      rw [List.filterMap_cons, he, List.filter_cons, if_pos hletter]
      exact .cons hread ih

theorem ReadAs.error_eq_none {line : List Char} (h : ReadAs line t e) : e.error = none := by
  cases h <;> rfl

theorem error_eq_none_of_mem_events {text : String} (h : e ∈ events text) : e.error = none := by
  obtain ⟨line, -, hevent⟩ := List.mem_filterMap.mp h
  exact (event?_eq_some_iff.mp hevent).error_eq_none

theorem append_passes {σ : Type} [Peer σ] (run : Rehearsal σ) (h : e.error = none) :
    (run.append e).2 = true ∧
      (run.append e).1.pipeline = { run.pipeline with outbox := run.pipeline.outbox.append e } := by
  simp [Rehearsal.append, Rehearsal.moved, Pipeline.append, Pipeline.review, h]

def given (run : Rehearsal Connection) (events : List Event) : Rehearsal Connection :=
  events.foldl (fun run e => (run.append e).1) run

theorem outbox_given (run : Rehearsal Connection) {events : List Event}
    (h : ∀ e ∈ events, e.error = none) :
    (given run events).pipeline.outbox = events.foldl Outbox.append run.pipeline.outbox := by
  induction events generalizing run with
  | nil => rfl
  | cons e events ih =>
    obtain ⟨he, hevents⟩ := List.forall_mem_cons.mp h
    have hrest := ih (run.append e).1 hevents
    rw [(append_passes run he).2] at hrest
    exact hrest

theorem events_foldl_append (o : Outbox) (events : List Event) :
    (events.foldl Outbox.append o).events = o.events.offerAll events := by
  induction events generalizing o with
  | nil => rfl
  | cons e events ih => exact ih (o.append e)

theorem forward_append_blank {run : Rehearsal Connection} {lines : List String} {line : String}
    (h : event? line 0 = none) : forward run (lines ++ [line]) = forward run lines := by
  rw [forward, List.foldl_append, ← forward, List.foldl_cons, List.foldl_nil]
  simp only [h]

theorem forward_append_lettered {run : Rehearsal Connection} {lines : List String} {line : String}
    (h : event? line 0 = some e) : forward run (lines ++ [line]) =
      (((forward run lines).1.append e).1, (forward run lines).2 + 1) := by
  have hpasses := (append_passes (forward run lines).1 (event?_eq_some_iff.mp h).error_eq_none).1
  rw [forward, List.foldl_append, ← forward, List.foldl_cons, List.foldl_nil]
  simp only [h, hpasses, if_true]

/-- All events are given to the pipeline, and all are counted. -/
theorem forward_eq (run : Rehearsal Connection) (lines : List String) :
    forward run lines =
      (given run (lines.filterMap (event? · 0)), (lines.filterMap (event? · 0)).length) := by
  induction lines using List.reverseRecOn with
  | nil => rfl
  | append_singleton lines line ih =>
    rw [List.filterMap_append]
    cases h : event? line 0 with
    | none =>
      have hnone : [line].filterMap (event? · 0) = [] := by simp [h]
      rw [forward_append_blank h, ih, hnone, List.append_nil]
    | some e =>
      have hsome : [line].filterMap (event? · 0) = [e] := by simp [h]
      rw [forward_append_lettered h, ih, hsome, given, given, List.foldl_append, List.length_append]
      rfl

theorem forwardAll_notices {env : Settings.Environment} {text : String} {agent collector : Server}
    {opened : Pipeline × Wire}
    (h : (Pipeline.openWithOwnKey (.ofEnvironment env) collector).1 = .ok opened) :
    ∃ before after, (forwardAll env text.toUTF8.toList agent collector).notices =
      before ++ [.inputEnded, .forwarded (events text).length] ++ after := by
  obtain ⟨pipeline, wire⟩ := opened
  have hlines := readLines_toUTF8 text
  have hevents := filterMap_readLines text
  rw [hlines] at hevents
  cases hopen : Pipeline.openWithOwnKey (.ofEnvironment env) collector with
  | mk opened said =>
  obtain rfl : opened = .ok (pipeline, wire) := by rwa [hopen] at h
  simp only [forwardAll, hopen, hlines, forward_eq, hevents]
  generalize hrun : given _ (events text) = run
  let ending : List Notice := [.inputEnded, .forwarded (events text).length]
  have hsaid : run.notices ++ ending <+: (run.moved (run.pipeline, ending)).shutdown.1.notices :=
    Rehearsal.said_shutdown (List.prefix_refl _)
  obtain ⟨after, hafter⟩ := hsaid
  split
  · exact ⟨run.notices, after, hafter.symm⟩
  · exact ⟨run.notices, after ++ _, by rw [← hafter, List.append_assoc]⟩

/-- A line is read as nothing exactly if it is blank, and in one way otherwise; its message is never blank and
is what its line ends with. Of any text each line that is not blank becomes one event, which no throttle keeps
out; they go to the end of the outbox in order, and cost as many of the oldest as do not fit. A run that
gets as far as reading reports the number of these lines. -/
theorem lines_forwarded :
    (∀ (line : String) (t : UInt64),
      (event? line t = none ↔ ∀ c ∈ line.toList, Text.isBlank c) ∧
      (∀ e, event? line t = some e ↔ ReadAs line.toList t e) ∧
      ∀ e, event? line t = some e → ∃ message, e.message = some (String.ofList message) ∧
        message <:+ Text.trimEnd line.toList ∧ ∃ c ∈ message, Text.isBlank c = false) ∧
    ∀ text : String, ∃ events,
      List.Forall₂ (fun line e => ReadAs line 0 e) (lettered text) events ∧
      (readLines text.toUTF8.toList).2 = none ∧
      (∀ run, forward run (readLines text.toUTF8.toList).1 =
        (given run events, (lettered text).length)) ∧
      (∀ run, (given run events).pipeline.outbox = events.foldl Outbox.append run.pipeline.outbox) ∧
      (∀ run : Rehearsal Connection,
        let before := run.pipeline.outbox.events
        let after := (given run events).pipeline.outbox.events
        let lost := before.items.length + events.length - before.capacity
        after.items = (before.items ++ events).drop lost ∧ after.evicted = before.evicted + lost) ∧
      (∀ e ∈ events, ∀ run : Rehearsal Connection, (run.append e).2 = true) ∧
      ∀ env agent collector opened,
        (Pipeline.openWithOwnKey (.ofEnvironment env) collector).1 = .ok opened →
        ∃ before after, (forwardAll env text.toUTF8.toList agent collector).notices =
          before ++ [.inputEnded, .forwarded (lettered text).length] ++ after := by
  refine ⟨fun line t => ⟨event?_eq_none_iff, fun e => event?_eq_some_iff, fun e he => ?_⟩,
    fun text => ?_⟩
  · exact (event?_eq_some_iff.mp he).message_isSuffix
  · have hread := forall₂_events text
    have hlength : (events text).length = (lettered text).length := hread.length_eq.symm
    have hgiven : ∀ run : Rehearsal Connection, (given run (events text)).pipeline.outbox =
        (events text).foldl Outbox.append run.pipeline.outbox :=
      fun run => outbox_given run fun e => error_eq_none_of_mem_events
    refine ⟨events text, hread, by rw [readLines_toUTF8], fun run => ?_, hgiven, fun run => ?_,
      fun e he run => ?_, ?_⟩
    · rw [forward_eq, filterMap_readLines, hlength]
    · rw [hgiven, events_foldl_append]
      exact ⟨Buffer.items_offerAll _ _, Buffer.evicted_offerAll _ _⟩
    · exact (append_passes run (error_eq_none_of_mem_events he)).1
    · intro env agent collector opened h
      rw [← hlength]
      exact forwardAll_notices h

theorem two_of_three_lines_forwarded :
    let env : Settings.Environment := fun name =>
      if name = "LOG_SHIPPER_TRANSPORT" then some "agent" else none
    ∃ before after, (forwardAll env "[warn]: disk full\r\n\n\tdone".toUTF8.toList {} {}).notices =
      before ++ [.inputEnded, .forwarded 2] ++ after := by
  intro env
  have hopen : (Pipeline.openWithOwnKey (.ofEnvironment env) {}).1.isOk := by decide +kernel
  have hcount : (lettered "[warn]: disk full\r\n\n\tdone").length = 2 := by decide +kernel
  obtain ⟨-, -, -, -, -, -, -, hnotices⟩ := lines_forwarded.2 "[warn]: disk full\r\n\n\tdone"
  cases h : (Pipeline.openWithOwnKey (.ofEnvironment env) {}).1 with
  | error e =>
    rw [h] at hopen
    cases hopen
  | ok opened =>
    rw [hcount] at hnotices
    exact hnotices env {} {} opened h

end Forwarder
end LogDelivery
