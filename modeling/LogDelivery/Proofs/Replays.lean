import LogDelivery.Proofs.Buffer
import LogDelivery.Rehearsal.Delivery
import Mathlib.Logic.Function.Iterate

/-!
# Replays

A replay taken step by step, with all that it waits for: the answers to its posts and the ends of
its pauses. It posts the parcels of a backlog from the front until a post fails. A parcel that is out
for its post leaves its place free, so it can always go back there.
-/
namespace LogDelivery

def Wait.payload? : Wait → Option Payload
  | .answer payload => some payload
  | .pause _ | .nothing => none

def Wait.ticks : Wait → Nat
  | .pause length => length.ticks
  | .answer _ | .nothing => 0

theorem Wait.ticks_answer (payload : Payload) : (Wait.answer payload).ticks = 0 := rfl

theorem Wait.ticks_pause (length : Duration) :
    (Wait.pause length).ticks = length.ticks := rfl

/-- A replay under way, with the answers to come; after the last one, posts succeed. -/
structure ReplayRun where
  backlog : Backlog
  replay : Replay
  answers : List (Except Failure Unit)
  waits : List Wait := []

namespace ReplayRun

def next (t : ReplayRun) : ReplayRun :=
  match t.replay with
  | .ended _ => t
  | .pausing count =>
    let (backlog, replay) := t.backlog.nextParcel count
    { t with backlog, replay, waits := t.waits ++ [.pause t.backlog.pause] }
  | .posting parcel count =>
    let (backlog, replay, _) := t.backlog.answered parcel count (t.answers.headD (.ok ()))
    { backlog, replay, answers := t.answers.tail, waits := t.waits ++ [.answer parcel.payload] }

def result? (t : ReplayRun) : Option (Except Failure Nat) :=
  match t.replay with
  | .ended result => some result
  | _ => none

def elapsed (t : ReplayRun) : Nat := t.waits.foldl (fun total wait => total + wait.ticks) 0

def script (t : ReplayRun) : Script := ⟨t.answers.map .answer, t.waits.filterMap Wait.payload?⟩

variable {t : ReplayRun} {result : Except Failure Nat}

theorem result?_eq_some_iff : t.result? = some result ↔ t.replay = .ended result := by
  unfold result?
  cases t.replay <;> simp

theorem iterate_next_ended (h : t.result? = some result) (n : Nat) : next^[n] t = t := by
  apply Function.iterate_fixed
  simp only [next, result?_eq_some_iff.mp h]

end ReplayRun

namespace Backlog

def without (b : Backlog) (n : Nat) : Backlog := { b with parcels := (b.parcels.takeFront n).2 }

def turning (b : Backlog) (count : Nat) (answers : List (Except Failure Unit))
    (waits : List Wait) : ReplayRun :=
  let (backlog, replay) := b.nextParcel count
  { backlog, replay, answers, waits }

def replayed (b : Backlog) (answers : List (Except Failure Unit)) : ReplayRun :=
  ReplayRun.next^[2 * b.size] (b.turning 0 answers [])

def rounds (pause : Duration) (parcels : List Parcel) : List Wait :=
  (parcels.map fun parcel => .answer parcel.payload).intersperse (.pause pause)

variable {b : Backlog} {parcel : Parcel} {rest : List Parcel} {count : Nat}
  {answers : List (Except Failure Unit)} {waits : List Wait}

theorem without_zero (b : Backlog) : b.without 0 = b := rfl

theorem without_one_without (b : Backlog) (n : Nat) :
    (b.without 1).without n = b.without (n + 1) := by
  have hparcels : ((b.without 1).parcels.takeFront n).2 = (b.parcels.takeFront (n + 1)).2 := by
    apply Buffer.eq_of_fields
    · simp [without, Buffer.takeFront]
    · rfl
    · rfl
  unfold without at *
  rw [hparcels]

theorem items_without_one (h : b.parcels.items = parcel :: rest) :
    (b.without 1).parcels.items = rest := by
  simp [without, Buffer.takeFront, h]

theorem nextParcel_of_nil (h : b.parcels.items = []) (count : Nat) :
    b.nextParcel count = (b, .ended (.ok count)) := by
  simp [nextParcel, Buffer.popFront?, h]

theorem nextParcel_of_cons (h : b.parcels.items = parcel :: rest) (count : Nat) :
    b.nextParcel count = (b.without 1, .posting parcel count) := by
  simp [nextParcel, Buffer.popFront?, h, without]

theorem next_turning_failed (h : b.parcels.items = parcel :: rest) {cause : Failure}
    (ha : answers.headD (.ok ()) = .error cause) :
    (b.turning count answers waits).next =
      ⟨(b.without 1).returned parcel cause, .ended (.error cause), answers.tail,
        waits ++ [.answer parcel.payload]⟩ := by
  simp only [turning, nextParcel_of_cons h, ReplayRun.next, ha, answered]

theorem next_turning_last (h : b.parcels.items = [parcel])
    (ha : answers.headD (.ok ()) = .ok ()) :
    (b.turning count answers waits).next =
      ⟨b.without 1, .ended (.ok (count + 1)), answers.tail,
        waits ++ [.answer parcel.payload]⟩ := by
  have hempty : (b.without 1).isEmpty = true := by
    simp [isEmpty, Buffer.isEmpty, items_without_one h]
  simp only [turning, nextParcel_of_cons h, ReplayRun.next, ha, answered, delivered, hempty,
    if_true]

theorem next_next_turning {second : Parcel} (h : b.parcels.items = parcel :: second :: rest)
    (ha : answers.headD (.ok ()) = .ok ()) :
    (b.turning count answers waits).next.next =
      (b.without 1).turning (count + 1) answers.tail
        (waits ++ [.answer parcel.payload, .pause b.pause]) := by
  have hmore : (b.without 1).isEmpty = false := by
    simp [isEmpty, Buffer.isEmpty, items_without_one h]
  have hpause : (b.without 1).pause = b.pause := rfl
  simp only [turning, nextParcel_of_cons h, ReplayRun.next, ha, answered, delivered, hmore,
    Bool.false_eq_true, if_false, hpause, List.append_assoc, List.singleton_append]

theorem getD_tail (answers : List (Except Failure Unit)) (k : Nat) :
    answers.tail.getD k (.ok ()) = answers.getD (k + 1) (.ok ()) := by
  cases answers <;> rfl

theorem rounds_cons_cons (pause : Duration) (first second : Parcel) (parcels : List Parcel) :
    rounds pause (first :: second :: parcels) =
      [.answer first.payload, .pause pause] ++ rounds pause (second :: parcels) := by
  simp [rounds]

theorem iterate_turning_delivered {parcels : List Parcel} (h : b.parcels.items = parcels)
    (hok : ∀ k < parcels.length, answers.getD k (.ok ()) = .ok ()) {n : Nat}
    (hn : 2 * parcels.length ≤ n) :
    ReplayRun.next^[n] (b.turning count answers waits) =
      ⟨b.without parcels.length, .ended (.ok (count + parcels.length)),
        answers.drop parcels.length, waits ++ rounds b.pause parcels⟩ := by
  induction parcels generalizing b count answers waits n with
  | nil =>
    have hstart : b.turning count answers waits = ⟨b, .ended (.ok count), answers, waits⟩ := by
      rw [turning, nextParcel_of_nil h]
    rw [hstart, ReplayRun.iterate_next_ended rfl]
    simp [without_zero, rounds]
  | cons parcel rest ih =>
    have hfirst : answers.headD (.ok ()) = .ok () := by
      rw [List.headD_eq_getD]
      exact hok 0 (Nat.succ_pos _)
    cases rest with
    | nil =>
      obtain ⟨n, rfl⟩ : ∃ m, n = m + 1 := ⟨n - 1, by simp at hn; omega⟩
      rw [Function.iterate_succ_apply, next_turning_last h hfirst, ReplayRun.iterate_next_ended rfl]
      simp [rounds]
    | cons second rest =>
      obtain ⟨n, rfl⟩ : ∃ m, n = m + 2 := ⟨n - 2, by simp at hn; omega⟩
      have hrest := items_without_one h
      have hlater : ∀ k < (second :: rest).length, answers.tail.getD k (.ok ()) = .ok () := by
        intro k hk
        rw [getD_tail]
        exact hok (k + 1) (Nat.succ_lt_succ hk)
      rw [Function.iterate_succ_apply, Function.iterate_succ_apply, next_next_turning h hfirst,
        ih hrest hlater (by simp at hn ⊢; omega), without_one_without, rounds_cons_cons,
        List.append_assoc, ← List.drop_one, List.drop_drop, Nat.add_assoc count, Nat.add_comm 1]
      rfl

theorem iterate_turning_failed {j : Nat} {cause : Failure}
    (h : b.parcels.items[j]? = some parcel)
    (hok : ∀ k < j, answers.getD k (.ok ()) = .ok ())
    (hfail : answers.getD j (.ok ()) = .error cause) {n : Nat} (hn : 2 * j < n) :
    ReplayRun.next^[n] (b.turning count answers waits) =
      ⟨(b.without (j + 1)).returned parcel cause, .ended (.error cause), answers.drop (j + 1),
        waits ++ rounds b.pause (b.parcels.items.take (j + 1))⟩ := by
  induction j generalizing b count answers waits n with
  | zero =>
    obtain ⟨n, rfl⟩ : ∃ m, n = m + 1 := ⟨n - 1, by omega⟩
    obtain ⟨rest, hcons⟩ : ∃ rest, b.parcels.items = parcel :: rest := by
      cases hi : b.parcels.items with
      | nil => simp [hi] at h
      | cons first rest => exact ⟨rest, by simpa [hi] using h⟩
    rw [Function.iterate_succ_apply,
      next_turning_failed hcons (by rw [List.headD_eq_getD]; exact hfail),
      ReplayRun.iterate_next_ended rfl]
    simp [hcons, rounds]
  | succ j ih =>
    obtain ⟨n, rfl⟩ : ∃ m, n = m + 2 := ⟨n - 2, by omega⟩
    obtain ⟨first, second, rest, hcons⟩ :
        ∃ first second rest, b.parcels.items = first :: second :: rest := by
      match hi : b.parcels.items with
      | [] => simp [hi] at h
      | [_] => simp [hi] at h
      | first :: second :: rest => exact ⟨first, second, rest, rfl⟩
    have hrest := items_without_one hcons
    have hfirst : answers.headD (.ok ()) = .ok () := by
      rw [List.headD_eq_getD]
      exact hok 0 (Nat.succ_pos _)
    have hparcel : (b.without 1).parcels.items[j]? = some parcel := by
      rw [hrest]
      simpa [hcons] using h
    have hlater : ∀ k < j, answers.tail.getD k (.ok ()) = .ok () := by
      intro k hk
      rw [getD_tail]
      exact hok (k + 1) (Nat.succ_lt_succ hk)
    rw [Function.iterate_succ_apply, Function.iterate_succ_apply, next_next_turning hcons hfirst,
      ih hparcel hlater (by rw [getD_tail]; exact hfail) (by omega), without_one_without, hrest,
      hcons, List.take_succ_cons, List.take_succ_cons, List.take_succ_cons, rounds_cons_cons,
      List.append_assoc, ← List.drop_one, List.drop_drop, Nat.add_comm 1]
    rfl

theorem all_ok_or_first_failure (answer : Nat → Except Failure Unit) (n : Nat) :
    (∀ k < n, answer k = .ok ()) ∨
      ∃ j < n, (∀ k < j, answer k = .ok ()) ∧ ∃ cause, answer j = .error cause := by
  induction n with
  | zero => exact Or.inl fun k hk => absurd hk (Nat.not_lt_zero k)
  | succ n ih =>
    rcases ih with hok | ⟨j, hj, hfail⟩
    · cases ha : answer n with
      | ok =>
        left
        intro k hk
        rcases Nat.lt_succ_iff_lt_or_eq.mp hk with hk | rfl
        · exact hok k hk
        · exact ha
      | error cause => exact Or.inr ⟨n, Nat.lt_succ_self n, hok, cause, ha⟩
    · exact Or.inr ⟨j, Nat.lt_succ_of_lt hj, hfail⟩

theorem replayed_delivered
    (hok : ∀ k < b.parcels.items.length, answers.getD k (.ok ()) = .ok ()) :
    b.replayed answers =
      ⟨b.without b.size, .ended (.ok b.size), answers.drop b.size,
        rounds b.pause b.parcels.items⟩ := by
  have hrun : ReplayRun.next^[2 * b.size] (b.turning 0 answers []) = _ :=
    iterate_turning_delivered rfl hok (Nat.le_refl _)
  rwa [Nat.zero_add, List.nil_append] at hrun

theorem replayed_failed {j : Nat} {cause : Failure} (h : b.parcels.items[j]? = some parcel)
    (hok : ∀ k < j, answers.getD k (.ok ()) = .ok ())
    (hfail : answers.getD j (.ok ()) = .error cause) :
    b.replayed answers =
      ⟨(b.without (j + 1)).returned parcel cause, .ended (.error cause), answers.drop (j + 1),
        rounds b.pause (b.parcels.items.take (j + 1))⟩ := by
  obtain ⟨hj, -⟩ := List.getElem?_eq_some_iff.mp h
  have hsteps : 2 * j < 2 * b.size := by
    unfold size Buffer.size
    omega
  have hrun : ReplayRun.next^[2 * b.size] (b.turning 0 answers []) = _ :=
    iterate_turning_failed h hok hfail hsteps
  exact hrun

/-- The places of the parcels that have been taken out are free. -/
theorem room_without {n : Nat} (hn : 0 < n) (hitems : b.parcels.items ≠ []) :
    (b.without n).parcels.isFull = false := by
  have hle := b.parcels.length_le
  have hsome := List.length_pos_iff.mpr hitems
  simp only [Buffer.isFull, without, Buffer.takeFront, List.length_drop, decide_eq_false_iff_not]
  omega

theorem returned_eq (b : Backlog) (parcel : Parcel) (cause : Failure) :
    b.returned parcel cause =
      if maxFailures ≤ parcel.failures + 1 ∨ cause.kind = .unrecoverable then b
      else
        { b with parcels := (b.parcels.putBack { parcel with failures := parcel.failures + 1 }).1 } := by
  simp [returned, Failure.isRetryable]

theorem returned_without {j : Nat} (h : b.parcels.items[j]? = some parcel) (cause : Failure) :
    let left := (b.without (j + 1)).returned parcel cause
    left.parcels.items =
      (if maxFailures ≤ parcel.failures + 1 ∨ cause.kind = .unrecoverable then []
        else [{ parcel with failures := parcel.failures + 1 }]) ++
          b.parcels.items.drop (j + 1) ∧
    left.parcels.capacity = b.parcels.capacity ∧ left.parcels.evicted = b.parcels.evicted ∧
    left.pause = b.pause := by
  have hitems : b.parcels.items ≠ [] := fun hnil => by simp [hnil] at h
  have hroom : (b.without (j + 1)).parcels.isFull = false := room_without (Nat.succ_pos j) hitems
  rw [returned_eq]
  split
  · exact ⟨rfl, rfl, rfl, rfl⟩
  · refine ⟨Buffer.items_putBack_of_room hroom _, Buffer.capacity_putBack .., ?_, rfl⟩
    rw [Buffer.evicted_putBack, hroom]
    rfl

theorem run_posting {moves : List PeerMove} {answer : Except Failure Unit}
    (h : moves.headD (.answer (.ok ())) = .answer answer) (b : Backlog) (parcel : Parcel)
    (count fuel elapsed : Nat) (posts : List Payload) (notices : List Notice) :
    Backlog.run (fuel + 1) b (.posting parcel count) (⟨moves, posts⟩ : Script) ⟨notices, elapsed⟩ =
      Backlog.run fuel (b.answered parcel count answer).1 (b.answered parcel count answer).2.1
        (⟨moves.tail, posts ++ [parcel.payload]⟩ : Script)
        ⟨notices ++ (b.answered parcel count answer).2.2, elapsed⟩ := by
  cases moves with
  | nil =>
    cases h
    delta Backlog.run
    rfl
  | cons move moves =>
    cases h
    delta Backlog.run
    rfl

theorem run_pausing [Peer σ] (b : Backlog) (count fuel : Nat) (peer : σ) (record : Record) :
    Backlog.run (fuel + 1) b (.pausing count) peer record =
      Backlog.run fuel (b.nextParcel count).1 (b.nextParcel count).2 peer
        (record.waited b.pause) := by
  -- unfolded on both sides, so that nothing is computed with the pause
  delta Backlog.run
  rfl

end Backlog

namespace ReplayRun

variable {t : ReplayRun} {result : Except Failure Nat} {parcel : Parcel} {count : Nat}

theorem headD_moves (answers : List (Except Failure Unit)) :
    (answers.map PeerMove.answer).headD (.answer (.ok ())) = .answer (answers.headD (.ok ())) := by
  cases answers <;> rfl

theorem elapsed_next_posting (h : t.replay = .posting parcel count) :
    t.next.elapsed = t.elapsed := by
  have hwaits : t.next.waits = t.waits ++ [.answer parcel.payload] := by simp only [next, h]
  rw [elapsed, hwaits, List.foldl_append, List.foldl_cons, List.foldl_nil, Wait.ticks_answer,
    Nat.add_zero, ← elapsed]

theorem elapsed_next_pausing (h : t.replay = .pausing count) :
    t.next.elapsed = t.elapsed + t.backlog.pause.ticks := by
  have hwaits : t.next.waits = t.waits ++ [.pause t.backlog.pause] := by simp only [next, h]
  rw [elapsed, hwaits, List.foldl_append, List.foldl_cons, List.foldl_nil, Wait.ticks_pause,
    ← elapsed]

theorem script_next_posting (h : t.replay = .posting parcel count) :
    t.next.script = ⟨(t.answers.map .answer).tail,
      t.waits.filterMap Wait.payload? ++ [parcel.payload]⟩ := by
  simp [next, h, script, Wait.payload?, List.map_tail]

theorem script_next_pausing (h : t.replay = .pausing count) : t.next.script = t.script := by
  simp [next, h, script, Wait.payload?, List.filterMap_cons]

/-- While a replay goes on, a rehearsal of it does what a step does. -/
theorem run_next (h : t.result? = none) (fuel : Nat) (notices : List Notice) :
    ∃ more, Backlog.run (fuel + 1) t.backlog t.replay t.script ⟨notices, t.elapsed⟩ =
      Backlog.run fuel t.next.backlog t.next.replay t.next.script ⟨more, t.next.elapsed⟩ := by
  cases hr : t.replay with
  | posting parcel count =>
    rw [elapsed_next_posting hr, script_next_posting hr, script,
      Backlog.run_posting (headD_moves t.answers)]
    simp only [next, hr]
    exact ⟨_, rfl⟩
  | pausing count =>
    rw [elapsed_next_pausing hr, script_next_pausing hr, Backlog.run_pausing]
    simp only [next, hr]
    exact ⟨notices, rfl⟩
  | ended result => simp [result?, hr] at h

theorem run_ended (h : t.result? = some result) (fuel : Nat) (record : Record) :
    Backlog.run (fuel + 1) t.backlog t.replay t.script record =
      (some result, t.backlog, t.script, record) := by
  rw [result?_eq_some_iff.mp h]
  rfl

theorem run_eq {n fuel : Nat} (h : (next^[n] t).result? = some result) (hfuel : n < fuel)
    (notices : List Notice) :
    ∃ more, Backlog.run fuel t.backlog t.replay t.script ⟨notices, t.elapsed⟩ =
      (some result, (next^[n] t).backlog, (next^[n] t).script, ⟨more, (next^[n] t).elapsed⟩) := by
  induction n generalizing t fuel notices with
  | zero =>
    obtain ⟨fuel, rfl⟩ : ∃ f, fuel = f + 1 := ⟨fuel - 1, by omega⟩
    exact ⟨notices, run_ended h fuel _⟩
  | succ n ih =>
    obtain ⟨fuel, rfl⟩ : ∃ f, fuel = f + 1 := ⟨fuel - 1, by omega⟩
    cases hr : t.result? with
    | none =>
      obtain ⟨more, hrun⟩ := run_next hr fuel notices
      rw [hrun]
      exact ih h (Nat.lt_of_succ_lt_succ hfuel) more
    | some ending =>
      rw [iterate_next_ended hr] at h ⊢
      exact ⟨notices, run_ended h fuel _⟩

end ReplayRun

namespace Backlog

theorem replay_eq_replayed (b : Backlog) (answers : List (Except Failure Unit))
    {result : Except Failure Nat} (h : (b.replayed answers).result? = some result) :
    ∃ notices, b.replay (Script.ofAnswers answers) =
      (some result, (b.replayed answers).backlog, (b.replayed answers).script,
        ⟨notices, (b.replayed answers).elapsed⟩) := by
  have hfuel : 2 * b.size < 2 * b.size + 2 := by omega
  exact ReplayRun.run_eq (t := b.turning 0 answers []) h hfuel []

/-- A replay comes to an end, and no parcel is lost for want of room. -/
theorem replayed_ends (b : Backlog) (answers : List (Except Failure Unit)) :
    (∃ result, (b.replayed answers).result? = some result) ∧
    (b.replayed answers).backlog.parcels.capacity = b.parcels.capacity ∧
    (b.replayed answers).backlog.parcels.evicted = b.parcels.evicted ∧
    (b.replayed answers).backlog.pause = b.pause := by
  rcases all_ok_or_first_failure (fun k => answers.getD k (.ok ())) b.parcels.items.length with
    hok | ⟨j, hj, hok, cause, hfail⟩
  · rw [replayed_delivered hok]
    exact ⟨⟨_, rfl⟩, rfl, rfl, rfl⟩
  · have hparcel := List.getElem?_eq_getElem hj
    rw [replayed_failed hparcel hok hfail]
    exact ⟨⟨_, rfl⟩, (returned_without hparcel cause).2⟩

/-- A replay of a backlog in which no parcel has failed three replays, whatever the answers are. It
comes to an end, and a rehearsal has the same end. If all posts succeed, all parcels are delivered
and gone. Otherwise the first failure ends it: the parcels before it are gone, its own is gone if
posting it again is of no use or this was its third failed replay, and else it is back in front with
one failure more, and those behind it still wait. Between two posts there is one pause, and there is
none before the first or after the last one. -/
theorem replay_exact (b : Backlog) (answers : List (Except Failure Unit))
    (hpatient : ∀ parcel ∈ b.parcels.items, parcel.failures ≤ 2) :
    let parcels := b.parcels.items
    let answer := fun k => answers.getD k (.ok ())
    let t := b.replayed answers
    (t.result?.isSome ∧ ∃ notices, b.replay (Script.ofAnswers answers) =
      (t.result?, t.backlog, t.script, ⟨notices, t.elapsed⟩)) ∧
    (t.backlog.parcels.capacity = b.parcels.capacity ∧
      t.backlog.parcels.evicted = b.parcels.evicted ∧ t.backlog.pause = b.pause) ∧
    ((∀ k < parcels.length, answer k = .ok ()) →
      t.result? = some (.ok parcels.length) ∧ t.backlog.parcels.items = [] ∧
      t.waits = rounds b.pause parcels) ∧
    ∀ j parcel cause, parcels[j]? = some parcel → (∀ k < j, answer k = .ok ()) →
      answer j = .error cause →
      t.result? = some (.error cause) ∧
      t.backlog.parcels.items =
        (if cause.kind = .unrecoverable ∨ parcel.failures + 1 = 3 then []
          else [{ parcel with failures := parcel.failures + 1 }]) ++ parcels.drop (j + 1) ∧
      t.waits = rounds b.pause (parcels.take (j + 1)) := by
  intro parcels answer t
  obtain ⟨⟨result, hresult⟩, hframe⟩ := b.replayed_ends answers
  refine ⟨?_, hframe, ?_, ?_⟩
  · obtain ⟨notices, hreplay⟩ := b.replay_eq_replayed answers hresult
    have hresult : t.result? = some result := hresult
    rw [hresult]
    exact ⟨rfl, notices, hreplay⟩
  · intro hok
    have ht : t = _ := replayed_delivered hok
    rw [ht]
    exact ⟨rfl, List.drop_length, rfl⟩
  · intro j parcel cause hparcel hok hfail
    have ht : t = _ := replayed_failed hparcel hok hfail
    have hless := hpatient parcel (List.mem_of_getElem? hparcel)
    have hthird : maxFailures ≤ parcel.failures + 1 ↔ parcel.failures + 1 = 3 := by
      unfold maxFailures
      omega
    rw [ht]
    refine ⟨rfl, ?_, rfl⟩
    rw [(returned_without hparcel cause).1]
    simp only [hthird, or_comm, parcels]

theorem replay_exact_of_three :
    let body := fun text => (⟨.json text, false, 1⟩ : Payload)
    let b : Backlog :=
      { parcels := Buffer.offerAll (.withCapacity 3) [⟨body "a", 0⟩, ⟨body "b", 1⟩, ⟨body "c", 2⟩]
        pause := .ofMillis 250 }
    let t := b.replayed [.ok (), .error (.server 503)]
    (∀ parcel ∈ b.parcels.items, parcel.failures ≤ 2) ∧
    t.result? = some (.error (.server 503)) ∧
    t.backlog.parcels.items = [⟨body "b", 2⟩, ⟨body "c", 2⟩] ∧
    t.waits.filterMap Wait.payload? = [body "a", body "b"] ∧ t.elapsed = 250 := by
  intro body b t
  have hpatient : ∀ parcel ∈ b.parcels.items, parcel.failures ≤ 2 := by decide
  have hfirst : ∀ k < 1, [Except.ok (), .error (Failure.server 503)].getD k (.ok ()) = .ok () := by
    intro k hk
    obtain rfl : k = 0 := by omega
    rfl
  obtain ⟨-, -, -, hfailed⟩ := replay_exact b [.ok (), .error (.server 503)] hpatient
  obtain ⟨hresult, hitems, hwaits⟩ := hfailed 1 ⟨body "b", 1⟩ (.server 503) rfl hfirst rfl
  refine ⟨hpatient, hresult, hitems.trans ?_, ?_, ?_⟩
  · rw [if_neg (by decide)]
    rfl
  · rw [hwaits]
    rfl
  · rw [ReplayRun.elapsed, hwaits]
    decide

end Backlog
end LogDelivery
