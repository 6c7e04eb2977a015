import LogDelivery.Identity.Source
import Mathlib.Data.List.Induction

/-!
# Answers from a cache of identities

What a cache answers to questions that are put one after the other, at times that do not go back. For
each application it remembers the last lookup. So an answer is as old as that lookup, lookups keep
their distance, and applications have nothing to do with each other.
-/
namespace LogDelivery

structure Inquiry where
  app : String
  time : Duration
  answer : Option Identity
  lookedUp : Bool
  deriving DecidableEq

/-- The answer is what a lookup for the application gave: the one for this very question, or an earlier
one that is not yet `ttl` old. -/
def Inquiry.Fresh (ttl : Duration) (inner : String → Duration → Option Identity)
    (earlier : List Inquiry) (v : Inquiry) : Prop :=
  ∃ w ∈ earlier ++ [v], w.lookedUp = true ∧ w.app = v.app ∧ w.answer = v.answer ∧
    w.answer = inner v.app w.time ∧ w.time ≤ v.time ∧ (w = v ∨ v.time - w.time < ttl)

namespace IdentityCache

variable {c c' : IdentityCache} {inner : String → Duration → Option Identity} {app other : String}
  {now : Duration} {visits : List Inquiry} {calls : List (String × Duration)}

def inquire (c : IdentityCache) (inner : String → Duration → Option Identity) (app : String)
    (now : Duration) : Inquiry :=
  ⟨app, now, (c.resolve inner app now).1, (c.fresh? app now).isNone⟩

def inquiries (inner : String → Duration → Option Identity) :
    IdentityCache → List (String × Duration) → List Inquiry
  | _, [] => []
  | c, (app, now) :: calls =>
    c.inquire inner app now :: inquiries inner (c.resolve inner app now).2 calls

def after (inner : String → Duration → Option Identity) (c : IdentityCache)
    (calls : List (String × Duration)) : IdentityCache :=
  calls.foldl (fun c call => (c.resolve inner call.1 call.2).2) c

theorem inquiries_append (c : IdentityCache) (calls : List (String × Duration)) (app : String)
    (now : Duration) : c.inquiries inner (calls ++ [(app, now)]) =
      c.inquiries inner calls ++ [(c.after inner calls).inquire inner app now] := by
  induction calls generalizing c with
  | nil => rfl
  | cons call calls ih => exact congrArg _ (ih _)

theorem after_append (c : IdentityCache) (calls : List (String × Duration)) (app : String)
    (now : Duration) : c.after inner (calls ++ [(app, now)]) =
      ((c.after inner calls).resolve inner app now).2 := by
  simp [after]

theorem inquiries_calls (inner : String → Duration → Option Identity) (c : IdentityCache)
    (calls : List (String × Duration)) :
    (c.inquiries inner calls).map (fun v => (v.app, v.time)) = calls := by
  induction calls generalizing c with
  | nil => rfl
  | cons call calls ih => exact congrArg (call :: ·) (ih _)

/-- A directory behind a cache is asked exactly for what is looked up. -/
theorem resolve_cached (c : IdentityCache) (d : Directory) (app : String) (now : Duration) :
    let inner := fun (_ : String) (_ : Duration) => d.answer
    let (answer, source, _) := (IdentitySource.cached c d).resolve app now
    answer = (c.inquire inner app now).answer ∧
      source = .cached (c.resolve inner app now).2
        (if (c.inquire inner app now).lookedUp then d.next app else d) := by
  cases h : c.fresh? app now <;> simp [inquire, resolve, IdentitySource.resolve, h]

/-- A cache in front of the collector asks it with one request for each lookup. -/
theorem resolve_collector (c : IdentityCache) (l : Lookup) (server : Server) (app : String)
    (now : Duration) :
    let inner := fun app (_ : Duration) => (l.ask server app).1
    let (answer, source, _) := (IdentitySource.collector c l server).resolve app now
    answer = (c.inquire inner app now).answer ∧
      source = .collector (c.resolve inner app now).2 l
        (if (c.inquire inner app now).lookedUp then (l.ask server app).2.1 else server) := by
  cases h : c.fresh? app now <;> simp [inquire, resolve, IdentitySource.resolve, h]

theorem lookup_store (c : IdentityCache) (app other : String) (now : Duration)
    (identity : Option Identity) : (c.store app now identity).entries.lookup other =
      if other = app then some ⟨now, identity⟩ else c.entries.lookup other := by
  by_cases h : other = app
  · simp [store, h]
  · have hfirst : (other == app) = false := by simpa using h
    have hrest : ∀ entries : List (String × CachedIdentity),
        (entries.filter fun e => e.1 ≠ app).lookup other = entries.lookup other := by
      intro entries
      induction entries with
      | nil => rfl
      | cons e entries ih =>
        obtain ⟨name, entry⟩ := e
        by_cases hname : name = app
        · rw [List.filter_cons_of_neg (by simpa using hname), ih, List.lookup_cons, hname, hfirst]
        · rw [List.filter_cons_of_pos (by simpa using hname), List.lookup_cons, List.lookup_cons, ih]
    simp only [store, List.lookup_cons, hfirst, hrest, if_neg h]

theorem resolve_of_fresh (inner : String → Duration → Option Identity) {e : CachedIdentity}
    (he : c.entries.lookup app = some e) (hfresh : now - e.fetchedAt < c.ttl) :
    c.inquire inner app now = ⟨app, now, e.identity, false⟩ ∧ (c.resolve inner app now).2 = c := by
  have hkept : c.fresh? app now = some e.identity := by simp [fresh?, he, hfresh]
  simp [inquire, resolve, hkept]

theorem resolve_of_stale (inner : String → Duration → Option Identity)
    (h : ∀ e, c.entries.lookup app = some e → c.ttl ≤ now - e.fetchedAt) :
    c.inquire inner app now = ⟨app, now, inner app now, true⟩ ∧
      (c.resolve inner app now).2 = c.store app now (inner app now) := by
  have hnothing : c.fresh? app now = none := by
    cases he : c.entries.lookup app with
    | none => simp [fresh?, he]
    | some e =>
      have hold := h e he
      simp [fresh?, he, hold]
  simp [inquire, resolve, hnothing]

theorem fresh_or_stale (c : IdentityCache) (app : String) (now : Duration) :
    (∃ e, c.entries.lookup app = some e ∧ now - e.fetchedAt < c.ttl) ∨
      ∀ e, c.entries.lookup app = some e → c.ttl ≤ now - e.fetchedAt := by
  by_cases h : ∃ e, c.entries.lookup app = some e ∧ now - e.fetchedAt < c.ttl
  · exact Or.inl h
  · refine Or.inr fun e he => ?_
    by_contra hlt
    exact h ⟨e, he, Nat.lt_of_not_le hlt⟩

theorem ttl_resolve : (c.resolve inner app now).2.ttl = c.ttl := by
  unfold resolve
  split <;> rfl

def lookups (app : String) (visits : List Inquiry) : List Inquiry :=
  visits.filter fun v => v.lookedUp ∧ v.app = app

def Remembers (c : IdentityCache) (visits : List Inquiry) : Prop :=
  ∀ app, c.entries.lookup app =
    (lookups app visits).getLast?.map fun w => ⟨w.time, w.answer⟩

theorem start_remembers (ttl : Duration) : Remembers ⟨ttl, []⟩ [] := fun _ => rfl

theorem resolve_remembers (h : c.Remembers visits) (app : String) (now : Duration) :
    (c.resolve inner app now).2.Remembers (visits ++ [c.inquire inner app now]) := by
  intro other
  rcases c.fresh_or_stale app now with ⟨e, he, hfresh⟩ | hstale
  · obtain ⟨hvisit, hcache⟩ := resolve_of_fresh inner he hfresh
    rw [hvisit, hcache, h other]
    simp [lookups]
  · obtain ⟨hvisit, hcache⟩ := resolve_of_stale inner hstale
    rw [hvisit, hcache, lookup_store, lookups, List.filter_append]
    by_cases hother : other = app
    · simp [hother]
    · have happ : ¬ app = other := fun heq => hother heq.symm
      rw [if_neg hother, h other]
      simp [lookups, happ]

theorem after_remembers (inner : String → Duration → Option Identity) (ttl : Duration)
    (calls : List (String × Duration)) :
    (after inner ⟨ttl, []⟩ calls).Remembers (inquiries inner ⟨ttl, []⟩ calls) ∧
      (after inner ⟨ttl, []⟩ calls).ttl = ttl := by
  induction calls using List.reverseRecOn with
  | nil => exact ⟨start_remembers ttl, rfl⟩
  | append_singleton calls call ih =>
    obtain ⟨app, now⟩ := call
    rw [inquiries_append, after_append]
    exact ⟨resolve_remembers ih.1 app now, ttl_resolve.trans ih.2⟩

theorem inquiries_of_lookedUp (c : IdentityCache) (calls : List (String × Duration)) :
    ∀ w ∈ c.inquiries inner calls, w.lookedUp = true → w.answer = inner w.app w.time := by
  induction calls generalizing c with
  | nil => simp [inquiries]
  | cons call calls ih =>
    obtain ⟨app, now⟩ := call
    refine List.forall_mem_cons.mpr ⟨?_, ih _⟩
    intro hlookedUp
    rcases c.fresh_or_stale app now with ⟨e, he, hfresh⟩ | hstale
    · rw [(resolve_of_fresh inner he hfresh).1] at hlookedUp
      cases hlookedUp
    · rw [(resolve_of_stale inner hstale).1]

theorem inquire_fresh (app : String) (h : c.Remembers visits) (hpast : ∀ w ∈ visits, w.time ≤ now)
    (hanswers : ∀ w ∈ visits, w.lookedUp = true → w.answer = inner w.app w.time) :
    (c.inquire inner app now).Fresh c.ttl inner visits := by
  rcases c.fresh_or_stale app now with ⟨e, he, hfresh⟩ | hstale
  · obtain ⟨w, hlast, rfl⟩ := Option.map_eq_some_iff.mp ((h app).symm.trans he)
    obtain ⟨hw, hlookup⟩ := List.mem_filter.mp (List.mem_of_getLast? hlast)
    obtain ⟨hlookedUp, rfl⟩ := of_decide_eq_true hlookup
    rw [(resolve_of_fresh inner he hfresh).1]
    exact ⟨w, List.mem_append_left _ hw, hlookedUp, rfl, rfl, hanswers w hw hlookedUp,
      hpast w hw, Or.inr hfresh⟩
  · rw [(resolve_of_stale inner hstale).1]
    exact ⟨_, List.mem_append_right _ (List.mem_singleton_self _), rfl, rfl, rfl, rfl,
      Nat.le_refl _, Or.inl rfl⟩

/-- No lookup before the last one is younger than the last one. -/
theorem inquire_apart (h : c.Remembers visits) (hsorted : visits.Pairwise fun w v => w.time ≤ v.time)
    (hpast : ∀ w ∈ visits, w.time ≤ now) (hlookedUp : (c.inquire inner app now).lookedUp = true) :
    ∀ w ∈ lookups app visits, w.time + c.ttl ≤ now := by
  intro w hw
  rcases c.fresh_or_stale app now with ⟨e, he, hfresh⟩ | hstale
  · rw [(resolve_of_fresh inner he hfresh).1] at hlookedUp
    cases hlookedUp
  · obtain ⟨last, hlast⟩ := List.getLast?_isSome.mpr (List.ne_nil_of_mem hw) |> Option.isSome_iff_exists.mp
    have hold : c.ttl ≤ now - last.time := hstale ⟨last.time, last.answer⟩ (by rw [h app, hlast]; rfl)
    have hlate : last.time ≤ now := hpast last (List.mem_filter.mp (List.mem_of_getLast? hlast)).1
    have hle : w.time ≤ last.time := by
      obtain ⟨before, hbefore⟩ := List.getLast?_eq_some_iff.mp hlast
      have hpairs : (lookups app visits).Pairwise fun w v => w.time ≤ v.time := hsorted.filter _
      rw [hbefore] at hw hpairs
      rcases List.mem_append.mp hw with hfront | hend
      · exact (List.pairwise_append.mp hpairs).2.2 w hfront last (List.mem_singleton_self _)
      · obtain rfl := List.mem_singleton.mp hend
        exact Nat.le_refl _
    calc w.time + c.ttl ≤ last.time + (now - last.time) := Nat.add_le_add hle hold
      _ = now := Nat.add_sub_cancel' hlate

structure Frugal (ttl : Duration) (inner : String → Duration → Option Identity)
    (visits : List Inquiry) : Prop where
  fresh : ∀ earlier v later, visits = earlier ++ v :: later → v.Fresh ttl inner earlier
  apart : (visits.filter (·.lookedUp)).Pairwise fun w v => w.app = v.app → w.time + ttl ≤ v.time

theorem Frugal.append {ttl : Duration} (h : Frugal ttl inner visits) {v : Inquiry}
    (hfresh : v.Fresh ttl inner visits)
    (hapart : v.lookedUp = true → ∀ w ∈ lookups v.app visits, w.time + ttl ≤ v.time) :
    Frugal ttl inner (visits ++ [v]) := by
  constructor
  · intro earlier v' later heq
    rcases List.eq_nil_or_concat later with rfl | ⟨front, last, rfl⟩
    · obtain ⟨rfl, hlast⟩ := List.append_inj' heq rfl
      rw [← (List.cons.inj hlast).1]
      exact hfresh
    · rw [List.concat_eq_append, ← List.cons_append, ← List.append_assoc] at heq
      exact h.fresh earlier v' front (List.append_inj' heq rfl).1
  · rw [List.filter_append]
    refine List.pairwise_append.mpr ⟨h.apart, (List.pairwise_singleton _ _).filter _, ?_⟩
    intro w hw v' hv' happ
    obtain ⟨hmem, hlookedUp⟩ := List.mem_filter.mp hv'
    obtain rfl := List.mem_singleton.mp hmem
    obtain ⟨hw, hwasLookedUp⟩ := List.mem_filter.mp hw
    exact hapart hlookedUp w (List.mem_filter.mpr ⟨hw, decide_eq_true ⟨hwasLookedUp, happ⟩⟩)

theorem inquiries_frugal (ttl : Duration) (inner : String → Duration → Option Identity)
    {calls : List (String × Duration)} (hcalls : calls.Pairwise fun a b => a.2 ≤ b.2) :
    Frugal ttl inner (inquiries inner ⟨ttl, []⟩ calls) := by
  induction calls using List.reverseRecOn with
  | nil => exact ⟨fun _ _ _ h => absurd h.symm (by simp [inquiries]), List.Pairwise.nil⟩
  | append_singleton calls call ih =>
    obtain ⟨app, now⟩ := call
    obtain ⟨hbefore, -, hlast⟩ := List.pairwise_append.mp hcalls
    obtain ⟨hremembers, httl⟩ := after_remembers inner ttl calls
    have htimes := inquiries_calls inner ⟨ttl, []⟩ calls
    have hsorted : (inquiries inner ⟨ttl, []⟩ calls).Pairwise fun w v => w.time ≤ v.time := by
      have hpairs : ((inquiries inner ⟨ttl, []⟩ calls).map fun v => (v.app, v.time)).Pairwise
          fun a b => a.2 ≤ b.2 := by rwa [htimes]
      rwa [List.pairwise_map] at hpairs
    have hpast : ∀ w ∈ inquiries inner ⟨ttl, []⟩ calls, w.time ≤ now := by
      intro w hw
      have hcall : (w.app, w.time) ∈ calls := htimes ▸ List.mem_map_of_mem hw
      exact hlast _ hcall _ (List.mem_singleton_self _)
    rw [inquiries_append]
    refine (ih hbefore).append ?_ ?_
    · have hfresh := inquire_fresh app hremembers hpast (inquiries_of_lookedUp _ calls)
      rwa [httl] at hfresh
    · intro hlookedUp
      have hapart := inquire_apart hremembers hsorted hpast hlookedUp
      rwa [httl] at hapart

def SameFor (app : String) (c c' : IdentityCache) : Prop :=
  c.ttl = c'.ttl ∧ c.entries.lookup app = c'.entries.lookup app

theorem resolve_same (inner : String → Duration → Option Identity) (h : SameFor app c c')
    (now : Duration) : c.inquire inner app now = c'.inquire inner app now ∧
      SameFor app (c.resolve inner app now).2 (c'.resolve inner app now).2 := by
  obtain ⟨httl, hlookup⟩ := h
  rcases c.fresh_or_stale app now with ⟨e, he, hfresh⟩ | hstale
  · obtain ⟨hvisit, hcache⟩ := resolve_of_fresh inner he hfresh
    obtain ⟨hvisit', hcache'⟩ := resolve_of_fresh inner (hlookup ▸ he) (httl ▸ hfresh)
    rw [hvisit, hvisit', hcache, hcache']
    exact ⟨rfl, httl, hlookup⟩
  · obtain ⟨hvisit, hcache⟩ := resolve_of_stale inner hstale
    obtain ⟨hvisit', hcache'⟩ := resolve_of_stale (c := c') inner (httl ▸ hlookup ▸ hstale)
    rw [hvisit, hvisit', hcache, hcache']
    exact ⟨rfl, httl, by rw [lookup_store, lookup_store, if_pos rfl, if_pos rfl]⟩

theorem resolve_other (c : IdentityCache) (inner : String → Duration → Option Identity)
    (h : other ≠ app) (now : Duration) :
    SameFor other (c.resolve inner app now).2 c := by
  rcases c.fresh_or_stale app now with ⟨e, he, hfresh⟩ | hstale
  · rw [(resolve_of_fresh inner he hfresh).2]
    exact ⟨rfl, rfl⟩
  · rw [(resolve_of_stale inner hstale).2]
    exact ⟨rfl, by rw [lookup_store, if_neg h]⟩

/-- The questions for one application go as if there were no others. -/
theorem inquiries_filter (h : SameFor app c c') (calls : List (String × Duration)) :
    (c.inquiries inner calls).filter (fun v => v.app = app) =
      c'.inquiries inner (calls.filter fun call => call.1 = app) := by
  induction calls generalizing c c' with
  | nil => rfl
  | cons call calls ih =>
    obtain ⟨name, now⟩ := call
    have happ : (c.inquire inner name now).app = name := rfl
    rw [inquiries, List.filter_cons, happ, List.filter_cons]
    by_cases hname : name = app
    · subst hname
      obtain ⟨hvisit, hnext⟩ := resolve_same inner h now
      simp only [decide_true, if_true, inquiries, hvisit, ih hnext]
    · obtain ⟨httl, hlookup⟩ := resolve_other c inner (Ne.symm hname) now
      simp only [hname, decide_false, Bool.false_eq_true, if_false]
      exact ih ⟨httl.trans h.1, hlookup.trans h.2⟩

/-- Questions to a new cache, at times that do not go back. There is one answer to each, it is what a
lookup for the same application gave, now or less than `ttl` ago; two lookups for one application are at
least `ttl` apart; and what becomes of the questions for one application does not depend on the others.
What is looked up is what the directory or the collector behind a cache is asked for, and nothing else. -/
theorem answers_fresh_and_lookups_rare (ttl : Duration)
    (inner : String → Duration → Option Identity) {calls : List (String × Duration)}
    (hcalls : calls.Pairwise fun a b => a.2 ≤ b.2) :
    let visits := inquiries inner ⟨ttl, []⟩ calls
    visits.map (fun v => (v.app, v.time)) = calls ∧
    (∀ earlier v later, visits = earlier ++ v :: later → v.Fresh ttl inner earlier) ∧
    ((visits.filter (·.lookedUp)).Pairwise fun w v => w.app = v.app → w.time + ttl ≤ v.time) ∧
    (∀ app, visits.filter (fun v => v.app = app) =
      inquiries inner ⟨ttl, []⟩ (calls.filter fun call => call.1 = app)) ∧
    (∀ (c : IdentityCache) (d : Directory) (app : String) (now : Duration),
      let inner := fun (_ : String) (_ : Duration) => d.answer
      let (answer, source, _) := (IdentitySource.cached c d).resolve app now
      answer = (c.inquire inner app now).answer ∧
        source = .cached (c.resolve inner app now).2
          (if (c.inquire inner app now).lookedUp then d.next app else d)) ∧
    ∀ (c : IdentityCache) (l : Lookup) (server : Server) (app : String) (now : Duration),
      let inner := fun app (_ : Duration) => (l.ask server app).1
      let (answer, source, _) := (IdentitySource.collector c l server).resolve app now
      answer = (c.inquire inner app now).answer ∧
        source = .collector (c.resolve inner app now).2 l
          (if (c.inquire inner app now).lookedUp then (l.ask server app).2.1 else server) := by
  intro visits
  obtain ⟨hfresh, hapart⟩ := inquiries_frugal ttl inner hcalls
  exact ⟨inquiries_calls inner _ calls, hfresh, hapart, fun app => inquiries_filter ⟨rfl, rfl⟩ calls,
    resolve_cached, resolve_collector⟩

theorem answers_fresh_of_two_applications :
    let inner := fun app (now : Duration) =>
      if now < 5 then none else some { appNameId := some app : Identity }
    let calls := [("shop", 0), ("desk", 3), ("shop", 4), ("shop", 5), ("desk", 7)]
    let visits := inquiries inner ⟨5, []⟩ calls
    calls.Pairwise (fun a b => a.2 ≤ b.2) ∧
      visits.map (fun v => (v.answer, v.lookedUp)) = [(none, true), (none, true), (none, false),
        (some { appNameId := some "shop" }, true), (none, false)] ∧
      ((visits.filter (·.lookedUp)).Pairwise fun w v => w.app = v.app → w.time + 5 ≤ v.time) := by
  intro inner calls visits
  have hcalls : calls.Pairwise fun a b => a.2 ≤ b.2 := by decide
  exact ⟨hcalls, by decide, (answers_fresh_and_lookups_rare 5 inner hcalls).2.2.1⟩

end IdentityCache
end LogDelivery
