import LogDelivery.Proofs.Fingerprints
import LogDelivery.Trace.Capture

/-!
# Where errors come from

An error that is captured from a trace record is given the place of its record as a frame, on its
outer node. Its fingerprint is made of its innermost node. So the place tells errors apart as long
as they have no causes, and errors that have causes are all of one fingerprint.
-/
namespace LogDelivery

namespace TraceRecord

def origin (r : TraceRecord) : String := r.module.getD r.target

end TraceRecord

namespace Capture

theorem error_add (c : Capture) (f : Field) :
    (c.add f).error = c.error ∨
      ∃ message causes, (c.add f).error = some (.ofMessages message causes) := by
  unfold add
  split
  · next message causes _ _ => exact Or.inr ⟨message, causes, rfl⟩
  · exact Or.inl rfl
  · split
    · exact Or.inl rfl
    · exact Or.inl rfl

theorem error_ofFields {fields : List Field} {e : ErrorChain}
    (h : (ofFields fields).error = some e) : ∃ message causes, e = .ofMessages message causes := by
  induction fields using List.reverseRecOn with
  | nil => cases h
  | append_singleton fields f ih =>
    have hlast : ofFields (fields ++ [f]) = (ofFields fields).add f := by simp [ofFields]
    rw [hlast] at h
    rcases error_add (ofFields fields) f with hkept | ⟨message, causes, hnew⟩
    · exact ih (hkept.symm.trans h)
    · exact ⟨message, causes, Option.some.inj (h.symm.trans hnew)⟩

end Capture

namespace ErrorChain

theorem innermost_of_no_causes {e : ErrorChain} (h : e.causes = []) : e.innermost = e.outer := by
  have hlast := e.getLast?_reached
  rw [reached_eq, nodes, h] at hlast
  exact (Option.some.inj hlast).symm

theorem innermost_mem_causes {e : ErrorChain} (h : e.causes ≠ []) : e.innermost ∈ e.causes := by
  have hreached : e.causes.take (maxReach - 1) ≠ [] := by
    simp [maxReach, List.take_eq_nil_iff, h]
  have hcons : e.reached = e.outer :: e.causes.take (maxReach - 1) := e.reached_eq
  have hlast := e.getLast?_reached
  rw [hcons, List.getLast?_cons, List.getLast?_eq_some_getLast hreached] at hlast
  rw [← Option.some.inj hlast]
  exact List.mem_of_mem_take (List.getLast_mem hreached)

end ErrorChain

namespace TraceRecord

variable {r : TraceRecord} {thread : String} {timestamp : UInt64} {x : ErrorChain}

theorem error_event (h : (r.event thread timestamp).error = some x) :
    ∃ message causes, x = r.placed (.ofMessages message causes) := by
  obtain ⟨e, he, rfl⟩ := Option.map_eq_some_iff.mp h
  obtain ⟨message, causes, rfl⟩ := Capture.error_ofFields he
  exact ⟨message, causes, rfl⟩

theorem traits_of_captured (h : (r.event thread timestamp).error = some x) :
    x.innermost.traits =
      ⟨ErrorChain.plainKind, none, if x.causes = [] then some r.origin else none⟩ := by
  obtain ⟨message, causes, hx⟩ := error_event h
  rw [ErrorChain.ofMessages_eq] at hx
  subst hx
  split_ifs with hc
  · rw [ErrorChain.innermost_of_no_causes hc]
    rfl
  · obtain ⟨text, -, hnode⟩ := List.mem_map.mp (ErrorChain.innermost_mem_causes hc)
    rw [← hnode]
    rfl

end TraceRecord

namespace Pipeline

/-- After a storm of one error, another error of the same minute is let in exactly if it has a
fingerprint of its own. -/
theorem append_after_storm {s : Settings} (hpos : 0 < s.maxDuplicates)
    (hmax : s.maxDuplicates < Counter.countMax) (courier : Courier) (identity : IdentitySource)
    (rules : RuleBook) {a b : Event} {x y : ErrorChain} (ha : a.error = some x)
    (hb : b.error = some y) (now : Nat) {n : Nat} (hn : s.maxDuplicates ≤ n) :
    let p := (List.replicate n (.append a now)).foldl next (start s courier identity rules)
    ((p.append b now).2 = true ↔ Fingerprint.ofError x ≠ Fingerprint.ofError y) := by
  intro p
  have hstorm : reviewed (List.replicate n (.append a now)) =
      List.replicate n (.see x (minuteOf now)) := by
    simp [reviewed, Move.review?, ha]
  have hall : reviewed (List.replicate n (.append a now) ++ [.append b now]) =
      List.replicate n (.see x (minuteOf now)) ++ [.see y (minuteOf now)] := by
    rw [reviewed, List.filterMap_append]
    exact congrArg₂ _ hstorm (by simp [Move.review?, hb])
  have horder :
      Throttle.InOrder (reviewed (List.replicate n (.append a now) ++ [.append b now])) := by
    rw [hall]
    refine List.pairwise_append.mpr ⟨?_, List.pairwise_singleton .., ?_⟩
    · exact List.pairwise_replicate.mpr (Or.inr (Nat.le_refl _))
    · intro step hstep last hlast
      rw [List.eq_of_mem_replicate hstep, List.mem_singleton.mp hlast]
      exact Nat.le_refl _
  have hiff := (append_iff_seen_lt hmax courier identity rules horder).1
  rw [hiff, hstorm]
  have hseen : Throttle.seen (List.replicate n (.see x (minuteOf now))) (Fingerprint.ofError y)
      (minuteOf now) = if Fingerprint.ofError x = Fingerprint.ofError y then n else 0 := by
    simp [Throttle.seen, List.countP_replicate, Throttle.Step.isOf]
  constructor
  · intro h heq
    have hlt := h y hb
    rw [hseen, if_pos heq] at hlt
    omega
  · intro hne error herror
    cases Option.some.inj (hb.symm.trans herror)
    rwa [hseen, if_neg hne]

end Pipeline

namespace TraceRecord

/-- The fingerprints of two captured errors are made of the same things exactly if both have
causes, or neither has and they come from the same place. After a storm of the one, the other is let
in if the fingerprints differ, and only then. -/
theorem same_traits_iff {r₁ r₂ : TraceRecord} {least₁ least₂ : Level} {thread₁ thread₂ : String}
    {time₁ time₂ : UInt64} {e₁ e₂ : Event} {x₁ x₂ : ErrorChain}
    (h₁ : r₁.capture? least₁ thread₁ time₁ = some e₁)
    (h₂ : r₂.capture? least₂ thread₂ time₂ = some e₂)
    (hx₁ : e₁.error = some x₁) (hx₂ : e₂.error = some x₂) :
    (x₁.innermost.traits = x₂.innermost.traits ↔
      (x₁.causes ≠ [] ∧ x₂.causes ≠ []) ∨
        (x₁.causes = [] ∧ x₂.causes = [] ∧ r₁.origin = r₂.origin)) ∧
    (Fingerprint.input x₁ = Fingerprint.input x₂ ↔
      x₁.innermost.traits = x₂.innermost.traits) ∧
    ∀ (s : Settings) (courier : Courier) (identity : IdentitySource) (rules : RuleBook)
      (now n : Nat), 0 < s.maxDuplicates → s.maxDuplicates < Counter.countMax →
      s.maxDuplicates ≤ n →
      let p := (List.replicate n (.append e₁ now)).foldl Pipeline.next
        (.start s courier identity rules)
      ((p.append e₂ now).2 = true ↔ Fingerprint.ofError x₁ ≠ Fingerprint.ofError x₂) := by
  obtain rfl : r₁.event thread₁ time₁ = e₁ :=
    Option.some.inj (Option.ite_none_right_eq_some.mp h₁).2
  obtain rfl : r₂.event thread₂ time₂ = e₂ :=
    Option.some.inj (Option.ite_none_right_eq_some.mp h₂).2
  have ht₁ := traits_of_captured hx₁
  have ht₂ := traits_of_captured hx₂
  refine ⟨?_, ?_, ?_⟩
  · rw [ht₁, ht₂]
    by_cases hc₁ : x₁.causes = [] <;> by_cases hc₂ : x₂.causes = [] <;> simp [hc₁, hc₂]
  · exact Fingerprint.input_eq_iff
  · intro s courier identity rules now n hpos hmax hn
    exact Pipeline.append_after_storm hpos hmax courier identity rules hx₁ hx₂ now hn

def failure (module : String) (causes : List String) : TraceRecord where
  level := .error
  target := "app"
  module := some module
  fields := [⟨"error", .error "failed" causes⟩]

theorem modules_told_apart :
    let r₁ := failure "app::orders" []
    let r₂ := failure "app::users" []
    let x₁ := r₁.placed (.ofMessages "failed" [])
    let x₂ := r₂.placed (.ofMessages "failed" [])
    (∃ e₁ e₂, r₁.capture? .info "main" 1 = some e₁ ∧ r₂.capture? .info "main" 1 = some e₂ ∧
      e₁.error = some x₁ ∧ e₂.error = some x₂) ∧
    x₁.innermost.traits ≠ x₂.innermost.traits := by
  intro r₁ r₂ x₁ x₂
  have h₁ : r₁.capture? .info "main" 1 = some (r₁.event "main" 1) := if_pos (by decide)
  have h₂ : r₂.capture? .info "main" 1 = some (r₂.event "main" 1) := if_pos (by decide)
  have hx₁ : (r₁.event "main" 1).error = some x₁ := rfl
  have hx₂ : (r₂.event "main" 1).error = some x₂ := rfl
  refine ⟨⟨_, _, h₁, h₂, hx₁, hx₂⟩, ?_⟩
  rw [Ne, (same_traits_iff h₁ h₂ hx₁ hx₂).1]
  decide

/-- With one cause each, errors of two modules have the same traits. -/
theorem modules_not_told_apart :
    ¬ ∀ (r₁ r₂ : TraceRecord) (least : Level) (thread : String) (time : UInt64) (e₁ e₂ : Event)
      (x₁ x₂ : ErrorChain), r₁.capture? least thread time = some e₁ →
      r₂.capture? least thread time = some e₂ → e₁.error = some x₁ → e₂.error = some x₂ →
      r₁.module ≠ r₂.module → x₁.innermost.traits ≠ x₂.innermost.traits := by
  intro h
  let r₁ := failure "app::orders" ["connection refused"]
  let r₂ := failure "app::users" ["disk full"]
  have h₁ : r₁.capture? .info "main" 1 = some (r₁.event "main" 1) := if_pos (by decide)
  have h₂ : r₂.capture? .info "main" 1 = some (r₂.event "main" 1) := if_pos (by decide)
  exact h r₁ r₂ .info "main" 1 _ _ _ _ h₁ h₂ rfl rfl (by decide) rfl

end TraceRecord
end LogDelivery
