import LogDelivery.Buffer

/-!
# Laws of bounded buffers

What the operations do to the items of a buffer. They do not look at the items, so they commute with
relabelling: a buffer of labelled items goes the same way as the buffer without the labels.
-/
namespace LogDelivery.Buffer

universe u v
variable {α : Type u} {β : Type v}

theorem eq_of_fields {b c : Buffer α} (hi : b.items = c.items) (hc : b.capacity = c.capacity)
    (he : b.evicted = c.evicted) : b = c := by
  cases b
  cases c
  simp_all

@[simp] theorem items_withCapacity (n : Nat) : (withCapacity n : Buffer α).items = [] := rfl

theorem isFull_iff {b : Buffer α} : b.isFull = true ↔ b.capacity ≤ b.items.length := by
  simp [isFull]

theorem isEmpty_iff {b : Buffer α} : b.isEmpty = true ↔ b.items = [] := by
  simp [isEmpty]

theorem ne_nil_of_isFull {b : Buffer α} (h : b.isFull = true) : b.items ≠ [] := by
  intro he
  have hf := isFull_iff.mp h
  have hp := b.capacity_pos
  rw [he] at hf
  exact absurd hf (by simp; omega)

theorem length_of_isFull {b : Buffer α} (h : b.isFull = true) : b.items.length = b.capacity :=
  Nat.le_antisymm b.length_le (isFull_iff.mp h)

theorem items_offer_of_room {b : Buffer α} (h : b.isFull = false) (a : α) :
    (b.offer a).1.items = b.items ++ [a] := by
  have hl : b.items.length < b.capacity := by simpa [isFull] using h
  simp [offer, hl]

theorem items_offer_of_full {b : Buffer α} (h : b.isFull = true) (a : α) :
    (b.offer a).1.items = b.items.tail ++ [a] := by
  have hl : ¬ b.items.length < b.capacity := by simpa [isFull] using h
  simp [offer, hl]

@[simp] theorem capacity_offer (b : Buffer α) (a : α) : (b.offer a).1.capacity = b.capacity := by
  unfold offer
  split <;> rfl

theorem evicted_offer (b : Buffer α) (a : α) :
    (b.offer a).1.evicted = b.evicted + if b.isFull then 1 else 0 := by
  unfold offer
  split
  · next h => simp [isFull, Nat.not_le.mpr h]
  · next h => simp [isFull, Nat.not_lt.mp h]

/-- An offer costs an item exactly if the buffer was full. -/
@[simp] theorem offer_snd (b : Buffer α) (a : α) : (b.offer a).2 = b.isFull := by
  unfold offer
  split
  · next h => simpa [isFull] using h
  · next h => simpa [isFull] using h

def offerAll (b : Buffer α) (as : List α) : Buffer α := as.foldl (fun b a => (b.offer a).1) b

theorem offerAll_cons (b : Buffer α) (a : α) (as : List α) :
    b.offerAll (a :: as) = (b.offer a).1.offerAll as := rfl

/-- After several offers, what does not fit is missing at the front. -/
theorem items_offerAll (b : Buffer α) (as : List α) :
    (b.offerAll as).items =
      (b.items ++ as).drop (b.items.length + as.length - b.capacity) := by
  induction as generalizing b with
  | nil => simp [offerAll, Nat.sub_eq_zero_of_le b.length_le]
  | cons a as ih =>
    rw [offerAll_cons, ih, capacity_offer]
    cases hf : b.isFull with
    | false =>
      have hlength : (b.items ++ [a]).length + as.length = b.items.length + (a :: as).length := by
        simp only [List.length_append, List.length_cons, List.length_nil]
        omega
      rw [items_offer_of_room hf, hlength, List.append_assoc, List.singleton_append]
    | true =>
      obtain ⟨oldest, rest, hcons⟩ := List.exists_cons_of_ne_nil (ne_nil_of_isFull hf)
      have hfull := length_of_isFull hf
      rw [hcons, List.length_cons] at hfull
      have hlength : (rest ++ [a]).length + as.length - b.capacity = as.length := by
        simp only [List.length_append, List.length_cons, List.length_nil]
        omega
      have hlost : (oldest :: rest).length + (a :: as).length - b.capacity = as.length + 1 := by
        simp only [List.length_cons]
        omega
      rw [items_offer_of_full hf, hcons, List.tail_cons, hlength, hlost, List.cons_append,
        List.drop_succ_cons, List.append_assoc, List.singleton_append]

theorem evicted_offerAll (b : Buffer α) (as : List α) :
    (b.offerAll as).evicted = b.evicted + (b.items.length + as.length - b.capacity) := by
  induction as generalizing b with
  | nil => simp [offerAll, Nat.sub_eq_zero_of_le b.length_le]
  | cons a as ih =>
    rw [offerAll_cons, ih, capacity_offer, evicted_offer]
    cases hf : b.isFull with
    | false =>
      have hlength := congrArg List.length (items_offer_of_room hf a)
      simp only [List.length_append, List.length_cons, List.length_nil] at hlength ⊢
      rw [hlength, if_neg Bool.false_ne_true]
      omega
    | true =>
      have hlength := congrArg List.length (items_offer_of_full hf a)
      have hfull := length_of_isFull hf
      have hpos := b.capacity_pos
      simp only [List.length_append, List.length_tail, List.length_cons, List.length_nil]
        at hlength ⊢
      rw [hlength, if_pos trivial]
      omega

theorem capacity_offerAll (b : Buffer α) (as : List α) :
    (b.offerAll as).capacity = b.capacity := by
  induction as generalizing b with
  | nil => rfl
  | cons a as ih => rw [offerAll_cons, ih, capacity_offer]

theorem popFront?_eq_none_iff {b : Buffer α} : b.popFront? = none ↔ b.items = [] := by
  simp [popFront?]

theorem popFront?_eq_some {b c : Buffer α} {a : α} (h : b.popFront? = some (a, c)) :
    b.items = a :: c.items ∧ c.capacity = b.capacity := by
  cases hb : b.items with
  | nil => simp [popFront?, hb] at h
  | cons x xs =>
    simp only [popFront?, hb, List.head?_cons, Option.map_some, Option.some.injEq,
      Prod.mk.injEq] at h
    obtain ⟨rfl, rfl⟩ := h
    exact ⟨by simp [takeFront, hb], rfl⟩

theorem evicted_of_popFront? {b c : Buffer α} {a : α} (h : b.popFront? = some (a, c)) :
    c.evicted = b.evicted := by
  obtain ⟨x, -, hx⟩ := Option.map_eq_some_iff.mp h
  exact congrArg (Buffer.evicted ∘ Prod.snd) hx.symm

theorem room_of_popFront? {b c : Buffer α} {a : α} (h : b.popFront? = some (a, c)) :
    c.isFull = false := by
  obtain ⟨hi, hc⟩ := popFront?_eq_some h
  have hl := b.length_le
  rw [hi, List.length_cons] at hl
  simp only [isFull, decide_eq_false_iff_not, Nat.not_le]
  omega

theorem items_putBack_of_room {b : Buffer α} (h : b.isFull = false) (a : α) :
    (b.putBack a).1.items = a :: b.items := by
  have hl : b.items.length < b.capacity := by simpa [isFull] using h
  simp [putBack, hl]

theorem items_putBack_of_full {b : Buffer α} (h : b.isFull = true) (a : α) :
    (b.putBack a).1.items = b.items := by
  have hl : ¬ b.items.length < b.capacity := by simpa [isFull] using h
  simp [putBack, hl]

@[simp] theorem capacity_putBack (b : Buffer α) (a : α) : (b.putBack a).1.capacity = b.capacity := by
  unfold putBack
  split <;> rfl

theorem evicted_putBack (b : Buffer α) (a : α) :
    (b.putBack a).1.evicted = b.evicted + if b.isFull then 1 else 0 := by
  unfold putBack
  split
  · next h => simp [isFull, Nat.not_le.mpr h]
  · next h => simp [isFull, Nat.not_lt.mp h]

@[simp] theorem putBack_snd (b : Buffer α) (a : α) : (b.putBack a).2 = !b.isFull := by
  unfold putBack
  split
  · next h => simpa [isFull] using h
  · next h => simpa [isFull] using h

def map (f : α → β) (b : Buffer α) : Buffer β where
  items := b.items.map f
  capacity := b.capacity
  evicted := b.evicted
  capacity_pos := b.capacity_pos
  length_le := by simpa using b.length_le

@[simp] theorem items_map (f : α → β) (b : Buffer α) : (b.map f).items = b.items.map f := rfl

@[simp] theorem capacity_map (f : α → β) (b : Buffer α) : (b.map f).capacity = b.capacity := rfl

@[simp] theorem isFull_map (f : α → β) (b : Buffer α) : (b.map f).isFull = b.isFull := by
  simp [isFull]

@[simp] theorem isEmpty_map (f : α → β) (b : Buffer α) : (b.map f).isEmpty = b.isEmpty := by
  simp [isEmpty]

theorem map_offer (f : α → β) (b : Buffer α) (a : α) :
    (b.offer a).1.map f = ((b.map f).offer (f a)).1 := by
  apply eq_of_fields
  · cases h : b.isFull with
    | true => simp [items_offer_of_full, h, List.map_tail]
    | false => simp [items_offer_of_room, h]
  · simp
  · simp only [evicted_offer, isFull_map]
    exact evicted_offer b a

theorem map_putBack (f : α → β) (b : Buffer α) (a : α) :
    (b.putBack a).1.map f = ((b.map f).putBack (f a)).1 := by
  unfold putBack
  by_cases h : b.items.length < b.capacity
  · simp [h, map]
  · simp [h, map]

theorem popFront?_map (f : α → β) (b : Buffer α) :
    (b.map f).popFront? = b.popFront?.map fun x => (f x.1, x.2.map f) := by
  cases hb : b.items with
  | nil => simp [popFront?, hb]
  | cons x xs => simp [popFront?, hb, takeFront, map]

end LogDelivery.Buffer
