/-!
# Bounded buffers

A first-in, first-out buffer that drops its oldest item when a new one does not fit. It never refuses an
item at its end; at its front it only takes one back if there is room.
-/
namespace LogDelivery

structure Buffer (α : Type u) where
  items : List α
  capacity : Nat
  evicted : Nat
  capacity_pos : 0 < capacity
  length_le : items.length ≤ capacity

namespace Buffer

variable {α : Type u}

/-- An empty buffer. A capacity of zero counts as one. -/
def withCapacity (capacity : Nat) : Buffer α := ⟨[], max capacity 1, 0, by omega, Nat.zero_le _⟩

def size (b : Buffer α) : Nat := b.items.length

def isEmpty (b : Buffer α) : Bool := b.items.isEmpty

def isFull (b : Buffer α) : Bool := b.capacity ≤ b.items.length

/-- Adds an item at the end. The answer is whether this has cost the oldest one. -/
def offer (b : Buffer α) (a : α) : Buffer α × Bool :=
  if h : b.items.length < b.capacity then
    ({ b with
       items := b.items ++ [a]
       length_le := by rw [List.length_append]; exact h }, false)
  else
    ({ b with
       items := b.items.tail ++ [a]
       evicted := b.evicted + 1
       length_le := by
         have hl := b.length_le
         have hp := b.capacity_pos
         rw [List.length_append, List.length_tail, List.length_singleton]
         omega }, true)

def takeFront (b : Buffer α) (n : Nat) : List α × Buffer α :=
  (b.items.take n,
   { b with items := b.items.drop n, length_le := by have := b.length_le; simp; omega })

def popFront? (b : Buffer α) : Option (α × Buffer α) :=
  b.items.head?.map fun a => (a, (b.takeFront 1).2)

/-- Puts an item back in front. The answer is whether there was room; if not, the item is lost. -/
def putBack (b : Buffer α) (a : α) : Buffer α × Bool :=
  if h : b.items.length < b.capacity then
    ({ b with items := a :: b.items, length_le := h }, true)
  else ({ b with evicted := b.evicted + 1 }, false)

end Buffer
end LogDelivery
