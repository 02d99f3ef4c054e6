import Mathlib

/-!
# Bounded first-in first-out queues

A queue of at most `cap` items, oldest first; the bound is a field of the
structure. `push` is a send with no waiting time: a full queue stays as it is
and the item is lost.
-/

namespace Corstone.Lib

/-- A queue with room for `cap` items, the oldest item first. -/
structure BoundedQueue (α : Type*) (cap : ℕ) where
  items : List α
  bounded : items.length ≤ cap

namespace BoundedQueue

variable {α : Type*} {cap : ℕ}

/-- The empty queue. -/
def empty : BoundedQueue α cap := ⟨[], Nat.zero_le _⟩

/-- The queue has no room. -/
def Full (q : BoundedQueue α cap) : Prop := cap ≤ q.items.length

instance (q : BoundedQueue α cap) : Decidable q.Full := inferInstanceAs (Decidable (_ ≤ _))

/-- Send without waiting: the item goes to the back, unless the queue is full. -/
def push (q : BoundedQueue α cap) (a : α) : BoundedQueue α cap :=
  if h : q.items.length < cap then ⟨q.items ++ [a], by simp; omega⟩ else q

/-- The items behind the oldest one. -/
def rest (q : BoundedQueue α cap) : BoundedQueue α cap :=
  ⟨q.items.tail, by have := q.bounded; rw [List.length_tail]; omega⟩

@[simp] theorem items_empty : (empty : BoundedQueue α cap).items = [] := rfl

@[simp] theorem items_rest (q : BoundedQueue α cap) : q.rest.items = q.items.tail := rfl

theorem items_push_of_not_full {q : BoundedQueue α cap} (h : ¬ q.Full) (a : α) :
    (q.push a).items = q.items ++ [a] := by
  unfold Full at h
  simp [push, show q.items.length < cap by omega]

theorem push_of_full {q : BoundedQueue α cap} (h : q.Full) (a : α) : q.push a = q := by
  unfold Full at h
  simp [push, show ¬ q.items.length < cap by omega]

/-- What is in the queue after a send was there before or is the sent item. -/
theorem mem_push {q : BoundedQueue α cap} {a b : α} (h : b ∈ (q.push a).items) :
    b ∈ q.items ∨ b = a := by
  by_cases hf : q.Full
  · rw [push_of_full hf] at h
    exact Or.inl h
  · rw [items_push_of_not_full hf] at h
    simpa using h

/-- A send never drops an item that is already there. -/
theorem mem_push_of_mem {q : BoundedQueue α cap} (a : α) {b : α} (h : b ∈ q.items) :
    b ∈ (q.push a).items := by
  by_cases hf : q.Full
  · rwa [push_of_full hf]
  · rw [items_push_of_not_full hf]
    exact List.mem_append_left _ h

theorem mem_push_self {q : BoundedQueue α cap} (h : ¬ q.Full) (a : α) :
    a ∈ (q.push a).items := by
  rw [items_push_of_not_full h]
  simp

end BoundedQueue

end Corstone.Lib
