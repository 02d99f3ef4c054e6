import Mathlib

/-!
# Segments of a signal

A signal is a function of the place. `segment f i n` lists `n` items of it from
the place `i` on.

* `segment_add`: two segments that meet are one.
* `take_segment`, `drop_segment`: what is left of a segment.
* `segment_padded`: the segments of a signal that starts later.
-/

namespace Corstone.Lib

variable {α β : Type*}

/-- The `n` items of `f` from the place `i` on. -/
@[irreducible] def segment (f : ℕ → α) (i n : ℕ) : List α := (List.range n).map fun j => f (i + j)

section Segment

variable (f : ℕ → α) (i : ℕ)

@[simp] theorem length_segment (n : ℕ) : (segment f i n).length = n := by simp [segment]

@[simp] theorem segment_zero : segment f i 0 = [] := by simp [segment]

theorem getElem?_segment {n j : ℕ} (h : j < n) : (segment f i n)[j]? = some (f (i + j)) := by
  simp [segment, h]

/-- Two segments that meet. -/
theorem segment_add (m n : ℕ) : segment f i (m + n) = segment f i m ++ segment f (i + m) n := by
  unfold segment
  rw [List.range_add, List.map_append, List.map_map]
  congr 1
  apply List.map_congr_left
  intro j _
  show f (i + (m + j)) = f (i + m + j)
  rw [Nat.add_assoc]

theorem take_segment {m n : ℕ} (h : m ≤ n) : (segment f i n).take m = segment f i m := by
  obtain ⟨r, rfl⟩ := Nat.exists_eq_add_of_le h
  rw [segment_add]
  exact List.take_left' (length_segment f i m)

theorem drop_segment {m n : ℕ} (h : m ≤ n) :
    (segment f i n).drop m = segment f (i + m) (n - m) := by
  obtain ⟨r, rfl⟩ := Nat.exists_eq_add_of_le h
  rw [segment_add, Nat.add_sub_cancel_left]
  exact List.drop_left' (length_segment f i m)

/-- Segments with the same items. -/
theorem segment_congr {g : ℕ → α} {k n : ℕ} (h : ∀ j < n, f (i + j) = g (k + j)) :
    segment f i n = segment g k n := by
  unfold segment
  apply List.map_congr_left
  intro j hj
  exact h j (List.mem_range.mp hj)

end Segment

/-- The signal `f` behind `n` items `x`. -/
def padded (n : ℕ) (x : α) (f : ℕ → α) (i : ℕ) : α := if i < n then x else f (i - n)

theorem segment_padded_start (n : ℕ) (x : α) (f : ℕ → α) :
    segment (padded n x f) 0 n = List.replicate n x := by
  apply List.eq_replicate_iff.mpr
  constructor
  · exact length_segment _ _ _
  · intro y hy
    rw [segment] at hy
    obtain ⟨j, hj, rfl⟩ := List.mem_map.mp hy
    rw [padded, if_pos]
    have hj' := List.mem_range.mp hj
    omega

theorem segment_padded (n : ℕ) (x : α) (f : ℕ → α) (i m : ℕ) :
    segment (padded n x f) (n + i) m = segment f i m := by
  apply segment_congr
  intro j _
  rw [padded, if_neg (by omega)]
  congr 1
  omega

end Corstone.Lib
