import Mathlib

/-!
# Rings

A stream is written into a ring of `m` cells, item `n` into the cell `n % m`.
`Holds m cells stream n` says that after `n` items the cells hold the last `m`
of them.

* `Holds.put`: the next item keeps it so.
-/

namespace Corstone.Lib.Ring

variable {α : Type*}

/-- The cells after item `n` has been written. -/
def put (m : ℕ) (cells : ℕ → α) (n : ℕ) (item : α) : ℕ → α := Function.update cells (n % m) item

/-- The cells hold the last `m` of the first `n` items of the stream. -/
def Holds (m : ℕ) (cells stream : ℕ → α) (n : ℕ) : Prop :=
  ∀ i < n, n ≤ i + m → cells (i % m) = stream i

theorem holds_zero (m : ℕ) (cells stream : ℕ → α) : Holds m cells stream 0 :=
  fun i hi => absurd hi (Nat.not_lt_zero i)

/-- Less than `m` apart, two items have different cells. -/
theorem mod_ne_mod {m i n : ℕ} (hlt : i < n) (hclose : n < i + m) : i % m ≠ n % m := by
  intro heq
  have hzero : (n - i) % m = 0 := Nat.sub_mod_eq_zero_of_mod_eq heq.symm
  rw [Nat.mod_eq_of_lt (by omega)] at hzero
  omega

theorem Holds.put {m n : ℕ} {cells stream : ℕ → α} (h : Holds m cells stream n) :
    Holds m (put m cells n (stream n)) stream (n + 1) := by
  intro i hi hlast
  unfold Ring.put
  rcases Nat.lt_succ_iff_lt_or_eq.mp hi with hlt | rfl
  · rw [Function.update_of_ne (mod_ne_mod hlt (by omega))]
    exact h i hlt (by omega)
  · exact Function.update_self _ _ _

end Corstone.Lib.Ring
