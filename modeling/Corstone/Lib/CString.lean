import Mathlib

/-!
# Byte buffers and C strings

A buffer is the list of its bytes from its address on. Reading behind the end
of the list reads NUL. A `memcpy` of more bytes than the buffer has makes the
list longer, so `(memcpy dst src).length = dst.length` says that the write
stayed inside the buffer (`length_memcpy_eq_iff`).

* `strncmp_eq_zero_iff_prefix`: against a string without NUL, compared over its
  whole length, `strncmp` finds a prefix, not an equal string.
* `cstr_memcpy_eq_iff`: copying a string without its terminator leaves exactly
  this string in the buffer iff the byte behind it was NUL before.
-/

namespace Corstone.Lib

abbrev Bytes := List UInt8

/-- `strncmp(a, b, n)`: the difference at the first place that differs, `0` if
    there is none before the end of both strings or of the first `n` bytes. -/
def strncmp : Bytes → Bytes → ℕ → ℤ
  | _, _, 0 => 0
  | a, b, n + 1 =>
    if a.headD 0 ≠ b.headD 0 then ((a.headD 0).toNat : ℤ) - (b.headD 0).toNat
    else if a.headD 0 = 0 then 0
    else strncmp a.tail b.tail n

/-- The C string at the start of the buffer: the bytes before the first NUL. -/
def cstr (m : Bytes) : Bytes := m.takeWhile fun b => b != 0

/-- `memcpy(dst, src, |src|)`. -/
def memcpy (dst src : Bytes) : Bytes := src ++ dst.drop src.length

theorem toNat_sub_ne_zero {x y : UInt8} (h : x ≠ y) : (x.toNat : ℤ) - y.toNat ≠ 0 := by
  intro h0
  exact h (UInt8.toNat_inj.mp (by omega))

/-- `strncmp` over the whole length of a string `b` without NUL bytes is zero
    iff `b` is a prefix of the other buffer. -/
theorem strncmp_eq_zero_iff_prefix (a : Bytes) {b : Bytes} (hb : 0 ∉ b) :
    strncmp a b b.length = 0 ↔ b <+: a := by
  induction b generalizing a with
  | nil => simp [strncmp]
  | cons y b ih =>
    have hy : y ≠ 0 := fun h => hb (by simp [h])
    have hb' : 0 ∉ b := fun h => hb (List.mem_cons_of_mem _ h)
    rw [List.length_cons, strncmp]
    cases a with
    | nil =>
      have hne : (0 : UInt8) ≠ y := fun h => hy h.symm
      simp only [List.headD_nil, List.headD_cons, ne_eq, hne, not_false_eq_true, ite_true]
      exact ⟨fun h => absurd h (toNat_sub_ne_zero hne), fun h => by simp at h⟩
    | cons x a =>
      simp only [List.headD_cons, List.tail_cons]
      by_cases hxy : x = y
      · subst hxy
        simp only [ne_eq, not_true_eq_false, ite_false, hy]
        rw [ih a hb', List.cons_prefix_cons]
        simp
      · simp only [ne_eq, hxy, not_false_eq_true, ite_true, List.cons_prefix_cons]
        exact ⟨fun h => absurd h (toNat_sub_ne_zero hxy), fun h => absurd h.1.symm hxy⟩

/-- `strncmp` finds no difference to a prefix, whatever its bytes are. -/
theorem strncmp_prefix_eq_zero {a b : Bytes} (h : b <+: a) : strncmp a b b.length = 0 := by
  induction b generalizing a with
  | nil => simp [strncmp]
  | cons y b ih =>
    obtain ⟨rest, rfl⟩ := h
    have hrest := ih (List.prefix_append b rest)
    by_cases hy : y = 0
    · simp [strncmp, hy]
    · simp [strncmp, hy, hrest]

/-- `strncmp` looks at the first `n` bytes only. -/
theorem strncmp_take (a b : Bytes) (n : ℕ) : strncmp a b n = strncmp (a.take n) (b.take n) n := by
  induction n generalizing a b with
  | zero => rfl
  | succ n ih =>
    have hhead (l : Bytes) : (l.take (n + 1)).headD 0 = l.headD 0 := by cases l <;> rfl
    have htail (l : Bytes) : (l.take (n + 1)).tail = l.tail.take n := by cases l <;> simp
    simp only [strncmp, hhead, htail]
    rw [ih a.tail b.tail]

/-- `strncmp` over `n` bytes without NUL is zero iff they are the same. -/
theorem strncmp_eq_zero_iff_take {a b : Bytes} {n : ℕ} (hb : 0 ∉ b.take n)
    (hlength : (b.take n).length = n) : strncmp a b n = 0 ↔ a.take n = b.take n := by
  have hstart := strncmp_eq_zero_iff_prefix (a.take n) hb
  rw [hlength, List.prefix_iff_eq_take, hlength, List.take_take, min_self] at hstart
  rw [strncmp_take, hstart]
  exact eq_comm

theorem strncmp_self (a : Bytes) (n : ℕ) : strncmp a a n = 0 := by
  induction n generalizing a with
  | zero => rfl
  | succ n ih =>
    rw [strncmp, if_neg (not_not.mpr rfl), ih a.tail, ite_self]

/-! ## `memcpy` -/

theorem prefix_memcpy (dst src : Bytes) : src <+: memcpy dst src := List.prefix_append _ _

theorem length_memcpy (dst src : Bytes) :
    (memcpy dst src).length = max dst.length src.length := by
  simp [memcpy]; omega

/-- The write stays inside the buffer iff the source is not longer. -/
theorem length_memcpy_eq_iff (dst src : Bytes) :
    (memcpy dst src).length = dst.length ↔ src.length ≤ dst.length := by
  rw [length_memcpy]; omega

/-- The byte behind a copy is the one that was there before. -/
theorem getElem?_memcpy_length (dst src : Bytes) :
    (memcpy dst src)[src.length]? = dst[src.length]? := by
  rw [memcpy, List.getElem?_append_right (Nat.le_refl _), Nat.sub_self, List.getElem?_drop,
    Nat.add_zero]

/-! ## C strings in a buffer -/

@[simp] theorem cstr_nil : cstr [] = [] := rfl

theorem cstr_zero_cons (m : Bytes) : cstr (0 :: m) = [] := rfl

theorem cstr_append {s : Bytes} (hs : 0 ∉ s) (m : Bytes) : cstr (s ++ m) = s ++ cstr m := by
  unfold cstr
  rw [List.takeWhile_append_of_pos]
  intro b hb
  have hne : b ≠ 0 := fun h => hs (by rw [← h]; exact hb)
  simpa using hne

/-- Strings without NUL that start a buffer start its C string. -/
theorem prefix_cstr_iff (m : Bytes) {s : Bytes} (hs : 0 ∉ s) : s <+: cstr m ↔ s <+: m := by
  constructor
  · intro h
    exact h.trans (List.takeWhile_prefix _)
  · rintro ⟨rest, rfl⟩
    rw [cstr_append hs]
    exact List.prefix_append _ _

theorem cstr_eq_nil_iff (m : Bytes) : cstr m = [] ↔ m.headD 0 = 0 := by
  cases m with
  | nil => simp
  | cons b m => simp [cstr, List.takeWhile_cons]

/-- The C string behind a copied string: exactly the copied one iff the next
    byte of the buffer was already NUL. -/
theorem cstr_memcpy_eq_iff (dst : Bytes) {src : Bytes} (hs : 0 ∉ src) :
    cstr (memcpy dst src) = src ↔ dst.getD src.length 0 = 0 := by
  rw [memcpy, cstr_append hs, List.append_right_eq_self, cstr_eq_nil_iff]
  simp [List.headD_eq_head?_getD, List.head?_drop, List.getD_eq_getElem?_getD]

end Corstone.Lib
