import Corstone.Lib.Memory

/-!
# A heap of blocks

The blocks of a heap are found by their addresses, and an address is never used
twice. To free a block that is not live, and to leave one with a read or a
write, has no result.

* `Extends`: the live blocks beside those of another heap.
* `Extends.malloc`, `Extends.free`: an allocation adds one, a free removes it.
* `extends_nil_iff`: none is left iff the blocks are those of before.
-/

namespace Corstone.Lib

/-- The contents of the live blocks. No block is live from `next` on. -/
structure Heap (α : Type) where
  block : ℕ → Option (List α)
  next : ℕ
  fresh : ∀ a, next ≤ a → block a = none

namespace Heap

variable {α : Type}

/-- A new block at `h.next`. -/
def malloc (h : Heap α) (xs : List α) : Heap α where
  block := Function.update h.block h.next (some xs)
  next := h.next + 1
  fresh a ha := by
    rw [Function.update_of_ne (by omega)]
    exact h.fresh a (by omega)

/-- The heap with other contents of a live block, or without it. -/
def set (h : Heap α) (a : ℕ) (hlive : (h.block a).isSome) (xs : Option (List α)) : Heap α where
  block := Function.update h.block a xs
  next := h.next
  fresh b hb := by
    have hne : b ≠ a := by
      rintro rfl
      rw [h.fresh b hb] at hlive
      exact Bool.false_ne_true hlive
    rw [Function.update_of_ne hne]
    exact h.fresh b hb

def free (h : Heap α) (a : ℕ) : Option (Heap α) :=
  if hlive : (h.block a).isSome then some (h.set a hlive none) else none

/-- Frees the block of a pointer that is not null. -/
def freePointer (h : Heap α) : Option ℕ → Option (Heap α)
  | none => some h
  | some a => h.free a

/-- Overwrites the cells of a block from `i` on. -/
def store (h : Heap α) (a i : ℕ) (xs : List α) : Option (Heap α) :=
  if hlive : (h.block a).isSome then
    (Memory.write ⟨(h.block a).get hlive, rfl⟩ i xs).map fun m => h.set a hlive (some m.cells)
  else none

/-- The `n` cells of a block from `i` on. -/
def load (h : Heap α) (a i n : ℕ) : Option (List α) :=
  (h.block a).bind fun block => (⟨block, rfl⟩ : Memory α block.length).read i n

variable (h : Heap α)

@[simp] theorem block_next : h.block h.next = none := h.fresh h.next le_rfl

@[simp] theorem block_malloc (xs : List α) : (h.malloc xs).block h.next = some xs :=
  Function.update_self ..

theorem block_malloc_of_live {a : ℕ} {ys : List α} (ha : h.block a = some ys) (xs : List α) :
    (h.malloc xs).block a = some ys := by
  have hne : a ≠ h.next := by
    rintro rfl
    rw [block_next] at ha
    exact absurd ha.symm (Option.some_ne_none ys)
  rw [← ha]
  exact Function.update_of_ne hne ..

/-- A live block can be freed. -/
theorem exists_free {a : ℕ} (ha : (h.block a).isSome) :
    ∃ h', h.free a = some h' ∧ h'.block = Function.update h.block a none :=
  ⟨_, dif_pos ha, rfl⟩

/-- A write inside a live block. -/
theorem exists_store {a : ℕ} {block : List α} (i : ℕ) (xs : List α) (ha : h.block a = some block)
    (hin : i + xs.length ≤ block.length) :
    ∃ h', h.store a i xs = some h' ∧ h'.block = Function.update h.block a
      (some (block.take i ++ xs ++ block.drop (i + xs.length))) := by
  have hlive : (h.block a).isSome := by rw [ha]; rfl
  have hget : (h.block a).get hlive = block := Option.get_of_eq_some hlive ha
  obtain ⟨m, hm, hcells⟩ :=
    Memory.exists_write ⟨(h.block a).get hlive, rfl⟩ i xs (by rw [hget]; exact hin)
  refine ⟨h.set a hlive (some m.cells), ?_, ?_⟩
  · rw [store, dif_pos hlive, hm]
    rfl
  · rw [hcells]
    show Function.update h.block a (some ((_ : List α).take i ++ xs ++ _)) = _
    rw [hget]

/-- A write over a whole block. -/
theorem exists_store_all {a : ℕ} {block : List α} (xs : List α) (ha : h.block a = some block)
    (hlength : xs.length = block.length) :
    ∃ h', h.store a 0 xs = some h' ∧ h'.block = Function.update h.block a (some xs) := by
  obtain ⟨h', hstore, hblock⟩ := h.exists_store 0 xs ha (by omega)
  refine ⟨h', hstore, ?_⟩
  rw [hblock, List.take_zero, List.nil_append, List.drop_of_length_le (by omega),
    List.append_nil]

theorem store_eq_none {a : ℕ} {block : List α} {i : ℕ} {xs : List α} (ha : h.block a = some block)
    (hout : ¬ i + xs.length ≤ block.length) : h.store a i xs = none := by
  have hlive : (h.block a).isSome := by rw [ha]; rfl
  have hget : (h.block a).get hlive = block := Option.get_of_eq_some hlive ha
  rw [store, dif_pos hlive, Memory.write_eq_none _ (by rwa [hget])]
  rfl

/-- A read inside a live block. -/
theorem load_eq_some {a : ℕ} {block : List α} {i n : ℕ} (ha : h.block a = some block)
    (hin : i + n ≤ block.length) : h.load a i n = some ((block.drop i).take n) := by
  rw [load, ha, Option.bind_some, Memory.read_eq_some _ hin]

theorem load_eq_none {a : ℕ} {block : List α} {i n : ℕ} (ha : h.block a = some block)
    (hout : ¬ i + n ≤ block.length) : h.load a i n = none := by
  rw [load, ha, Option.bind_some, Memory.read, if_neg hout]

/-- `h` has the blocks of `h₀`, and those at the addresses `live` beside them. -/
structure Extends (h₀ : Heap α) (live : List ℕ) (h : Heap α) : Prop where
  nodup : live.Nodup
  new : ∀ a ∈ live, h₀.block a = none
  isSome : ∀ a ∈ live, (h.block a).isSome
  same : ∀ a ∉ live, h.block a = h₀.block a

variable {h} {h₀ : Heap α} {live : List ℕ}

theorem Extends.refl : h.Extends [] h := ⟨List.nodup_nil, by simp, by simp, fun _ _ => rfl⟩

/-- No block is left beside those of before. -/
theorem extends_nil_iff : h₀.Extends [] h ↔ h.block = h₀.block := by
  constructor
  · intro hext
    funext a
    exact hext.same a List.not_mem_nil
  · intro hblock
    exact ⟨List.nodup_nil, by simp, by simp, fun a _ => congrFun hblock a⟩

/-- Other contents of the blocks. -/
theorem Extends.congr (hext : h₀.Extends live h) (h' : Heap α)
    (hblock : h'.block = h.block) : h₀.Extends live h' := by
  refine ⟨hext.nodup, hext.new, ?_, ?_⟩
  · intro a ha
    rw [hblock]
    exact hext.isSome a ha
  · intro a ha
    rw [hblock]
    exact hext.same a ha

theorem Extends.perm {live' : List ℕ} (hext : h₀.Extends live h) (hperm : live.Perm live') :
    h₀.Extends live' h :=
  ⟨hperm.nodup hext.nodup, fun a ha => hext.new a (hperm.mem_iff.mpr ha),
    fun a ha => hext.isSome a (hperm.mem_iff.mpr ha),
    fun a ha => hext.same a fun hmem => ha (hperm.mem_iff.mp hmem)⟩

theorem Extends.malloc (hext : h₀.Extends live h) (xs : List α) :
    h₀.Extends (h.next :: live) (h.malloc xs) := by
  have hnext : h.next ∉ live := by
    intro hmem
    have := hext.isSome _ hmem
    rw [block_next] at this
    exact Bool.false_ne_true this
  refine ⟨List.nodup_cons.mpr ⟨hnext, hext.nodup⟩, ?_, ?_, ?_⟩
  · intro a ha
    rcases List.mem_cons.mp ha with rfl | ha
    · rw [← hext.same _ hnext, block_next]
    · exact hext.new a ha
  · intro a ha
    rcases List.mem_cons.mp ha with rfl | ha
    · rw [block_malloc]
      rfl
    · obtain ⟨xs', hxs'⟩ := Option.isSome_iff_exists.mp (hext.isSome a ha)
      rw [block_malloc_of_live _ hxs']
      rfl
  · intro a ha
    rw [List.mem_cons, not_or] at ha
    obtain ⟨hne, ha⟩ := ha
    rw [← hext.same a ha]
    exact Function.update_of_ne hne ..

/-- A new block, and what it holds in the end. -/
theorem Extends.add {h' : Heap α} {xs : List α} (hext : h₀.Extends live h)
    (hblock : h'.block = Function.update h.block h.next (some xs)) :
    h₀.Extends (h.next :: live) h' := (hext.malloc xs).congr h' hblock

/-- A write leaves the blocks live, and changes no other. -/
theorem Extends.update {h' : Heap α} {a : ℕ} {xs : List α} (hext : h₀.Extends live h)
    (ha : a ∈ live) (hblock : h'.block = Function.update h.block a (some xs)) :
    h₀.Extends live h' := by
  refine ⟨hext.nodup, hext.new, ?_, ?_⟩
  · intro b hb
    rw [hblock]
    by_cases hba : b = a
    · subst hba
      rw [Function.update_self]
      rfl
    · rw [Function.update_of_ne hba]
      exact hext.isSome b hb
  · intro b hb
    have hba : b ≠ a := by
      rintro rfl
      exact hb ha
    rw [hblock, Function.update_of_ne hba]
    exact hext.same b hb

/-- A free of a live block removes it. -/
theorem Extends.free {a : ℕ} (hext : h₀.Extends live h) (ha : a ∈ live) :
    ∃ h', h.free a = some h' ∧ h'.block = Function.update h.block a none ∧
      h₀.Extends (live.erase a) h' := by
  obtain ⟨h', hfree, hblock⟩ := h.exists_free (hext.isSome a ha)
  refine ⟨h', hfree, hblock, hext.nodup.erase a, ?_, ?_, ?_⟩
  · intro b hb
    exact hext.new b (List.mem_of_mem_erase hb)
  · intro b hb
    obtain ⟨hne, hb⟩ := hext.nodup.mem_erase_iff.mp hb
    rw [hblock, Function.update_of_ne hne]
    exact hext.isSome b hb
  · intro b hb
    rw [hblock]
    by_cases hba : b = a
    · subst hba
      rw [Function.update_self, hext.new b ha]
    · rw [Function.update_of_ne hba]
      apply hext.same
      intro hmem
      exact hb (hext.nodup.mem_erase_iff.mpr ⟨hba, hmem⟩)

/-- The block of a pointer goes, if there is one. -/
theorem Extends.freePointer {p : Option ℕ} (hext : h₀.Extends (p.toList ++ live) h) :
    ∃ h', h.freePointer p = some h' ∧ h₀.Extends live h' ∧
      ∀ a, p ≠ some a → h'.block a = h.block a := by
  cases p with
  | none => exact ⟨h, rfl, hext, fun _ _ => rfl⟩
  | some a =>
    obtain ⟨h', hfree, hblock, hext'⟩ := hext.free (List.mem_cons_self ..)
    refine ⟨h', hfree, ?_, ?_⟩
    · rwa [Option.toList_some, List.singleton_append, List.erase_cons_head] at hext'
    · intro b hb
      have hne : b ≠ a := by
        rintro rfl
        exact hb rfl
      rw [hblock, Function.update_of_ne hne]

/-- What a block holds that is none of the new ones. -/
theorem Extends.block_of_live {a : ℕ} {xs : List α} (hext : h₀.Extends live h)
    (ha : h₀.block a = some xs) : h.block a = some xs := by
  rw [hext.same, ha]
  intro hmem
  rw [hext.new a hmem] at ha
  exact absurd ha.symm (Option.some_ne_none xs)

/-- The new blocks of two parts of a run, one after the other. -/
theorem Extends.trans {h' : Heap α} {live' : List ℕ} (hext : h₀.Extends live h)
    (hext' : h.Extends live' h') : h₀.Extends (live' ++ live) h' := by
  have hdisjoint : ∀ a ∈ live', a ∉ live := by
    intro a ha hmem
    have := hext.isSome a hmem
    rw [hext'.new a ha] at this
    exact Bool.false_ne_true this
  refine ⟨?_, ?_, ?_, ?_⟩
  · exact List.nodup_append'.mpr ⟨hext'.nodup, hext.nodup, fun a ha hmem => hdisjoint a ha hmem⟩
  · intro a ha
    rcases List.mem_append.mp ha with ha | ha
    · rw [← hext.same a (hdisjoint a ha)]
      exact hext'.new a ha
    · exact hext.new a ha
  · intro a ha
    rcases List.mem_append.mp ha with ha | ha
    · exact hext'.isSome a ha
    · obtain ⟨xs, hxs⟩ := Option.isSome_iff_exists.mp (hext.isSome a ha)
      rw [hext'.block_of_live hxs]
      rfl
  · intro a ha
    rw [List.mem_append, not_or] at ha
    rw [hext'.same a ha.1, hext.same a ha.2]

end Heap

end Corstone.Lib
