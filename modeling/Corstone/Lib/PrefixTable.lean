import Mathlib

/-!
# Tables that are searched by prefix

A table of keys with their values is searched for the first key that the memory
at an address starts with. The string that is there may be shorter or longer
than the keys.

* `lookup_spec`, `exists_lookup`: the key that is found.
* `lookup_exact_iff`: in a table whose keys are no prefixes of each other, the
  search finds exactly the key that equals the string, provided that the key found
  is not longer than the string, iff no key is a proper prefix of the string.
-/

namespace Corstone.Lib

variable {α β : Type*}

/-- The first `n` items of a memory. -/
def items (mem : ℕ → α) (n : ℕ) : List α := (List.range n).map mem

@[simp] theorem length_items (mem : ℕ → α) (n : ℕ) : (items mem n).length = n := by
  rw [items, List.length_map, List.length_range]

theorem getElem?_items (mem : ℕ → α) {i n : ℕ} (h : i < n) : (items mem n)[i]? = some (mem i) := by
  rw [items, List.getElem?_map, List.getElem?_range h]
  rfl

theorem take_items (mem : ℕ → α) {m n : ℕ} (h : m ≤ n) :
    (items mem n).take m = items mem m := by
  rw [items, ← List.map_take, List.take_range, Nat.min_eq_left h]
  rfl

/-- A string starts with a key. -/
theorem prefix_items_iff (mem : ℕ → α) {key : List α} {n : ℕ} :
    key <+: items mem n ↔ key.length ≤ n ∧ items mem key.length = key := by
  constructor
  · intro h
    have hle : key.length ≤ n := by simpa using h.length_le
    exact ⟨hle, (take_items mem hle).symm.trans (List.prefix_iff_eq_take.mp h).symm⟩
  · rintro ⟨hle, hkey⟩
    rw [List.prefix_iff_eq_take, take_items mem hle, hkey]

/-- No key is a prefix of another. -/
def PrefixFree (table : List (List α × β)) : Prop :=
  ∀ a ∈ table, ∀ b ∈ table, a.1 <+: b.1 → a = b

variable [DecidableEq α]

/-- The value of the first key that the memory starts with. -/
def lookup (mem : ℕ → α) : List (List α × β) → Option β
  | [] => none
  | (key, value) :: rest => if items mem key.length = key then some value else lookup mem rest

/-- The keys that the search compares with the memory. -/
def compared (mem : ℕ → α) : List (List α × β) → List (List α)
  | [] => []
  | (key, _) :: rest =>
    if items mem key.length = key then [key] else key :: compared mem rest

section Lookup

variable {mem : ℕ → α} {table : List (List α × β)} {key : List α} {value : β} {n : ℕ}

theorem lookup_eq_find? (mem : ℕ → α) (table : List (List α × β)) :
    lookup mem table = (table.find? fun c => items mem c.1.length = c.1).map Prod.snd := by
  induction table with
  | nil => rfl
  | cons entry rest ih =>
    obtain ⟨key, value⟩ := entry
    unfold lookup
    split_ifs with hkey
    · rw [List.find?_cons_of_pos (by simpa using hkey)]
      rfl
    · rw [List.find?_cons_of_neg (by simpa using hkey), ih]

/-- What is found is the value of a key that has been compared and that the memory
    starts with. -/
theorem lookup_spec (h : lookup mem table = some value) :
    ∃ key, (key, value) ∈ table ∧ key ∈ compared mem table ∧ items mem key.length = key := by
  induction table with
  | nil => exact nomatch h
  | cons entry rest ih =>
    obtain ⟨key', value'⟩ := entry
    unfold lookup at h
    unfold compared
    split_ifs at h ⊢ with hkey
    · obtain rfl := Option.some.inj h
      exact ⟨key', List.mem_cons_self, List.mem_cons_self, hkey⟩
    · obtain ⟨key, hmem, hcompared, hkey⟩ := ih h
      exact ⟨key, List.mem_cons_of_mem _ hmem, List.mem_cons_of_mem _ hcompared, hkey⟩

/-- If the memory starts with a key, something is found. -/
theorem exists_lookup (hmem : (key, value) ∈ table) (hkey : items mem key.length = key) :
    ∃ value', lookup mem table = some value' := by
  induction table with
  | nil => exact nomatch hmem
  | cons entry rest ih =>
    obtain ⟨key', value'⟩ := entry
    unfold lookup
    split_ifs with hkey'
    · exact ⟨value', rfl⟩
    · obtain hhead | htail := List.mem_cons.mp hmem
      · obtain ⟨rfl, rfl⟩ := Prod.mk.inj hhead
        exact absurd hkey hkey'
      · exact ih htail

/-- **The search** finds the key that equals the string, and no other, iff no key is
    a proper prefix of the string. -/
theorem lookup_exact_iff (hfree : PrefixFree table)
    (hshort : ∀ key ∈ compared mem table, items mem key.length = key → key.length ≤ n) :
    (∀ value, lookup mem table = some value ↔ (items mem n, value) ∈ table) ↔
      ∀ a ∈ table, a.1 <+: items mem n → a.1 = items mem n := by
  constructor
  · intro h a ha hprefix
    obtain ⟨value, hvalue⟩ := exists_lookup ha (prefix_items_iff mem |>.mp hprefix).2
    rw [hfree a ha _ ((h value).mp hvalue) hprefix]
  · intro h value
    constructor
    · intro hlookup
      obtain ⟨key, hmem, hcompared, hkey⟩ := lookup_spec hlookup
      have hprefix : key <+: items mem n :=
        prefix_items_iff mem |>.mpr ⟨hshort key hcompared hkey, hkey⟩
      have heq : key = items mem n := h _ hmem hprefix
      rwa [← heq]
    · intro hmem
      have hself : items mem (items mem n).length = items mem n := by rw [length_items]
      obtain ⟨value', hvalue'⟩ := exists_lookup hmem hself
      obtain ⟨key, hmem', hcompared, hkey⟩ := lookup_spec hvalue'
      have hprefix : key <+: items mem n :=
        prefix_items_iff mem |>.mpr ⟨hshort key hcompared hkey, hkey⟩
      obtain ⟨-, rfl⟩ := Prod.mk.inj (hfree _ hmem' _ hmem hprefix)
      exact hvalue'

end Lookup

end Corstone.Lib
