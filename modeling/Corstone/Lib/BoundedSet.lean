import Mathlib

/-!
# Bounded sets

A set of at most `cap` items; the bound is a field of the structure. `insert`
refuses an item that is not there when the set is full. `removeIf` takes out the
items that meet a property and says whether there were any.

A list without repetitions represents the set of its items (`ofList`); the
lemmas say what the operations do to the list.
-/

namespace Corstone.Lib

/-- A set of at most `cap` items. -/
@[ext] structure BoundedSet (α : Type*) (cap : ℕ) where
  items : Finset α
  bounded : items.card ≤ cap

namespace BoundedSet

variable {α : Type*} [DecidableEq α] {cap : ℕ}

/-- The set of the items of a list. -/
def ofList (l : List α) (h : l.length ≤ cap) : BoundedSet α cap :=
  ⟨l.toFinset, l.toFinset_card_le.trans h⟩

/-- The item is in the set afterwards, unless it is new and the set is full. -/
def insert (s : BoundedSet α cap) (a : α) : BoundedSet α cap × Bool :=
  if a ∈ s.items then (s, true)
  else if h : s.items.card < cap then
    (⟨Insert.insert a s.items, (Finset.card_insert_le a s.items).trans h⟩, true)
  else (s, false)

/-- The set without the items that meet `p`, and whether there were any. -/
def removeIf (s : BoundedSet α cap) (p : α → Bool) : BoundedSet α cap × Bool :=
  (⟨s.items.filter fun a => p a = false, (Finset.card_filter_le _ _).trans s.bounded⟩,
    decide (∃ a ∈ s.items, p a = true))

variable {l l' : List α} {a : α} {h : l.length ≤ cap} {h' : l'.length ≤ cap}

theorem ofList_eq_of_perm (hperm : l'.Perm l) : ofList l' h' = ofList l h :=
  BoundedSet.ext (List.toFinset_eq_of_perm _ _ hperm)

theorem insert_of_mem (ha : a ∈ l) : (ofList l h).insert a = (ofList l h, true) :=
  if_pos (List.mem_toFinset.mpr ha)

/-- A new item when there is room. -/
theorem insert_of_lt (ha : a ∉ l) (hlt : l.length < cap) (hperm : l'.Perm (a :: l)) :
    (ofList l h).insert a = (ofList l' h', true) := by
  have hitems : a ∉ (ofList l h).items := fun hmem => ha (List.mem_toFinset.mp hmem)
  have hcard : (ofList l h).items.card < cap := lt_of_le_of_lt l.toFinset_card_le hlt
  unfold insert
  rw [if_neg hitems, dif_pos hcard]
  congr 1
  apply BoundedSet.ext
  show Insert.insert a l.toFinset = l'.toFinset
  rw [List.toFinset_eq_of_perm _ _ hperm, List.toFinset_cons]

/-- A new item when there is no room. -/
theorem insert_of_full (ha : a ∉ l) (hnodup : l.Nodup) (hfull : l.length = cap) :
    (ofList l h).insert a = (ofList l h, false) := by
  have hitems : a ∉ (ofList l h).items := fun hmem => ha (List.mem_toFinset.mp hmem)
  have hcard : (ofList l h).items.card = cap :=
    (List.toFinset_card_of_nodup hnodup).trans hfull
  unfold insert
  rw [if_neg hitems, dif_neg (by omega)]

theorem removeIf_ofList (p : α → Bool) (hl' : l' = l.filter fun a => !p a) :
    (ofList l h).removeIf p = (ofList l' h', l.any p) := by
  subst hl'
  unfold removeIf
  congr 1
  · apply BoundedSet.ext
    show l.toFinset.filter (fun a => p a = false) = (l.filter fun a => !p a).toFinset
    rw [List.toFinset_filter]
    exact Finset.filter_congr fun a _ => by simp
  · rw [Bool.eq_iff_iff, decide_eq_true_iff, List.any_eq_true]
    exact exists_congr fun a => and_congr_left fun _ => List.mem_toFinset

end BoundedSet

end Corstone.Lib
