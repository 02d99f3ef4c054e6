import Corstone.Lib.Heap

/-!
# A structure in a block

The fields of a structure lie in a block one behind the other, each with its size. The block is
described by what each field holds.

* `Layout.exists_storeFields`: a write over whole fields changes what these hold.
* `Layout.load_field`: a read inside a field.
-/

namespace Corstone.Lib

/-- The fields of a structure in their order, each with its size. -/
structure Layout (ι : Type) where
  fields : List ι
  nodup : fields.Nodup
  size : ι → ℕ

namespace Layout

variable {ι α : Type} (L : Layout ι)

/-- `sizeof`. -/
def total : ℕ := (L.fields.map L.size).sum

/-- The block of a structure with these contents. -/
def block (contents : ι → List α) : List α := L.fields.flatMap contents

/-- The contents have the sizes of the fields. -/
def Holds (contents : ι → List α) : Prop := ∀ f ∈ L.fields, (contents f).length = L.size f

variable {L} {contents : ι → List α}

theorem length_flatMap_of_holds {fields : List ι}
    (h : ∀ f ∈ fields, (contents f).length = L.size f) :
    (fields.flatMap contents).length = (fields.map L.size).sum := by
  induction fields with
  | nil => rfl
  | cons f fields ih =>
    rw [List.flatMap_cons, List.length_append, h f (List.mem_cons_self ..),
      ih fun g hg => h g (List.mem_cons_of_mem _ hg), List.map_cons, List.sum_cons]

variable (L) in
theorem holds_replicate (x : α) : L.Holds fun f => List.replicate (L.size f) x :=
  fun _ _ => List.length_replicate

variable (L) in
/-- The structure behind `memset`. -/
theorem block_replicate (x : α) :
    L.block (fun f => List.replicate (L.size f) x) = List.replicate L.total x := by
  rw [block, total]
  induction L.fields with
  | nil => rfl
  | cons f fields ih =>
    rw [List.flatMap_cons, ih, List.map_cons, List.sum_cons, List.replicate_append_replicate]

variable [DecidableEq ι]

variable (L) in
/-- `offsetof`. -/
def offset (f : ι) : ℕ := ((L.fields.takeWhile fun g => g ≠ f).map L.size).sum

variable (L) in
/-- Writes over whole fields, one after the other. -/
def storeFields (h : Heap α) (a : ℕ) : List (ι × List α) → Option (Heap α)
  | [] => some h
  | (f, xs) :: writes => (h.store a (L.offset f) xs).bind fun h => storeFields h a writes

/-- What lies before an element of a list, and behind it. -/
theorem exists_takeWhile_append {fields : List ι} {f : ι} (hf : f ∈ fields) :
    ∃ behind, fields = (fields.takeWhile fun g => g ≠ f) ++ f :: behind := by
  induction fields with
  | nil => exact absurd hf List.not_mem_nil
  | cons g fields ih =>
    by_cases hg : g = f
    · refine ⟨fields, ?_⟩
      rw [List.takeWhile_cons_of_neg (by simpa using hg), List.nil_append, hg]
    · obtain ⟨behind, hbehind⟩ := ih ((List.mem_cons.mp hf).resolve_left (Ne.symm hg))
      refine ⟨behind, ?_⟩
      rw [List.takeWhile_cons_of_pos (by simpa using hg), List.cons_append, ← hbehind]

/-- A field comes once. -/
theorem exists_behind {f : ι} (hf : f ∈ L.fields) :
    ∃ behind, L.fields = (L.fields.takeWhile fun g => g ≠ f) ++ f :: behind ∧ f ∉ behind := by
  obtain ⟨behind, hbehind⟩ := exists_takeWhile_append hf
  refine ⟨behind, hbehind, ?_⟩
  have hnodup := L.nodup
  rw [hbehind] at hnodup
  exact (List.nodup_cons.mp (List.nodup_append'.mp hnodup).2.1).1

theorem not_mem_before (f : ι) : f ∉ L.fields.takeWhile fun g => g ≠ f := by
  intro hmem
  simpa using List.mem_takeWhile_imp hmem

/-- The part of the block before a field, the field, and the part behind it. -/
theorem Holds.exists_parts (h : L.Holds contents) {f : ι} (hf : f ∈ L.fields) :
    ∃ before behind : List α, before.length = L.offset f ∧
      ∀ xs, L.block (Function.update contents f xs) = before ++ xs ++ behind := by
  obtain ⟨behind, hfields, hbehind⟩ := exists_behind hf
  refine ⟨(L.fields.takeWhile fun g => g ≠ f).flatMap contents, behind.flatMap contents, ?_, ?_⟩
  · apply length_flatMap_of_holds
    intro g hg
    exact h g (List.takeWhile_subset _ hg)
  · intro xs
    have hsame (fields : List ι) (hnot : f ∉ fields) :
        fields.flatMap (Function.update contents f xs) = fields.flatMap contents := by
      apply List.flatMap_congr
      intro g hg
      apply Function.update_of_ne
      rintro rfl
      exact hnot hg
    rw [block, hfields, List.flatMap_append, List.flatMap_cons, ← hfields,
      hsame _ (not_mem_before f), hsame _ hbehind, Function.update_self, List.append_assoc]

theorem Holds.update (h : L.Holds contents) {f : ι} {xs : List α} (hxs : xs.length = L.size f) :
    L.Holds (Function.update contents f xs) := by
  intro g hg
  by_cases hgf : g = f
  · subst hgf
    rw [Function.update_self, hxs]
  · rw [Function.update_of_ne hgf, h g hg]

/-- What the fields hold behind the writes. -/
def written (contents : ι → List α) (writes : List (ι × List α)) : ι → List α :=
  writes.foldl (fun contents w => Function.update contents w.1 w.2) contents

/-- By induction on the writes: each is inside its field. -/
theorem exists_storeFields {a : ℕ} (writes : List (ι × List α))
    (hwrites : ∀ w ∈ writes, w.1 ∈ L.fields ∧ w.2.length = L.size w.1) :
    ∀ (contents : ι → List α) (h : Heap α), L.Holds contents →
      h.block a = some (L.block contents) →
      ∃ h', L.storeFields h a writes = some h' ∧ L.Holds (written contents writes) ∧
        h'.block = Function.update h.block a (some (L.block (written contents writes))) := by
  induction writes with
  | nil =>
    intro contents h hholds ha
    refine ⟨h, rfl, hholds, ?_⟩
    rw [written, List.foldl_nil, ← ha, Function.update_eq_self]
  | cons w writes ih =>
    intro contents h hholds ha
    obtain ⟨hf, hxs⟩ := hwrites w (List.mem_cons_self ..)
    obtain ⟨before, behind, hbefore, hblock⟩ := hholds.exists_parts hf
    have hold : L.block contents = before ++ contents w.1 ++ behind := by
      rw [← hblock, Function.update_eq_self]
    have hlength : (contents w.1).length = w.2.length := by rw [hholds _ hf, hxs]
    obtain ⟨h₁, hstore, hblock₁⟩ := h.exists_store (L.offset w.1) w.2 ha (by
      rw [hold, List.length_append, List.length_append, hbefore, hlength]
      omega)
    have hnew : (L.block contents).take (L.offset w.1) ++ w.2 ++
        (L.block contents).drop (L.offset w.1 + w.2.length) =
          L.block (Function.update contents w.1 w.2) := by
      rw [hold, hblock, List.append_assoc before, List.take_left' hbefore,
        ← List.append_assoc before, List.drop_left' (by rw [List.length_append]; omega)]
    rw [hnew] at hblock₁
    obtain ⟨h₂, hstore₂, hholds₂, hblock₂⟩ :=
      ih (fun w hw => hwrites w (List.mem_cons_of_mem _ hw)) _ h₁ (hholds.update hxs)
        (by rw [hblock₁, Function.update_self])
    refine ⟨h₂, ?_, hholds₂, ?_⟩
    · rw [storeFields, hstore, Option.bind_some, hstore₂]
    · rw [hblock₂, hblock₁, Function.update_idem]
      rfl

/-- A read inside a field. -/
theorem Holds.load_field (hholds : L.Holds contents) {h : Heap α} {a : ℕ}
    (ha : h.block a = some (L.block contents)) {f : ι} (hf : f ∈ L.fields) {k n : ℕ}
    (hin : k + n ≤ L.size f) :
    h.load a (L.offset f + k) n = some (((contents f).drop k).take n) := by
  obtain ⟨before, behind, hbefore, hblock⟩ := hholds.exists_parts hf
  have hlength := hholds f hf
  have hold : L.block contents = before ++ (contents f ++ behind) := by
    rw [← List.append_assoc, ← hblock, Function.update_eq_self]
  rw [h.load_eq_some ha (by rw [hold, List.length_append, List.length_append]; omega), hold,
    ← hbefore, List.drop_append, List.drop_append_of_le_length (by omega),
    List.drop_of_length_le (by omega), List.nil_append, Nat.add_sub_cancel_left,
    List.take_append_of_le_length (by rw [List.length_drop]; omega)]

end Layout

end Corstone.Lib
