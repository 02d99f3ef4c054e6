import Corstone.KeywordDetection.FeatureCache

/-!
# The rows of the input tensor

`prvProcessAudio` takes as many strides as fit into the audio window, and the feature calculator
writes a row of the tensor for each of them (`keyword_detection/ml_interface.cc`, lines 612,
681–693 and 881–883). The audio window of `kNumRows` frames ends behind the overhang of the last
one, which is a stride of its own where a frame is as long as two strides.

* `rows_inside_iff`: no row is written behind the tensor iff the window has less than
  `kNumRows + 1` strides; and the same of the memory behind the tensor.
* `FrameShape.fewStrides_iff`: a window that fits 32 bits has them iff a frame is shorter than two
  strides.
* `row_behind_tensor`: the shipped model writes 50 rows.
-/

namespace Corstone.KeywordDetection

/-- What the loop knows of the input of the model. -/
structure FrameShape where
  kNumRows : UInt32
  frameLength : ℕ
  frameStride : ℕ
  pos : 1 ≤ frameStride
  stride_le_length : frameStride ≤ frameLength

namespace FrameShape

/-- The strides of an inference: `audioDataWindowSize / mfccWindowStride` in 32 bits (lines 612 and
    683). -/
def strides (p : FrameShape) : ℕ :=
  (p.kNumRows.toNat * p.frameStride + (p.frameLength - p.frameStride)) % 2 ^ 32 / p.frameStride

/-- The values of `stride_index` with which the feature calculator is called in an inference, the
    rows that it writes. -/
def rowsWritten (p : FrameShape) : List ℕ := List.range p.strides

/-- The audio window, in 32 bits, is shorter than one stride more than there are rows. -/
def FewStrides (p : FrameShape) : Prop :=
  (p.kNumRows.toNat * p.frameStride + (p.frameLength - p.frameStride)) % 2 ^ 32 <
    (p.kNumRows.toNat + 1) * p.frameStride

instance (p : FrameShape) : Decidable p.FewStrides := inferInstanceAs (Decidable (_ < _))

theorem strides_le_iff (p : FrameShape) : p.strides ≤ p.kNumRows.toNat ↔ p.FewStrides := by
  unfold strides FewStrides
  rw [← Nat.lt_add_one_iff, Nat.div_lt_iff_lt_mul p.pos]

theorem forall_rowsWritten_iff (p : FrameShape) :
    (∀ row ∈ p.rowsWritten, row < p.kNumRows.toNat) ↔ p.FewStrides := by
  rw [← strides_le_iff]
  constructor
  · intro h
    by_contra hlt
    exact lt_irrefl _ (h p.kNumRows.toNat (List.mem_range.mpr (not_le.mp hlt)))
  · intro hle row hrow
    have := List.mem_range.mp hrow
    omega

/-- A window that fits 32 bits: the overhang of the last frame is less than a stride. -/
theorem fewStrides_iff (p : FrameShape)
    (hfits : p.kNumRows.toNat * p.frameStride + (p.frameLength - p.frameStride) < 2 ^ 32) :
    p.FewStrides ↔ p.frameLength < 2 * p.frameStride := by
  have hle := p.stride_le_length
  unfold FewStrides
  rw [Nat.mod_eq_of_lt hfits, Nat.add_mul]
  omega

end FrameShape

/-- The frames of an accepted input. -/
def InputShape.frames (x : InputShape) : FrameShape where
  kNumRows := x.kNumRows
  frameLength := x.frameLength
  frameStride := x.frameStride
  pos := by
    have hmod := x.block_mod_stride
    apply Nat.pos_of_ne_zero
    intro hzero
    rw [hzero] at hmod
    cases hmod
  stride_le_length := x.stride_lt_length.le

namespace FeatureTask

variable {α : Type} {x : InputShape} {compute : List Int16 → List α} {stream : ℕ → Int16}
  {σ : FeatureTask α}

/-- The cells from the end of the tensor on have not been written, and no features are longer than
    a row. -/
structure Inside (x : InputShape) (σ : FeatureTask α) : Prop where
  sized : ∀ features ∈ σ.featureCache, features.length ≤ x.kNumCols.toNat
  behind : ∀ i, x.kNumRows.toNat * x.kNumCols.toNat ≤ i → σ.tensorData i = none

/-- The features of a row of the tensor stay inside, also those that are shorter. -/
theorem inside_storeFeatures (h : Inside x σ) {index : ℕ} (overlap : ℕ) {features : List α}
    (hindex : index < x.kNumRows.toNat) (hsize : features.length ≤ x.kNumCols.toNat) :
    Inside x (storeFeatures index overlap features σ) := by
  constructor
  · intro f hf
    unfold storeFeatures renewCache at hf
    dsimp only at hf
    split_ifs at hf
    · rcases List.mem_or_eq_of_mem_set hf with hold | rfl
      · exact h.sized f hold
      · exact hsize
    · exact h.sized f hf
    · exact h.sized f hf
  · intro i hi
    have hend : index * features.length + features.length ≤
        x.kNumRows.toNat * x.kNumCols.toNat := by
      rw [← Nat.succ_mul]
      exact Nat.mul_le_mul hindex hsize
    rw [tensorData_storeFeatures, writeFeatures, if_neg (by omega)]
    exact h.behind i hi

/-- A turn for a row of the tensor. Features that have been moved out of the cache leave an empty
    vector there. -/
theorem inside_strideStep (hcompute : ∀ audio, (compute audio).length = x.kNumCols.toNat)
    (h : Inside x σ) (useCache : Bool) {n : ℕ} (hn : n < x.kNumRows.toNat) :
    Inside x (strideStep x compute stream useCache σ n) := by
  have hcalc : ∀ τ : FeatureTask α, Inside x τ →
      Inside x (featureCalc compute n useCache x.nMfccVectorsInAudioStride τ) := by
    intro τ hτ
    unfold featureCalc
    by_cases hcached : useCache = true ∧ n < τ.featureCache.length
    · rw [if_pos hcached]
      have hmoved : Inside x { τ with featureCache := τ.featureCache.set n [] } := by
        refine ⟨?_, hτ.behind⟩
        intro f hf
        rcases List.mem_or_eq_of_mem_set hf with hold | rfl
        · exact hτ.sized f hold
        · exact Nat.zero_le _
      refine inside_storeFeatures hmoved _ hn ?_
      rw [List.getD_eq_getElem _ _ hcached.2]
      exact hτ.sized _ (List.getElem_mem hcached.2)
    · rw [if_neg hcached]
      exact inside_storeFeatures hτ _ hn (hcompute _).le
  unfold strideStep
  dsimp only
  split_ifs
  · exact hcalc _ ⟨h.sized, h.behind⟩
  · exact hcalc σ h

/-- All turns, if there are no more of them than rows. -/
theorem inside_strideSteps (stream : ℕ → Int16)
    (hcompute : ∀ audio, (compute audio).length = x.kNumCols.toNat) (h : Inside x σ)
    (useCache : Bool) {n : ℕ} (hn : n ≤ x.kNumRows.toNat) :
    Inside x (strideSteps x compute stream useCache n σ) := by
  induction n with
  | zero => exact h
  | succ n ih =>
    rw [strideSteps_succ]
    exact inside_strideStep hcompute (ih (by omega)) useCache (by omega)

theorem inside_inferences (hcompute : ∀ audio, (compute audio).length = x.kNumCols.toNat)
    (hstrides : x.strides ≤ x.kNumRows.toNat) (k : ℕ) :
    Inside x (inferences x compute stream k) := by
  induction k with
  | zero =>
    refine ⟨?_, fun _ _ => rfl⟩
    intro features hfeatures
    rw [List.eq_of_mem_replicate hfeatures]
    exact Nat.zero_le _
  | succ k ih =>
    rw [inferences_succ]
    obtain ⟨hsized, hbehind⟩ := inside_strideSteps stream hcompute ih _ hstrides
    exact ⟨hsized, hbehind⟩

/-- What has been written stays written. -/
theorem written_writeFeatures (tensorData : ℕ → Option α) (start : ℕ) (features : List α) {i : ℕ}
    (h : tensorData i ≠ none) : writeFeatures tensorData start features i ≠ none := by
  unfold writeFeatures
  split_ifs with hin
  · rw [List.getElem?_eq_getElem (show i - start < features.length by omega)]
    exact Option.some_ne_none _
  · exact h

/-- The first inference writes the cell behind the tensor, if it goes on behind the last row. -/
theorem written_behind (stream : ℕ → Int16) (σ : FeatureTask α)
    (hcompute : ∀ audio, (compute audio).length = x.kNumCols.toNat) (hcols : 0 < x.kNumCols.toNat)
    (n : ℕ) : (strideSteps x compute stream false (x.kNumRows.toNat + 1 + n) σ).tensorData
      (x.kNumRows.toNat * x.kNumCols.toNat) ≠ none := by
  induction n with
  | zero =>
    rw [Nat.add_zero, strideSteps_succ, strideStep_first, tensorData_storeFeatures, hcompute]
    unfold writeFeatures
    rw [if_pos ⟨le_refl _, by rw [hcompute]; omega⟩, Nat.sub_self,
      List.getElem?_eq_getElem (by rw [hcompute]; exact hcols)]
    exact Option.some_ne_none _
  | succ n ih =>
    rw [← Nat.add_assoc, strideSteps_succ, strideStep_first, tensorData_storeFeatures]
    exact written_writeFeatures _ _ _ ih

/-- The memory behind the tensor, in every run of inferences. -/
theorem forall_behind_iff (hcompute : ∀ audio, (compute audio).length = x.kNumCols.toNat)
    (hcols : 0 < x.kNumCols.toNat) :
    (∀ k i, x.kNumRows.toNat * x.kNumCols.toNat ≤ i →
      (inferences x compute stream k).tensorData i = none) ↔ x.strides ≤ x.kNumRows.toNat := by
  constructor
  · intro h
    by_contra hlt
    obtain ⟨n, hn⟩ := Nat.exists_eq_add_of_lt (not_le.mp hlt)
    refine written_behind stream (init x) hcompute hcols n ?_
    rw [show x.kNumRows.toNat + 1 + n = x.strides by omega]
    exact h 1 _ le_rfl
  · exact fun hle k i hi => (inside_inferences hcompute hle k).behind i hi

end FeatureTask

open FeatureTask

/-- No row is written behind the tensor iff the window is shorter than one stride more than there
    are rows; and then, for inputs that are accepted, no inference of any run writes to the memory
    behind the tensor, whatever the features are. -/
theorem rows_inside_iff (p : FrameShape) :
    ((∀ row ∈ p.rowsWritten, row < p.kNumRows.toNat) ↔ p.FewStrides) ∧
    ∀ (x : InputShape) (α : Type) (compute : List Int16 → List α) (stream : ℕ → Int16),
      x.frames = p → (∀ audio, (compute audio).length = x.kNumCols.toNat) → 0 < x.kNumCols.toNat →
        ((∀ k i, x.kNumRows.toNat * x.kNumCols.toNat ≤ i →
          (inferences x compute stream k).tensorData i = none) ↔ p.FewStrides) := by
  refine ⟨p.forall_rowsWritten_iff, ?_⟩
  rintro x α compute stream rfl hcompute hcols
  rw [forall_behind_iff hcompute hcols]
  exact x.frames.strides_le_iff

/-- An inference of the shipped model writes behind the tensor. -/
theorem rows_inside_iff_shippedShape :
    ¬ ∀ k i, shippedShape.kNumRows.toNat * shippedShape.kNumCols.toNat ≤ i →
      (inferences shippedShape (fun _ => List.replicate 10 (0 : ℕ)) (fun _ => 0)
        k).tensorData i = none := by
  rw [(rows_inside_iff shippedShape.frames).2 shippedShape ℕ (fun _ => List.replicate 10 0)
    (fun _ => 0) rfl (fun _ => List.length_replicate) (by decide)]
  decide

/-- The shipped model has 49 rows, and row 49 is written behind them. -/
theorem row_behind_tensor :
    49 ∈ shippedShape.frames.rowsWritten ∧ ¬ 49 < shippedShape.frames.kNumRows.toNat := by
  decide

end Corstone.KeywordDetection
