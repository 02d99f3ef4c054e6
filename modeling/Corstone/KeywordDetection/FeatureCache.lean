import Corstone.KeywordDetection.SlidingWindow

/-!
# The feature cache

Models of the audio loop of `prvProcessAudio` and of `FeatureCalc`
(`keyword_detection/ml_interface.cc`). An inference takes the features of one
audio window for each stride. The first strides of an inference repeat the last
ones of the inference before, and their features come from a cache; only for the
others the sliding window moves on.

The windows are those that `CircularSlidingWindow::next` delivers, and the
feature function is a parameter.

* `rows_inference`: what one inference does, when the cache covers the overlap.
* `outOfBounds_strides`: when the loop leaves the cache.
* `recomputed_iff`: all rows are as computed from scratch iff the strides of an
  inference are twice those of the advance and cover the tensor.
* `not_recomputed_oddShape`: an odd number of strides.
-/

namespace Corstone.KeywordDetection

open Corstone.Lib

/-- `AUDIO_BLOCK_SIZE / sizeof( int16_t )`. -/
def audioBlockSamples : ℕ := 1600

/-- `AUDIO_BLOCK_NUM`. -/
def audioBlockNum : ℕ := 4

/-- The shape of the model's input, as the constructor of the sliding window
    accepts it. -/
structure InputShape where
  kNumRows : UInt32
  kNumCols : UInt32
  frameLength : ℕ
  frameStride : ℕ
  stride_lt_block : frameStride < audioBlockSamples
  stride_lt_length : frameStride < frameLength
  length_lt_block : frameLength < audioBlockSamples
  block_mod_stride : audioBlockSamples % frameStride = 0
  length_mod_stride : frameLength % frameStride = 0

namespace InputShape

variable (x : InputShape)

/-- The sliding window (lines 651–652). -/
def circularSlider : CircularSlidingWindow where
  blockSize := audioBlockSamples
  blockCount := audioBlockNum
  windowSize := x.frameLength
  strideSize := x.frameStride
  stride_lt_block := x.stride_lt_block
  stride_lt_window := x.stride_lt_length
  window_lt_block := x.length_lt_block
  block_mod_stride := x.block_mod_stride
  window_mod_stride := x.length_mod_stride

/-- `audioDataWindowSize` (line 612), in 32 bits. -/
def audioDataWindowSize : ℕ :=
  (x.kNumRows.toNat * x.frameStride + (x.frameLength - x.frameStride)) % 2 ^ 32

/-- `audioDataStride` (lines 620–628). -/
def audioDataStride : ℕ :=
  let half := x.audioDataWindowSize / 2
  if half % x.frameStride ≠ 0 then half - half % x.frameStride else half

/-- `nMfccVectorsInAudioStride` (line 630). -/
def nMfccVectorsInAudioStride : ℕ := x.audioDataStride / x.frameStride

/-- `numberOfReusedFeatureVectors` (line 638), the size of the cache. -/
def numberOfReusedFeatureVectors : ℕ := x.nMfccVectorsInAudioStride

/-- The strides of an inference (line 683). -/
def strides : ℕ := x.audioDataWindowSize / x.frameStride

/-- The advance is half the strides. -/
theorem nMfccVectorsInAudioStride_eq : x.nMfccVectorsInAudioStride = x.strides / 2 := by
  have hreduced : x.audioDataStride / x.frameStride =
      x.audioDataWindowSize / 2 / x.frameStride := by
    unfold audioDataStride
    dsimp only
    split_ifs
    · exact Nat.div_eq_sub_mod_div.symm
    · rfl
  unfold nMfccVectorsInAudioStride strides
  rw [hreduced, Nat.div_div_eq_div_mul, Nat.div_div_eq_div_mul, Nat.mul_comm]

end InputShape

/-- The state of the loop. -/
structure FeatureTask (α : Type) where
  /-- The memory from the start of the tensor, as far as it has been written. -/
  tensorData : ℕ → Option α
  featureCache : List (List α)
  mfccAudioData : List Int16
  firstIteration : Bool
  /-- The calls of `next` so far. -/
  delivered : ℕ
  /-- An access to `featureCache` was out of bounds. -/
  outOfBounds : Bool

namespace FeatureTask

variable {α : Type} (x : InputShape) (compute : List Int16 → List α) (stream : ℕ → Int16)

/-- The loop starts (lines 658–660, 864). -/
def init : FeatureTask α where
  tensorData := fun _ => none
  featureCache := List.replicate x.numberOfReusedFeatureVectors []
  mfccAudioData := List.replicate x.frameLength 0
  firstIteration := true
  delivered := 0
  outOfBounds := false

/-- `std::memcpy` of the features to the place `start`. -/
def writeFeatures (tensorData : ℕ → Option α) (start : ℕ) (features : List α) : ℕ → Option α :=
  fun i => if start ≤ i ∧ i < start + features.length then features[i - start]? else tensorData i

/-- `std::move` of the features into the cache. -/
def renewCache (index : ℕ) (features : List α) (σ : FeatureTask α) : FeatureTask α :=
  if index < σ.featureCache.length then
    { σ with featureCache := σ.featureCache.set index features }
  else { σ with outOfBounds := true }

/-- The features go to the tensor, and behind the overlap into the cache (lines
    880–889). -/
def storeFeatures (index featuresOverlapIndex : ℕ) (features : List α) (σ : FeatureTask α) :
    FeatureTask α :=
  let σ := { σ with
    tensorData := writeFeatures σ.tensorData (index * features.length) features }
  if featuresOverlapIndex ≤ index then renewCache (index - featuresOverlapIndex) features σ else σ

/-- The feature calculator (lines 866–890). `std::move` out of the cache leaves an
    empty vector there. -/
def featureCalc (index : ℕ) (useCache : Bool) (featuresOverlapIndex : ℕ) (σ : FeatureTask α) :
    FeatureTask α :=
  if useCache = true ∧ index < σ.featureCache.length then
    storeFeatures index featuresOverlapIndex (σ.featureCache.getD index [])
      { σ with featureCache := σ.featureCache.set index [] }
  else storeFeatures index featuresOverlapIndex (compute σ.mfccAudioData) σ

/-- The next window of the slider. -/
def next (σ : FeatureTask α) : FeatureTask α :=
  { σ with
    mfccAudioData := Recording.window x.circularSlider stream σ.delivered
    delivered := σ.delivered + 1 }

/-- A turn of the inner loop (lines 683–693). -/
def strideStep (useCache : Bool) (σ : FeatureTask α) (strideIndex : ℕ) : FeatureTask α :=
  let σ := if useCache = false ∨ x.numberOfReusedFeatureVectors ≤ strideIndex then next x stream σ
    else σ
  featureCalc compute strideIndex useCache x.nMfccVectorsInAudioStride σ

/-- The first `n` turns of the inner loop. -/
def strideSteps (useCache : Bool) (n : ℕ) (σ : FeatureTask α) : FeatureTask α :=
  (List.range n).foldl (strideStep x compute stream useCache) σ

/-- An inference (lines 679–726). -/
def inference (σ : FeatureTask α) : FeatureTask α :=
  let useCache := !σ.firstIteration && decide (0 < x.numberOfReusedFeatureVectors)
  { strideSteps x compute stream useCache x.strides σ with firstIteration := false }

/-- The state after `n` inferences. -/
def inferences (n : ℕ) : FeatureTask α := (inference x compute stream)^[n] (init x)

/-- The features of the window that starts at a stride, from scratch. -/
def fromScratch (stride : ℕ) : List α :=
  compute (Recording.window x.circularSlider stream stride)

/-- A row of the tensor is what the features from scratch are. -/
def RowAt (stride row : ℕ) (σ : FeatureTask α) : Prop :=
  ∀ j < x.kNumCols.toNat,
    σ.tensorData (row * x.kNumCols.toNat + j) = (fromScratch x compute stream stride)[j]?

/-- After inference `k` every row of the tensor is as computed from scratch, and
    no access to the cache was out of bounds. -/
def Recomputed (k : ℕ) (σ : FeatureTask α) : Prop :=
  (∀ i < x.kNumRows.toNat, RowAt x compute stream (k * x.nMfccVectorsInAudioStride + i) i σ) ∧
    σ.outOfBounds = false

/-! ## The bounds of the cache -/

section Bounds

variable {x compute stream} {σ : FeatureTask α}

@[simp] theorem length_renewCache (index : ℕ) (features : List α) (σ : FeatureTask α) :
    (renewCache index features σ).featureCache.length = σ.featureCache.length := by
  unfold renewCache
  split_ifs
  · exact List.length_set
  · rfl

/-- A renewal is out of bounds behind the end of the cache. -/
theorem outOfBounds_renewCache (index : ℕ) (features : List α) (σ : FeatureTask α) :
    (renewCache index features σ).outOfBounds =
      (σ.outOfBounds || decide (σ.featureCache.length ≤ index)) := by
  unfold renewCache
  split_ifs with hlt
  · simp [Nat.not_le.mpr hlt]
  · simp [Nat.not_lt.mp hlt]

/-- Storing features leaves the size of the cache as it is. -/
theorem cache_storeFeatures (index overlap : ℕ) (features : List α) (σ : FeatureTask α) :
    (storeFeatures index overlap features σ).featureCache.length = σ.featureCache.length ∧
      (storeFeatures index overlap features σ).outOfBounds =
        (σ.outOfBounds || decide (overlap ≤ index ∧ σ.featureCache.length ≤ index - overlap)) := by
  unfold storeFeatures
  dsimp only
  split_ifs with hoverlap
  · rw [length_renewCache, outOfBounds_renewCache]
    simp [hoverlap]
  · simp [hoverlap]

theorem strideSteps_succ (useCache : Bool) (n : ℕ) (σ : FeatureTask α) :
    strideSteps x compute stream useCache (n + 1) σ =
      strideStep x compute stream useCache (strideSteps x compute stream useCache n σ) n := by
  simp [strideSteps, List.range_succ]

/-- A turn of the loop leaves the size of the cache as it is, and is out of bounds
    twice that size behind the start. -/
theorem cache_strideStep (useCache : Bool) {n : ℕ}
    (hlength : σ.featureCache.length = x.numberOfReusedFeatureVectors) :
    (strideStep x compute stream useCache σ n).featureCache.length =
        x.numberOfReusedFeatureVectors ∧
      (strideStep x compute stream useCache σ n).outOfBounds =
        (σ.outOfBounds || decide (2 * x.numberOfReusedFeatureVectors ≤ n)) := by
  have hcalc : ∀ τ : FeatureTask α, τ.featureCache.length = x.numberOfReusedFeatureVectors →
      (featureCalc compute n useCache x.nMfccVectorsInAudioStride τ).featureCache.length =
          x.numberOfReusedFeatureVectors ∧
        (featureCalc compute n useCache x.nMfccVectorsInAudioStride τ).outOfBounds =
          (τ.outOfBounds || decide (2 * x.numberOfReusedFeatureVectors ≤ n)) := by
    intro τ hτ
    have hbehind : (x.nMfccVectorsInAudioStride ≤ n ∧
        x.numberOfReusedFeatureVectors ≤ n - x.nMfccVectorsInAudioStride) =
          (2 * x.numberOfReusedFeatureVectors ≤ n) := by
      unfold InputShape.numberOfReusedFeatureVectors
      apply propext
      omega
    unfold featureCalc
    split_ifs
    · obtain ⟨hsize, hbounds⟩ := cache_storeFeatures n x.nMfccVectorsInAudioStride
        (τ.featureCache.getD n []) { τ with featureCache := τ.featureCache.set n [] }
      simp only [List.length_set, hτ, hbehind] at hsize hbounds
      exact ⟨hsize, hbounds⟩
    · obtain ⟨hsize, hbounds⟩ := cache_storeFeatures n x.nMfccVectorsInAudioStride
        (compute τ.mfccAudioData) τ
      simp only [hτ, hbehind] at hsize hbounds
      exact ⟨hsize, hbounds⟩
  unfold strideStep
  dsimp only
  split_ifs
  · exact hcalc _ hlength
  · exact hcalc σ hlength

/-- **The bounds of the cache.** -/
theorem outOfBounds_strides (x : InputShape) (compute : List Int16 → List α) (stream : ℕ → Int16)
    {σ : FeatureTask α} (useCache : Bool)
    (hlength : σ.featureCache.length = x.numberOfReusedFeatureVectors) (n : ℕ) :
    (strideSteps x compute stream useCache n σ).featureCache.length =
        x.numberOfReusedFeatureVectors ∧
      (strideSteps x compute stream useCache n σ).outOfBounds =
        (σ.outOfBounds || decide (2 * x.numberOfReusedFeatureVectors < n)) := by
  induction n with
  | zero => exact ⟨hlength, by simp [strideSteps]⟩
  | succ n ih =>
    obtain ⟨hlength', hbounds⟩ := ih
    obtain ⟨hlength'', hbounds'⟩ := cache_strideStep useCache hlength'
    rw [strideSteps_succ, hbounds', hbounds, Bool.or_assoc, ← Bool.decide_or]
    refine ⟨hlength'', ?_⟩
    congr 2
    apply propext
    omega

end Bounds

/-! ## The rows of the tensor -/

section Rows

variable {x compute stream} {σ : FeatureTask α}

/-- What storing features does to the tensor. -/
theorem tensorData_storeFeatures (index overlap : ℕ) (features : List α) (σ : FeatureTask α) :
    (storeFeatures index overlap features σ).tensorData =
      writeFeatures σ.tensorData (index * features.length) features := by
  unfold storeFeatures renewCache
  dsimp only
  split_ifs <;> rfl

/-- What storing features leaves alone. -/
theorem storeFeatures_frame (index overlap : ℕ) (features : List α) (σ : FeatureTask α) :
    (storeFeatures index overlap features σ).firstIteration = σ.firstIteration ∧
      (storeFeatures index overlap features σ).delivered = σ.delivered := by
  unfold storeFeatures renewCache
  dsimp only
  split_ifs <;> exact ⟨rfl, rfl⟩

/-- What storing features does to the cache, when it stays in bounds. -/
theorem featureCache_storeFeatures {index overlap : ℕ} (features : List α) {σ : FeatureTask α}
    (hindex : index < overlap + σ.featureCache.length) :
    (storeFeatures index overlap features σ).featureCache =
      if overlap ≤ index then σ.featureCache.set (index - overlap) features
      else σ.featureCache := by
  unfold storeFeatures renewCache
  dsimp only
  split_ifs
  · rfl
  · omega
  · rfl

/-- The row of the features that are stored. -/
theorem rowAt_storeFeatures {index stride : ℕ} (overlap : ℕ) {features : List α}
    (hlength : features.length = x.kNumCols.toNat)
    (hfeatures : features = fromScratch x compute stream stride) :
    RowAt x compute stream stride index (storeFeatures index overlap features σ) := by
  intro j hj
  rw [tensorData_storeFeatures, writeFeatures, hlength, if_pos (by omega),
    Nat.add_sub_cancel_left, hfeatures]

/-- The other rows. -/
theorem rowAt_storeFeatures_of_ne {index row stride : ℕ} (overlap : ℕ) {features : List α}
    (hlength : features.length = x.kNumCols.toNat) (hrow : row ≠ index)
    (h : RowAt x compute stream stride row σ) :
    RowAt x compute stream stride row (storeFeatures index overlap features σ) := by
  intro j hj
  have hoff : ¬ (index * x.kNumCols.toNat ≤ row * x.kNumCols.toNat + j ∧
      row * x.kNumCols.toNat + j < index * x.kNumCols.toNat + x.kNumCols.toNat) := by
    rintro ⟨hle, hlt⟩
    apply hrow
    have hdiv : (row * x.kNumCols.toNat + j) / x.kNumCols.toNat = row := by
      rw [Nat.mul_comm, Nat.mul_add_div (by omega), Nat.div_eq_of_lt hj, Nat.add_zero]
    rw [← hdiv]
    exact Nat.div_eq_of_lt_le hle (by rw [Nat.succ_mul]; exact hlt)
  rw [tensorData_storeFeatures, writeFeatures, hlength, if_neg hoff]
  exact h j hj

/-- The state in inference `k` after `n` turns of the loop: the rows so far, the
    cache entries that have been renewed, and those that are still to be used. -/
structure Progress (x : InputShape) (compute : List Int16 → List α) (stream : ℕ → Int16)
    (k n : ℕ) (σ : FeatureTask α) : Prop where
  length : σ.featureCache.length = x.numberOfReusedFeatureVectors
  first : σ.firstIteration = decide (k = 0)
  delivered : σ.delivered = k * x.numberOfReusedFeatureVectors +
    if k = 0 then n else max n x.numberOfReusedFeatureVectors
  rows : ∀ i < n, RowAt x compute stream (k * x.numberOfReusedFeatureVectors + i) i σ
  renewed : ∀ i, i + x.numberOfReusedFeatureVectors < n →
    σ.featureCache.getD i [] =
      fromScratch x compute stream ((k + 1) * x.numberOfReusedFeatureVectors + i)
  cached : k ≠ 0 → ∀ i < x.numberOfReusedFeatureVectors, n ≤ i →
    σ.featureCache.getD i [] =
      fromScratch x compute stream (k * x.numberOfReusedFeatureVectors + i)

theorem getD_set {l : List (List α)} {i j : ℕ} (features : List α) (hi : i < l.length) :
    (l.set i features).getD j [] = if j = i then features else l.getD j [] := by
  rw [List.getD_eq_getElem?_getD, List.getD_eq_getElem?_getD, List.getElem?_set]
  by_cases hij : i = j
  · subst hij
    simp [hi]
  · rw [if_neg hij, if_neg (Ne.symm hij)]

/-- The features of a turn are stored. -/
theorem progress_storeFeatures {k n : ℕ} (h : Progress x compute stream k n σ)
    (hn : n < 2 * x.numberOfReusedFeatureVectors) {ρ : FeatureTask α} {features : List α}
    (htensor : ρ.tensorData = σ.tensorData) (hfirst : ρ.firstIteration = σ.firstIteration)
    (hdelivered : ρ.delivered = k * x.numberOfReusedFeatureVectors +
      if k = 0 then n + 1 else max (n + 1) x.numberOfReusedFeatureVectors)
    (hlength : ρ.featureCache.length = x.numberOfReusedFeatureVectors)
    (hcache : ∀ i ≠ n, ρ.featureCache.getD i [] = σ.featureCache.getD i [])
    (hsize : features.length = x.kNumCols.toNat)
    (hfeatures : features =
      fromScratch x compute stream (k * x.numberOfReusedFeatureVectors + n)) :
    Progress x compute stream k (n + 1)
      (storeFeatures n x.numberOfReusedFeatureVectors features ρ) := by
  have hindex : n < x.numberOfReusedFeatureVectors + ρ.featureCache.length := by omega
  have hcache' := featureCache_storeFeatures features hindex
  obtain ⟨hframe, hframe'⟩ :=
    storeFeatures_frame n x.numberOfReusedFeatureVectors features ρ
  constructor
  · rw [(cache_storeFeatures n _ features ρ).1, hlength]
  · rw [hframe, hfirst, h.first]
  · rw [hframe', hdelivered]
  · intro i hi
    rcases Nat.lt_succ_iff_lt_or_eq.mp hi with hbefore | rfl
    · apply rowAt_storeFeatures_of_ne _ hsize hbefore.ne
      intro j hj
      rw [htensor]
      exact h.rows i hbefore j hj
    · exact rowAt_storeFeatures _ hsize hfeatures
  · intro i hi
    rw [hcache', if_pos (by omega), getD_set _ (by omega)]
    split_ifs with hnow
    · rw [hfeatures]
      congr 1
      rw [Nat.succ_mul]
      omega
    · rw [hcache i (by omega)]
      exact h.renewed i (by omega)
  · intro hk i hi hle
    rw [hcache', if_neg (by omega), hcache i (by omega)]
    exact h.cached hk i hi (by omega)

/-- A turn of the loop. The cache is used in all inferences but the first. -/
theorem progress_step (hcompute : ∀ audio, (compute audio).length = x.kNumCols.toNat) {k n : ℕ}
    (h : Progress x compute stream k n σ) (hn : n < 2 * x.numberOfReusedFeatureVectors) :
    Progress x compute stream k (n + 1)
      (strideStep x compute stream (decide (k ≠ 0)) σ n) := by
  have hdelivered := h.delivered
  by_cases hreuse : k ≠ 0 ∧ n < x.numberOfReusedFeatureVectors
  · obtain ⟨hk, hlt⟩ := hreuse
    have hlength := h.length
    have hskip : ¬ (decide (k ≠ 0) = false ∨ x.numberOfReusedFeatureVectors ≤ n) := by
      simp [hk]
      omega
    have hcached : decide (k ≠ 0) = true ∧ n < σ.featureCache.length := by
      simp [hk]
      omega
    have hstep : strideStep x compute stream (decide (k ≠ 0)) σ n =
        storeFeatures n x.numberOfReusedFeatureVectors (σ.featureCache.getD n [])
          { σ with featureCache := σ.featureCache.set n [] } := by
      unfold strideStep featureCalc
      rw [if_neg hskip]
      exact if_pos hcached
    have hfeatures := h.cached hk n hlt le_rfl
    rw [hstep]
    refine progress_storeFeatures h hn rfl rfl ?_ ?_ ?_ ?_ hfeatures
    · show σ.delivered = _
      rw [hdelivered, if_neg hk, if_neg hk]
      omega
    · exact List.length_set.trans hlength
    · intro i hi
      rw [getD_set _ (by omega), if_neg hi]
    · rw [hfeatures]
      exact hcompute _
  · have hnext : decide (k ≠ 0) = false ∨ x.numberOfReusedFeatureVectors ≤ n := by
      by_cases hk : k = 0
      · exact Or.inl (by simp [hk])
      · exact Or.inr (by omega)
    have hlength : (next x stream σ).featureCache.length = x.numberOfReusedFeatureVectors :=
      h.length
    have hcomputed : ¬ (decide (k ≠ 0) = true ∧ n < (next x stream σ).featureCache.length) := by
      rw [hlength]
      simpa using hreuse
    have hstep : strideStep x compute stream (decide (k ≠ 0)) σ n =
        storeFeatures n x.numberOfReusedFeatureVectors
          (compute (next x stream σ).mfccAudioData) (next x stream σ) := by
      unfold strideStep featureCalc
      rw [if_pos hnext]
      exact if_neg hcomputed
    rw [hstep]
    refine progress_storeFeatures h hn rfl rfl ?_ hlength (fun _ _ => rfl) (hcompute _) ?_
    · show σ.delivered + 1 = _
      rw [hdelivered]
      split_ifs with hk
      · rfl
      · omega
    · show fromScratch x compute stream σ.delivered = _
      rw [hdelivered]
      split_ifs with hk
      · rfl
      · congr 1
        omega

/-- All turns of the loop, when the cache covers half of them. -/
theorem progress_steps (hcompute : ∀ audio, (compute audio).length = x.kNumCols.toNat) {k : ℕ}
    (h : Progress x compute stream k 0 σ) {n : ℕ} (hn : n ≤ 2 * x.numberOfReusedFeatureVectors) :
    Progress x compute stream k n (strideSteps x compute stream (decide (k ≠ 0)) n σ) := by
  induction n with
  | zero => exact h
  | succ n ih =>
    rw [strideSteps_succ]
    exact progress_step hcompute (ih (by omega)) (by omega)

/-- **An inference**, when the cache covers half of its strides. -/
theorem rows_inference (hcompute : ∀ audio, (compute audio).length = x.kNumCols.toNat)
    (heven : x.strides = 2 * x.numberOfReusedFeatureVectors) {k : ℕ}
    (h : Progress x compute stream k 0 σ) :
    Progress x compute stream (k + 1) 0 (inference x compute stream σ) ∧
      ∀ i < x.strides, RowAt x compute stream (k * x.numberOfReusedFeatureVectors + i) i
        (inference x compute stream σ) := by
  have hcache : (!σ.firstIteration && decide (0 < x.numberOfReusedFeatureVectors)) =
      decide (k ≠ 0 ∧ 0 < x.numberOfReusedFeatureVectors) := by
    rw [h.first]
    simp [Bool.decide_and]
  have hinference : inference x compute stream σ =
      { strideSteps x compute stream (decide (k ≠ 0)) x.strides σ with
        firstIteration := false } := by
    unfold inference
    rw [hcache]
    rcases Nat.eq_zero_or_pos x.numberOfReusedFeatureVectors with hnone | hpos
    · have hstrides : x.strides = 0 := by omega
      rw [hstrides]
      rfl
    · simp only [hpos, and_true]
  have hprogress := progress_steps hcompute h heven.le
  generalize strideSteps x compute stream (decide (k ≠ 0)) x.strides σ = τ at hprogress hinference
  rw [hinference]
  refine ⟨⟨hprogress.length, by simp, ?_, fun i hi => absurd hi (Nat.not_lt_zero i),
    fun i hi => absurd hi (Nat.not_lt_zero _), fun _ i hi _ => ?_⟩, hprogress.rows⟩
  · show τ.delivered = _
    rw [hprogress.delivered, heven, if_neg (Nat.succ_ne_zero k), Nat.succ_mul k]
    split_ifs
    · omega
    · omega
  · exact hprogress.renewed i (by omega)

/-- A turn of the first inference computes its features. -/
theorem strideStep_first (x : InputShape) (compute : List Int16 → List α) (stream : ℕ → Int16)
    (σ : FeatureTask α) (n : ℕ) :
    strideStep x compute stream false σ n = storeFeatures n x.numberOfReusedFeatureVectors
      (compute (next x stream σ).mfccAudioData) (next x stream σ) := by
  unfold strideStep featureCalc
  rw [if_pos (Or.inl rfl)]
  exact if_neg fun h => Bool.false_ne_true h.1

/-- The first `n` turns of the first inference leave the memory behind their rows
    as it was. -/
theorem tensorData_strideSteps (stream : ℕ → Int16) (σ : FeatureTask α)
    (hcompute : ∀ audio, (compute audio).length = x.kNumCols.toNat) (n : ℕ) {i : ℕ}
    (hi : n * x.kNumCols.toNat ≤ i) :
    (strideSteps x compute stream false n σ).tensorData i = σ.tensorData i := by
  induction n with
  | zero => rfl
  | succ n ih =>
    rw [Nat.succ_mul] at hi
    rw [strideSteps_succ, ← ih (by omega), strideStep_first, tensorData_storeFeatures,
      writeFeatures, hcompute, if_neg (by omega)]
    rfl

end Rows

/-! ## Runs -/

section Runs

variable {x compute stream}

theorem inferences_succ (k : ℕ) : inferences x compute stream (k + 1) =
    inference x compute stream (inferences x compute stream k) :=
  Function.iterate_succ_apply' _ _ _

/-- The inferences, when the cache covers half of their strides. -/
theorem progress_inferences (hcompute : ∀ audio, (compute audio).length = x.kNumCols.toNat)
    (heven : x.strides = 2 * x.numberOfReusedFeatureVectors) (k : ℕ) :
    Progress x compute stream k 0 (inferences x compute stream k) := by
  induction k with
  | zero =>
    refine ⟨List.length_replicate, rfl, by simp [inferences, init],
      fun i hi => absurd hi (Nat.not_lt_zero i), fun i hi => absurd hi (Nat.not_lt_zero _),
      fun hk => absurd rfl hk⟩
  | succ k ih =>
    rw [inferences_succ]
    exact (rows_inference hcompute heven ih).1

/-- The inferences never leave a cache that covers half of their strides. -/
theorem inBounds_inferences (heven : x.strides = 2 * x.numberOfReusedFeatureVectors) (k : ℕ) :
    (inferences x compute stream k).featureCache.length = x.numberOfReusedFeatureVectors ∧
      (inferences x compute stream k).outOfBounds = false := by
  induction k with
  | zero => exact ⟨List.length_replicate, rfl⟩
  | succ k ih =>
    obtain ⟨hlength, hbounds⟩ := ih
    obtain ⟨hlength', hbounds'⟩ := outOfBounds_strides x compute stream _ hlength x.strides
    rw [inferences_succ]
    refine ⟨hlength', ?_⟩
    show (strideSteps x compute stream _ x.strides _).outOfBounds = false
    rw [hbounds', hbounds, heven]
    simp

end Runs

/-- What the first inference tells about the shape. -/
theorem shape_of_recomputed (hcompute : ∀ audio, (compute audio).length = x.kNumCols.toNat)
    (h : Recomputed x compute stream 0 (inferences x compute stream 1)) :
    x.strides % 2 = 0 ∧
      x.kNumRows.toNat * x.kNumCols.toNat ≤ x.strides * x.kNumCols.toNat := by
  obtain ⟨hrows, hbounds⟩ := h
  have hadvance := x.nMfccVectorsInAudioStride_eq
  constructor
  · have hlength : (init x : FeatureTask α).featureCache.length =
        x.numberOfReusedFeatureVectors := List.length_replicate
    have hstrides := (outOfBounds_strides x compute stream false hlength x.strides).2
    rw [show (strideSteps x compute stream false x.strides (init x)).outOfBounds = false from
      hbounds] at hstrides
    have hle : ¬ 2 * x.numberOfReusedFeatureVectors < x.strides := by
      simpa [init] using hstrides.symm
    unfold InputShape.numberOfReusedFeatureVectors at hle
    omega
  · by_contra hlt
    have hcols : 0 < x.kNumCols.toNat := by
      apply Nat.pos_of_ne_zero
      intro hzero
      rw [hzero, Nat.mul_zero, Nat.mul_zero] at hlt
      exact hlt le_rfl
    have hrow : x.strides < x.kNumRows.toNat :=
      Nat.lt_of_mul_lt_mul_right (not_le.mp hlt)
    have hcell := hrows x.strides hrow 0 hcols
    have hunwritten : (inferences x compute stream 1).tensorData
        (x.strides * x.kNumCols.toNat + 0) = none :=
      tensorData_strideSteps stream (init x) hcompute x.strides le_rfl
    rw [hunwritten] at hcell
    have hnone := List.getElem?_eq_none_iff.mp hcell.symm
    unfold fromScratch at hnone
    rw [hcompute] at hnone
    omega

/-- **The feature cache.** In every run of inferences all rows of the tensor are
    as computed from scratch and all accesses to the cache in bounds, iff the
    number of strides is even and the rows of the strides cover the tensor. -/
theorem recomputed_iff (hcompute : ∀ audio, (compute audio).length = x.kNumCols.toNat) :
    (∀ k, Recomputed x compute stream k (inferences x compute stream (k + 1))) ↔
      x.strides % 2 = 0 ∧
        x.kNumRows.toNat * x.kNumCols.toNat ≤ x.strides * x.kNumCols.toNat := by
  constructor
  · exact fun h => shape_of_recomputed x compute stream hcompute (h 0)
  · rintro ⟨heven, hcover⟩ k
    have hadvance := x.nMfccVectorsInAudioStride_eq
    have hstrides : x.strides = 2 * x.numberOfReusedFeatureVectors := by
      unfold InputShape.numberOfReusedFeatureVectors
      omega
    refine ⟨fun i hi => ?_, (inBounds_inferences hstrides (k + 1)).2⟩
    rw [inferences_succ]
    intro j hj
    have hrow : i < x.strides :=
      lt_of_lt_of_le hi (Nat.le_of_mul_le_mul_right hcover (by omega))
    exact (rows_inference hcompute hstrides (progress_inferences hcompute hstrides k)).2 i hrow j hj

/-- The input of the shipped model: 49 rows of 10 features of 640 samples each,
    320 samples apart. -/
def shippedShape : InputShape where
  kNumRows := 49
  kNumCols := 10
  frameLength := 640
  frameStride := 320
  stride_lt_block := by decide
  stride_lt_length := by decide
  length_lt_block := by decide
  block_mod_stride := by decide
  length_mod_stride := by decide

/-- The shipped model has 50 strides. -/
theorem recomputed_iff_shippedShape :
    (∀ k, Recomputed shippedShape (fun _ => List.replicate 10 (0 : ℕ)) (fun _ => 0) k
        (inferences shippedShape (fun _ => List.replicate 10 0) (fun _ => 0) (k + 1))) ↔
      shippedShape.strides % 2 = 0 ∧ shippedShape.kNumRows.toNat * shippedShape.kNumCols.toNat ≤
        shippedShape.strides * shippedShape.kNumCols.toNat :=
  recomputed_iff shippedShape (fun _ => List.replicate 10 0) (fun _ => 0)
    fun _ => List.length_replicate

/-- The same with one row less. -/
def oddShape : InputShape := { shippedShape with kNumRows := 48 }

/-- The last of the 49 strides renews a cache entry that is not there. -/
theorem not_recomputed_oddShape :
    ¬ ∀ k, Recomputed oddShape (fun _ => List.replicate 10 (0 : ℕ)) (fun _ => 0) k
      (inferences oddShape (fun _ => List.replicate 10 0) (fun _ => 0) (k + 1)) := by
  intro h
  have hodd := (shape_of_recomputed oddShape _ _ (fun _ => List.length_replicate) (h 0)).1
  revert hodd
  decide

end FeatureTask

end Corstone.KeywordDetection
