import Corstone.ObjectDetection.BorderTile

/-!
# The results of an inference

Models of `prvProcessImage` and `lMLRunInference` (`object_detection/ml_interface.cc`, lines 233–239
and 280–369), and of the array and the loop in `prvHandleDownscaledFrame` (`isp_config.c`, lines
246–304). The number of results is preset to the size of the array. A failure leaves it so, and
`lMLRunInference` does not tell of one.

* `prvProcessImage_of_succeeds`, `num_of_not_succeeds`: what an inference leaves in the array, and
  the number of results.
* `drawn_iff`: exactly the boxes of this inference are drawn iff it succeeds.
* `notInited_drawn`: a model that is not initialised, and ten boxes.
-/

namespace Corstone.ObjectDetection.InferenceResults

open DisplayGate (Frame maxInferFrameSize)
open BorderTile (DetectRegion)

/-! ## The functions -/

/-- `DetectionResult`, with what is copied of it. -/
structure DetectionResult where
  m_x0 : Int32
  m_y0 : Int32
  m_w : Int32
  m_h : Int32
  deriving DecidableEq

/-- How the steps of `prvProcessImage` end. -/
structure Outcome where
  isInited : Bool
  /-- The size of `xInputTensor->dims`, which can be null. -/
  dims : Option Int32
  doPreProcess : Bool
  runInference : Bool
  doPostProcess : Bool
  /-- What the post-processing has found. -/
  xResults : List DetectionResult
  /-- `prvPresentInferenceResult`, which has one exit and returns true there. -/
  present : Bool

/-- An element of the array; `none` has not been written. -/
abbrev Cell := Option DetectRegion

/-- `isp_configMAX_DETECT_RESULTS`. -/
def maxDetectResults : ℕ := 10

/-- What is stored for a detection. -/
def DetectionResult.region (r : DetectionResult) : DetectRegion where
  ulX := r.m_x0.toUInt32
  ulY := r.m_y0.toUInt32
  ulW := r.m_w.toUInt32
  ulH := r.m_h.toUInt32

/-- The loop over the detections, of which at most `n` are copied (lines 350–356). -/
def copyResults : List DetectionResult → ℕ → List Cell → List Cell
  | r :: xResults, n + 1, _ :: cells => some r.region :: copyResults xResults n cells
  | _, _, cells => cells

/-- `prvProcessImage`: `pxCResults`, `*pulResultsNum` and the status. -/
def prvProcessImage (o : Outcome) (pxCResults : List Cell) (pulResultsNum : ℕ) :
    List Cell × ℕ × Int32 :=
  if o.isInited = false then (pxCResults, pulResultsNum, -1)
  else
    match o.dims with
    | none => (pxCResults, pulResultsNum, -1)
    | some size =>
      if size < 3 then (pxCResults, pulResultsNum, -1)
      else if o.doPreProcess = false then (pxCResults, pulResultsNum, -1)
      else if o.runInference = false then (pxCResults, pulResultsNum, -1)
      else if o.doPostProcess = false then (pxCResults, pulResultsNum, -1)
      else
        let pxCResults := copyResults o.xResults pulResultsNum pxCResults
        if o.present = false then (pxCResults, pulResultsNum, -1)
        else (pxCResults, min pulResultsNum o.xResults.length, 0)

/-- `lMLRunInference`, which returns 0. -/
def lMLRunInference (o : Outcome) (pxResults : List Cell) (pulResultsNum : ℕ) :
    List Cell × ℕ × Int32 :=
  let (pxResults, pulResultsNum, _) := prvProcessImage o pxResults pulResultsNum
  (pxResults, pulResultsNum, 0)

/-- The boxes that `prvHandleDownscaledFrame` draws, in this order. The array is not initialised,
    and the result of `lMLRunInference` is not looked at. -/
def prvHandleDownscaledFrame (frame : Frame) (o : Outcome) : List Cell :=
  if frame.ulWidth * frame.ulHeight > maxInferFrameSize then []
  else
    let xResults := List.replicate maxDetectResults none
    let (xResults, ulResultsCount, _) := lMLRunInference o xResults maxDetectResults
    (List.range ulResultsCount).map fun i => xResults[i]?.join

/-! ## The purpose -/

/-- All steps succeed. -/
def Succeeds (o : Outcome) : Prop :=
  o.isInited = true ∧ (∃ size ∈ o.dims, 3 ≤ size) ∧ o.doPreProcess = true ∧
    o.runInference = true ∧ o.doPostProcess = true ∧ o.present = true

/-- The first boxes that the inference has found. -/
def firstBoxes (o : Outcome) : List DetectRegion :=
  (o.xResults.take maxDetectResults).map DetectionResult.region

/-- What is drawn is what the inference has found, and nothing if it has failed. -/
def DrawsResults (frame : Frame) (o : Outcome) : Prop :=
  (Succeeds o → ¬ frame.ulWidth * frame.ulHeight > maxInferFrameSize →
    prvHandleDownscaledFrame frame o = (firstBoxes o).map some) ∧
  (¬ Succeeds o → prvHandleDownscaledFrame frame o = [])

/-! ## The results -/

section Results

variable {o : Outcome} {frame : Frame}

/-- The detections take the places of the first elements. -/
theorem copyResults_eq (xResults : List DetectionResult) (n : ℕ) (cells : List Cell)
    (hn : n = cells.length) :
    copyResults xResults n cells =
      (xResults.take n).map (fun r => some r.region) ++ cells.drop xResults.length := by
  induction cells generalizing xResults n with
  | nil =>
    subst hn
    cases xResults with
    | nil => rfl
    | cons r xResults => rfl
  | cons cell cells ih =>
    subst hn
    cases xResults with
    | nil => rfl
    | cons r xResults =>
      show some r.region :: copyResults xResults cells.length cells = _
      rw [ih xResults _ rfl]
      rfl

/-- A success leaves the detections that fit, and their number. -/
theorem prvProcessImage_of_succeeds (h : Succeeds o) (cells : List Cell) (n : ℕ) :
    prvProcessImage o cells n =
      (copyResults o.xResults n cells, min n o.xResults.length, 0) := by
  obtain ⟨hinited, ⟨size, hdims, hsize⟩, hpre, hrun, hpost, hpresent⟩ := h
  have hlarge : ¬ size < 3 := Int32.not_lt.mpr hsize
  unfold prvProcessImage
  rw [hinited, Option.mem_def.mp hdims, hpre, hrun, hpost, hpresent]
  simp [hlarge]

/-- All other exits leave the number. -/
theorem num_of_not_succeeds (h : ¬ Succeeds o) (cells : List Cell) (n : ℕ) :
    (prvProcessImage o cells n).2.1 = n := by
  unfold prvProcessImage
  by_cases hinited : o.isInited = false
  · rw [if_pos hinited]
  rw [if_neg hinited]
  split
  · rfl
  rename_i size hdims
  by_cases hsize : size < 3
  · rw [if_pos hsize]
  rw [if_neg hsize]
  split_ifs with hpre hrun hpost hpresent
  · rfl
  · rfl
  · rfl
  · rfl
  · -- The steps have all succeeded.
    refine absurd ⟨?_, ⟨size, hdims, Int32.not_lt.mp hsize⟩, ?_, ?_, ?_, ?_⟩ h
    · exact Bool.eq_true_of_not_eq_false hinited
    · exact Bool.eq_true_of_not_eq_false hpre
    · exact Bool.eq_true_of_not_eq_false hrun
    · exact Bool.eq_true_of_not_eq_false hpost
    · exact Bool.eq_true_of_not_eq_false hpresent

/-- Elements that have been written, read one after the other. -/
theorem map_range_cells (boxes : List DetectRegion) (rest : List Cell) :
    ((List.range boxes.length).map fun i => (boxes.map some ++ rest)[i]?.join) =
      boxes.map some := by
  apply List.ext_getElem
  · simp
  · intro i hi hi'
    rw [List.length_map, List.length_range] at hi
    rw [List.getElem_map, List.getElem_range, List.getElem?_append_left (by simpa using hi),
      List.getElem?_map, List.getElem?_eq_getElem hi, List.getElem_map]
    rfl

/-- A success: the boxes of this inference. -/
theorem drawn_of_succeeds (h : Succeeds o)
    (hframe : ¬ frame.ulWidth * frame.ulHeight > maxInferFrameSize) :
    prvHandleDownscaledFrame frame o = (firstBoxes o).map some := by
  have hlength : (firstBoxes o).length = min maxDetectResults o.xResults.length := by
    simp [firstBoxes]
  unfold prvHandleDownscaledFrame lMLRunInference
  rw [if_neg hframe]
  dsimp only
  rw [prvProcessImage_of_succeeds h, copyResults_eq _ _ _ List.length_replicate.symm]
  dsimp only
  rw [← hlength, ← map_range_cells (firstBoxes o), firstBoxes, List.map_map]
  rfl

/-- A failure: as many boxes as the array has. -/
theorem length_drawn_of_not_succeeds (h : ¬ Succeeds o)
    (hframe : ¬ frame.ulWidth * frame.ulHeight > maxInferFrameSize) :
    (prvHandleDownscaledFrame frame o).length = maxDetectResults := by
  unfold prvHandleDownscaledFrame lMLRunInference
  rw [if_neg hframe, List.length_map, List.length_range]
  exact num_of_not_succeeds h _ _

end Results

/-- **What is drawn.** An inference that succeeds draws the boxes that it has found, as many as the
    array holds, and one that fails draws none, iff it succeeds or the frame is too large for an
    inference. -/
theorem drawn_iff (frame : Frame) (o : Outcome) :
    DrawsResults frame o ↔
      frame.ulWidth * frame.ulHeight > maxInferFrameSize ∨ Succeeds o := by
  constructor
  · rintro ⟨-, hfailed⟩
    by_contra hnot
    obtain ⟨hframe, hsucceeds⟩ := not_or.mp hnot
    have hlength := length_drawn_of_not_succeeds hsucceeds hframe
    rw [hfailed hsucceeds] at hlength
    cases hlength
  · rintro (hframe | hsucceeds)
    · exact ⟨fun _ hsmall => absurd hframe hsmall, fun _ => if_pos hframe⟩
    · exact ⟨fun _ hsmall => drawn_of_succeeds hsucceeds hsmall, fun h => absurd hsucceeds h⟩

/-- The model is not initialised, and ten boxes are drawn that nothing has written. -/
theorem notInited_drawn :
    ¬ Succeeds ⟨false, some 4, true, true, true, [], true⟩ ∧
    prvHandleDownscaledFrame ⟨0, 192, 192, 0, 1⟩ ⟨false, some 4, true, true, true, [], true⟩ =
      List.replicate 10 none ∧
    ¬ DrawsResults ⟨0, 192, 192, 0, 1⟩ ⟨false, some 4, true, true, true, [], true⟩ := by
  have hfailed : ¬ Succeeds ⟨false, some 4, true, true, true, [], true⟩ := by
    rintro ⟨hinited, -⟩
    cases hinited
  refine ⟨hfailed, by decide, ?_⟩
  rintro ⟨-, hnothing⟩
  exact absurd (hnothing hfailed) (by decide)

end Corstone.ObjectDetection.InferenceResults
