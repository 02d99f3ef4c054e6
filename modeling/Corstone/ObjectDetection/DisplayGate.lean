import Corstone.Lib.Run

/-!
# The display gate

Models of `prvHandleFullResolutionFrame`, `prvHandleDownscaledFrame`
(`isp_config.c`, lines 229–295) and of the end of `lCallbackStreamPutFrame`
(`acamera_callbacks.c`, lines 169–210). The regions that the inference finds and
their drawing are left out. Frame ids do not wrap around.

* `Follows.step`: the last downscaled frame is the newest.
* `opens_iff`: when a full-resolution frame is treated as it should.
* `gate_iff`: a sequence of frames.
* `stuck_forever`: once a downscaled frame is newer than the displayed frame, no
  frame is displayed any more.
* `not_opens_lostFrame`: one downscaled frame is lost.
-/

namespace Corstone.ObjectDetection.DisplayGate

open Corstone.Lib

/-! ## The handlers -/

/-- What a handler is given. -/
structure Frame where
  ulAddress : UInt32
  ulWidth : UInt32
  ulHeight : UInt32
  ulMode : UInt32
  ulFrameId : ℕ
  deriving DecidableEq

/-- `xLastFrame`, with the fields of `xFullResolution`. -/
structure LastFrame where
  ulDisplayed : ℕ
  ulInferred : ℕ
  ulMode : UInt32
  ulWidth : UInt32
  ulHeight : UInt32

/-- What the handlers do. -/
inductive Effect
  | prvHdlcdShow (frame : Frame)
  | lMLRunInference (frame : Frame)
  deriving DecidableEq

structure Gate where
  xLastFrame : LastFrame
  log : List Effect

/-- `HDLCD_PIXEL_FORMAT_NOT_SUPPORTED`. -/
def hdlcdPixelFormatNotSupported : UInt32 := 3

/-- Before the first frame. -/
def Gate.init : Gate := ⟨⟨0, 0, hdlcdPixelFormatNotSupported, 0, 0⟩, []⟩

/-- `isp_configMAX_INFER_FRAME_SIZE`. -/
def maxInferFrameSize : UInt32 := 192 * 192

/-- `prvHandleFullResolutionFrame`. -/
def prvHandleFullResolutionFrame (frame : Frame) (s : Gate) : Gate :=
  if s.xLastFrame.ulDisplayed = s.xLastFrame.ulInferred then
    { xLastFrame :=
        { s.xLastFrame with
          ulDisplayed := frame.ulFrameId
          ulMode := frame.ulMode
          ulWidth := frame.ulWidth
          ulHeight := frame.ulHeight }
      log := .prvHdlcdShow frame :: s.log }
  else s

/-- `prvHandleDownscaledFrame`. -/
def prvHandleDownscaledFrame (frame : Frame) (s : Gate) : Gate :=
  let s := { s with xLastFrame := { s.xLastFrame with ulInferred := frame.ulFrameId } }
  if frame.ulWidth * frame.ulHeight > maxInferFrameSize then s
  else { s with log := .lMLRunInference frame :: s.log }

/-- `acamera_stream_type_t`. -/
inductive StreamType
  /-- `ACAMERA_STREAM_FR`. -/
  | fr
  /-- `ACAMERA_STREAM_DS1`. -/
  | ds1
  | other
  deriving DecidableEq

/-- `lCallbackStreamPutFrame`, with both handlers registered. -/
def lCallbackStreamPutFrame (s : Gate) : StreamType × Frame → Gate
  | (.fr, frame) => prvHandleFullResolutionFrame frame s
  | (.ds1, frame) => prvHandleDownscaledFrame frame s
  | (.other, _) => s

/-! ## The purpose -/

/-- A downscaled frame that is not older than the displayed frame has been inferred. -/
def Inferred (s : Gate) : Prop :=
  ∃ frame, .lMLRunInference frame ∈ s.log ∧ s.xLastFrame.ulDisplayed ≤ frame.ulFrameId

/-- Once such a frame has been inferred, a full-resolution frame is displayed. -/
def Opens (s : Gate) : StreamType × Frame → Prop
  | (.fr, frame) => Inferred s →
    (lCallbackStreamPutFrame s (.fr, frame)).log = .prvHdlcdShow frame :: s.log
  | _ => True

/-- When a full-resolution frame arrives and such a frame has been inferred, the last
    downscaled frame is not newer than the displayed frame. -/
def GateCondition (s : Gate) : StreamType × Frame → Prop
  | (.fr, _) => Inferred s → s.xLastFrame.ulInferred ≤ s.xLastFrame.ulDisplayed
  | _ => True

/-- The id of a downscaled frame. -/
def downscaledId : StreamType × Frame → Option ℕ
  | (.ds1, frame) => some frame.ulFrameId
  | _ => none

/-- The ids of the downscaled frames increase, from `n` on. A frame can be lost, and
    can come again. -/
def IncreasingFrom (n : ℕ) (as : List (StreamType × Frame)) : Prop :=
  (n :: as.filterMap downscaledId).Pairwise (· ≤ ·)

instance (n : ℕ) (as : List (StreamType × Frame)) : Decidable (IncreasingFrom n as) :=
  inferInstanceAs (Decidable (List.Pairwise _ _))

/-! ## One frame -/

section Frames

variable {s : Gate} {frame : Frame} {n : ℕ} {as : List (StreamType × Frame)}

theorem increasingFrom_cons_ds1 :
    IncreasingFrom n ((.ds1, frame) :: as) ↔
      n ≤ frame.ulFrameId ∧ IncreasingFrom frame.ulFrameId as := by
  have hids : ((StreamType.ds1, frame) :: as).filterMap downscaledId =
      frame.ulFrameId :: as.filterMap downscaledId := rfl
  unfold IncreasingFrom
  rw [hids]
  exact List.pairwise_cons_cons_iff_of_trans

/-- The gate has followed the downscaled frames, which keep increasing. -/
structure Follows (s : Gate) (as : List (StreamType × Frame)) : Prop where
  inferred : ∀ frame, .lMLRunInference frame ∈ s.log →
    frame.ulFrameId ≤ s.xLastFrame.ulInferred
  increasing : IncreasingFrom s.xLastFrame.ulInferred as

theorem follows_init (h : IncreasingFrom 0 as) : Follows .init as := ⟨nofun, h⟩

theorem xLastFrame_prvHandleDownscaledFrame :
    (prvHandleDownscaledFrame frame s).xLastFrame =
      { s.xLastFrame with ulInferred := frame.ulFrameId } := by
  unfold prvHandleDownscaledFrame
  dsimp only
  split_ifs <;> rfl

theorem log_prvHandleDownscaledFrame {e : Effect}
    (h : e ∈ (prvHandleDownscaledFrame frame s).log) : e = .lMLRunInference frame ∨ e ∈ s.log := by
  unfold prvHandleDownscaledFrame at h
  dsimp only at h
  split_ifs at h
  · exact Or.inr h
  · exact List.mem_cons.mp h

theorem ulInferred_prvHandleFullResolutionFrame :
    (prvHandleFullResolutionFrame frame s).xLastFrame.ulInferred = s.xLastFrame.ulInferred := by
  unfold prvHandleFullResolutionFrame
  split_ifs <;> rfl

theorem log_prvHandleFullResolutionFrame {e : Effect}
    (h : e ∈ (prvHandleFullResolutionFrame frame s).log) : e = .prvHdlcdShow frame ∨ e ∈ s.log := by
  unfold prvHandleFullResolutionFrame at h
  split_ifs at h
  · exact List.mem_cons.mp h
  · exact Or.inr h

/-- **The step lemma**. -/
theorem Follows.step {a : StreamType × Frame} (h : Follows s (a :: as)) :
    Follows (lCallbackStreamPutFrame s a) as := by
  obtain ⟨type, frame⟩ := a
  cases type with
  | fr =>
    constructor
    · intro g hg
      obtain hshow | hg := log_prvHandleFullResolutionFrame hg
      · exact nomatch hshow
      · show g.ulFrameId ≤ (prvHandleFullResolutionFrame frame s).xLastFrame.ulInferred
        rw [ulInferred_prvHandleFullResolutionFrame]
        exact h.inferred g hg
    · show IncreasingFrom (prvHandleFullResolutionFrame frame s).xLastFrame.ulInferred as
      rw [ulInferred_prvHandleFullResolutionFrame]
      exact h.increasing
  | ds1 =>
    obtain ⟨hle, hincreasing⟩ := increasingFrom_cons_ds1.mp h.increasing
    have hlast : (lCallbackStreamPutFrame s (.ds1, frame)).xLastFrame.ulInferred =
        frame.ulFrameId := congrArg LastFrame.ulInferred xLastFrame_prvHandleDownscaledFrame
    constructor
    · intro g hg
      rw [hlast]
      obtain hframe | hg := log_prvHandleDownscaledFrame hg
      · rw [Effect.lMLRunInference.inj hframe]
      · exact (h.inferred g hg).trans hle
    · rw [hlast]
      exact hincreasing
  | other => exact ⟨h.inferred, h.increasing⟩

/-- A full-resolution frame is displayed iff the ids agree. -/
theorem displayed_iff :
    (lCallbackStreamPutFrame s (.fr, frame)).log = .prvHdlcdShow frame :: s.log ↔
      s.xLastFrame.ulDisplayed = s.xLastFrame.ulInferred := by
  show (prvHandleFullResolutionFrame frame s).log = _ ↔ _
  unfold prvHandleFullResolutionFrame
  split_ifs with heq
  · exact iff_of_true rfl heq
  · refine iff_of_false (fun h => ?_) heq
    have hlength := congrArg List.length h
    rw [List.length_cons] at hlength
    omega

/-- **One frame**. -/
theorem opens_iff {a : StreamType × Frame} (h : Follows s (a :: as)) :
    Opens s a ↔ GateCondition s a := by
  obtain ⟨type, frame⟩ := a
  cases type with
  | fr =>
    refine imp_congr_right fun hinferred => ?_
    obtain ⟨g, hg, hdisplayed⟩ := hinferred
    have hlast := h.inferred g hg
    rw [displayed_iff]
    constructor
    · intro heq
      omega
    · intro hle
      omega
  | ds1 => exact Iff.rfl
  | other => exact Iff.rfl

/-- The effect displays a frame. -/
def Effect.shows : Effect → Bool
  | .prvHdlcdShow _ => true
  | .lMLRunInference _ => false

/-- One frame of a gate that is stuck. -/
theorem stuck_step {a : StreamType × Frame} (h : Follows s (a :: as))
    (hstuck : s.xLastFrame.ulDisplayed < s.xLastFrame.ulInferred) :
    (lCallbackStreamPutFrame s a).xLastFrame.ulDisplayed <
        (lCallbackStreamPutFrame s a).xLastFrame.ulInferred ∧
      (lCallbackStreamPutFrame s a).log.filter Effect.shows = s.log.filter Effect.shows := by
  obtain ⟨type, frame⟩ := a
  cases type with
  | fr =>
    have hskip : lCallbackStreamPutFrame s (.fr, frame) = s := if_neg (by omega)
    rw [hskip]
    exact ⟨hstuck, rfl⟩
  | ds1 =>
    obtain ⟨hle, -⟩ := increasingFrom_cons_ds1.mp h.increasing
    constructor
    · show (prvHandleDownscaledFrame frame s).xLastFrame.ulDisplayed <
        (prvHandleDownscaledFrame frame s).xLastFrame.ulInferred
      rw [xLastFrame_prvHandleDownscaledFrame]
      exact hstuck.trans_le hle
    · show (prvHandleDownscaledFrame frame s).log.filter Effect.shows = _
      unfold prvHandleDownscaledFrame
      dsimp only
      split_ifs
      · rfl
      · exact List.filter_cons_of_neg Bool.false_ne_true
  | other => exact ⟨hstuck, rfl⟩

/-- Once a downscaled frame is newer than the displayed frame, nothing is displayed any
    more, whatever frames follow. -/
theorem stuck_forever (h : Follows s as)
    (hstuck : s.xLastFrame.ulDisplayed < s.xLastFrame.ulInferred) :
    (run lCallbackStreamPutFrame s as).log.filter Effect.shows = s.log.filter Effect.shows := by
  induction as generalizing s with
  | nil => rfl
  | cons a as ih =>
    obtain ⟨hstuck', hshows⟩ := stuck_step h hstuck
    rw [run_cons, ih h.step hstuck', hshows]

end Frames

/-! ## All sequences -/

/-- **The gate.** Let frames arrive in any order, with any losses and repetitions. Then
    every full-resolution frame that comes once the displayed one has been inferred
    is displayed, iff at each of them the last downscaled frame is not newer than the
    displayed frame. -/
theorem gate_iff (as : List (StreamType × Frame)) (hincreasing : IncreasingFrom 0 as) :
    Along lCallbackStreamPutFrame Opens .init as ↔
      Along lCallbackStreamPutFrame GateCondition .init as := by
  have hall : ∀ s, Follows s as → (Along lCallbackStreamPutFrame Opens s as ↔
      Along lCallbackStreamPutFrame GateCondition s as) := by
    clear hincreasing
    induction as with
    | nil => exact fun _ _ => Iff.rfl
    | cons a as ih =>
      intro s hs
      rw [along_cons, along_cons, opens_iff hs]
      exact and_congr_right fun _ => ih _ hs.step
  exact hall .init (follows_init hincreasing)

/-- A frame of the camera. -/
def frame (ulFrameId : ℕ) : Frame := ⟨0x2000, 192, 192, 1, ulFrameId⟩

/-- Each frame is displayed before it is inferred; the second comes twice. -/
theorem gate_iff_inStep :
    Along lCallbackStreamPutFrame Opens .init
      [(.fr, frame 1), (.ds1, frame 1), (.fr, frame 2), (.fr, frame 2), (.ds1, frame 2),
        (.fr, frame 3)] := by
  refine (gate_iff _ (by decide)).mpr ?_
  exact ⟨fun _ => by decide, trivial, fun _ => by decide, fun _ => by decide, trivial,
    fun _ => by decide, trivial⟩

/-- The first downscaled frame is lost. -/
theorem not_opens_lostFrame :
    ¬ Along lCallbackStreamPutFrame Opens .init
      [(.fr, frame 1), (.ds1, frame 2), (.fr, frame 3)] := by
  rintro ⟨-, -, h, -⟩
  exact absurd (h ⟨frame 2, by decide, by decide⟩) (by decide)

end Corstone.ObjectDetection.DisplayGate
