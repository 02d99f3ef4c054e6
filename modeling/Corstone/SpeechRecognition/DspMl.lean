import Corstone.Lib.Run

/-!
# The hand-over from the DSP task to the ML task

Models of `DSPML` (`speech_recognition/dsp/src/dsp_interfaces.cpp`), as the node
`ML` (`AppNodes.h`) and `prvProcessAudio` (`speech_recognition/ml_interface.cc`)
call it. Each task is a loop; the buffers are copied sample by sample under the
mutex. A sample is modelled by the frame that it belongs to.

* `invariant_step`: a step of either task keeps the invariant.
* `increasing_iff`: the reads of a run return complete frames, each later than
  the one before, iff the DSP task swaps the buffers between any two reads.
* `along_condition_of_paired`: it does when the ML task takes each signal after
  it is given and copies before the next swap.
* `not_increasing_swapAfterTake`: a swap between the signal and the copy.
-/

namespace Corstone.SpeechRecognition

open Corstone.Lib

inductive Buffer
  | a | b
  deriving DecidableEq

inductive Task
  | dsp | ml
  deriving DecidableEq

/-- Where the DSP task is in `vCopyToDSPBufferFrom` and
    `vSwapBuffersAndWakeUpMLThread`. -/
inductive DspTask
  | lockCopy
  /-- The mutex is held, and this many samples are copied. -/
  | copying (copied : ℕ)
  | lockSwap
  /-- The mutex is held. -/
  | swapping
  /-- At `xSemaphoreGiveFromISR`. -/
  | giving
  deriving DecidableEq

/-- Where the ML task is in `vWaitForDSPData` and `vCopyFromMLBufferInto`. -/
inductive MlTask
  | taking
  | lockCopy
  | copying (copied : ℕ)
  deriving DecidableEq

/-- The object and the two tasks. -/
structure DspMl where
  memory : Buffer → ℕ → Option ℕ
  dspBuffer : Buffer
  mlBuffer : Buffer
  mutex : Option Task
  semaphore : Bool
  dsp : DspTask
  ml : MlTask
  /-- The frames that the DSP task has handed over, and so the next frame. -/
  produced : ℕ
  swaps : ℕ
  /-- The buffers have been swapped since the last read. -/
  swapped : Bool
  /-- The buffer of the ML task. -/
  inferenceWindow : ℕ → Option ℕ
  /-- What the reads have returned, the last one first. -/
  reads : List (List (Option ℕ))
  /-- The frame that was in the ML buffer at each read. -/
  readFrames : List ℕ

namespace DspMl

/-- `DSPML::DSPML` (lines 128–135), where the allocations succeed. -/
def init : DspMl where
  memory := fun _ _ => none
  dspBuffer := .a
  mlBuffer := .b
  mutex := none
  semaphore := false
  dsp := .lockCopy
  ml := .taking
  produced := 0
  swaps := 0
  swapped := false
  inferenceWindow := fun _ => none
  reads := []
  readFrames := []

/-- A sample is written. -/
def write (memory : Buffer → ℕ → Option ℕ) (buffer : Buffer) (i : ℕ) (frame : ℕ) :
    Buffer → ℕ → Option ℕ :=
  Function.update memory buffer (Function.update (memory buffer) i (some frame))

theorem write_of_ne {memory : Buffer → ℕ → Option ℕ} {buffer other : Buffer} (h : other ≠ buffer)
    (i frame : ℕ) : write memory buffer i frame other = memory other :=
  Function.update_of_ne h _ _

theorem write_self (memory : Buffer → ℕ → Option ℕ) (buffer : Buffer) (i frame : ℕ) :
    write memory buffer i frame buffer = Function.update (memory buffer) i (some frame) :=
  Function.update_self _ _ _

variable (nbSamples : ℕ)

/-- The DSP task runs on (lines 143–173). -/
def dspStep (σ : DspMl) : DspMl :=
  match σ.dsp with
  | .lockCopy =>
    if σ.mutex = none then { σ with mutex := some .dsp, dsp := .copying 0 } else σ
  | .copying i =>
    if i < nbSamples then
      { σ with memory := write σ.memory σ.dspBuffer i σ.produced, dsp := .copying (i + 1) }
    else { σ with mutex := none, dsp := .lockSwap }
  | .lockSwap => if σ.mutex = none then { σ with mutex := some .dsp, dsp := .swapping } else σ
  | .swapping =>
    { σ with
      dspBuffer := σ.mlBuffer
      mlBuffer := σ.dspBuffer
      mutex := none
      dsp := .giving
      swaps := σ.swaps + 1
      swapped := true }
  | .giving => { σ with semaphore := true, dsp := .lockCopy, produced := σ.produced + 1 }

/-- The ML task runs on (lines 150–155, 175–178). -/
def mlStep (σ : DspMl) : DspMl :=
  match σ.ml with
  | .taking => if σ.semaphore = true then { σ with semaphore := false, ml := .lockCopy } else σ
  | .lockCopy => if σ.mutex = none then { σ with mutex := some .ml, ml := .copying 0 } else σ
  | .copying i =>
    if i < nbSamples then
      { σ with
        inferenceWindow := Function.update σ.inferenceWindow i (σ.memory σ.mlBuffer i)
        ml := .copying (i + 1) }
    else
      { σ with
        mutex := none
        ml := .taking
        swapped := false
        reads := (List.range nbSamples).map σ.inferenceWindow :: σ.reads
        readFrames := (σ.swaps - 1) :: σ.readFrames }

def step (σ : DspMl) : Task → DspMl
  | .dsp => dspStep nbSamples σ
  | .ml => mlStep nbSamples σ

/-- A complete frame. -/
def frame (k : ℕ) : List (Option ℕ) := (List.range nbSamples).map fun _ => some k

/-- The reads have returned complete frames, each one later than the reads before
    it. -/
def Increasing (σ : DspMl) : Prop :=
  ∃ frames : List ℕ, σ.reads = frames.map (frame nbSamples) ∧ frames.Pairwise (· > ·)

/-- When the ML task has copied the buffer, there has been a swap since its last
    read. -/
def Condition (σ : DspMl) : Task → Prop
  | .dsp => True
  | .ml => ∀ i, σ.ml = .copying i → nbSamples ≤ i → nbSamples = 0 ∨ σ.swapped = true

/-! ## The invariant -/

/-- The samples that the DSP task has in its buffer. -/
def filled (σ : DspMl) : ℕ :=
  match σ.dsp with
  | .copying i => i
  | .lockSwap | .swapping => nbSamples
  | _ => 0

/-- The DSP task holds the mutex. -/
def DspTask.holds : DspTask → Bool
  | .copying _ | .swapping => true
  | _ => false

/-- The ML task holds the mutex. -/
def MlTask.holds : MlTask → Bool
  | .copying _ => true
  | _ => false

structure Invariant (σ : DspMl) : Prop where
  buffers : σ.dspBuffer ≠ σ.mlBuffer
  dspHolds : σ.mutex = some .dsp ↔ DspTask.holds σ.dsp = true
  mlHolds : σ.mutex = some .ml ↔ MlTask.holds σ.ml = true
  swaps : σ.swaps = σ.produced + if σ.dsp = .giving then 1 else 0
  mlFrame : σ.swaps ≠ 0 → ∀ i < nbSamples, σ.memory σ.mlBuffer i = some (σ.swaps - 1)
  dspFrame : ∀ i < filled nbSamples σ, i < nbSamples →
    σ.memory σ.dspBuffer i = some σ.produced
  signal : σ.semaphore = true ∨ σ.dsp = .giving ∨ σ.ml ≠ .taking → σ.swaps ≠ 0
  copied : ∀ i, σ.ml = .copying i → ∀ j < i, j < nbSamples →
    σ.inferenceWindow j = some (σ.swaps - 1)
  reads : σ.reads = σ.readFrames.map (frame nbSamples)
  earlier : ∀ k ∈ σ.readFrames, k < σ.swaps
  fresh : σ.swapped = true → ∀ k ∈ σ.readFrames, k < σ.swaps - 1
  stale : σ.swapped = false → σ.swaps ≠ 0 → σ.swaps - 1 ∈ σ.readFrames

section Steps

variable {nbSamples} {σ : DspMl}

theorem invariant_init : Invariant nbSamples init where
  buffers := by decide
  dspHolds := by decide
  mlHolds := by decide
  swaps := rfl
  mlFrame h := absurd rfl h
  dspFrame i hi := absurd hi (Nat.not_lt_zero i)
  signal h := by revert h; decide
  copied i h := MlTask.noConfusion h
  reads := rfl
  earlier k hk := absurd hk List.not_mem_nil
  fresh h := absurd h Bool.false_ne_true
  stale _ h := absurd rfl h

/-- The two tasks do not hold the mutex at the same time. -/
theorem ml_not_holds (h : Invariant nbSamples σ) (hdsp : DspTask.holds σ.dsp = true) :
    MlTask.holds σ.ml ≠ true := by
  intro hml
  have hmutex := h.dspHolds.mpr hdsp
  rw [h.mlHolds.mpr hml] at hmutex
  exact Task.noConfusion (Option.some.inj hmutex)

/-- The DSP task takes the free mutex. -/
theorem invariant_dspLock (h : Invariant nbSamples σ) (hfree : σ.mutex = none)
    (hat : σ.dsp ≠ .giving) {dsp : DspTask} (hholds : DspTask.holds dsp = true)
    (hfilled : filled nbSamples { σ with mutex := some .dsp, dsp := dsp } ≤ filled nbSamples σ) :
    Invariant nbSamples { σ with mutex := some .dsp, dsp := dsp } := by
  have hml : MlTask.holds σ.ml ≠ true := by
    intro hml
    rw [h.mlHolds.mpr hml] at hfree
    exact Option.some_ne_none _ hfree
  have hgiving : dsp ≠ .giving := by
    rintro rfl
    exact Bool.false_ne_true hholds
  refine { h with dspHolds := ?_, mlHolds := ?_, swaps := ?_, dspFrame := ?_, signal := ?_ }
  · exact iff_of_true rfl hholds
  · exact iff_of_false (by simp) hml
  · rw [h.swaps, if_neg hat, if_neg hgiving]
  · exact fun i hi => h.dspFrame i (by omega)
  · rintro (hsemaphore | hgives | hml)
    · exact h.signal (Or.inl hsemaphore)
    · exact absurd hgives hgiving
    · exact h.signal (Or.inr (Or.inr hml))

/-- The DSP task copies a sample. -/
theorem invariant_dspCopy (h : Invariant nbSamples σ) {i : ℕ} (hat : σ.dsp = .copying i) :
    Invariant nbSamples
      { σ with memory := write σ.memory σ.dspBuffer i σ.produced, dsp := .copying (i + 1) } := by
  have hml := ml_not_holds h (by rw [hat]; rfl)
  refine { h with
    dspHolds := ?_, swaps := ?_, mlFrame := ?_, dspFrame := ?_, signal := ?_, copied := ?_ }
  · exact h.dspHolds.trans (by rw [hat]; rfl)
  · rw [h.swaps, hat]
    rfl
  · intro hswaps j hj
    show write σ.memory σ.dspBuffer i σ.produced σ.mlBuffer j = _
    rw [write_of_ne h.buffers.symm]
    exact h.mlFrame hswaps j hj
  · intro j hj hjn
    have hj' : j < i + 1 := hj
    show write σ.memory σ.dspBuffer i σ.produced σ.dspBuffer j = _
    rw [write_self]
    rcases Nat.lt_succ_iff_lt_or_eq.mp hj' with hbefore | rfl
    · rw [Function.update_of_ne hbefore.ne]
      exact h.dspFrame j (by rw [filled, hat]; exact hbefore) hjn
    · exact Function.update_self _ _ _
  · rintro (hsemaphore | hgives | hml')
    · exact h.signal (Or.inl hsemaphore)
    · exact DspTask.noConfusion hgives
    · exact h.signal (Or.inr (Or.inr hml'))
  · intro j hcopying
    have hcopying' : σ.ml = .copying j := hcopying
    rw [hcopying'] at hml
    exact absurd rfl hml

/-- The DSP task has copied the frame. -/
theorem invariant_dspUnlock (h : Invariant nbSamples σ) {i : ℕ} (hat : σ.dsp = .copying i)
    (hi : nbSamples ≤ i) : Invariant nbSamples { σ with mutex := none, dsp := .lockSwap } := by
  have hml := ml_not_holds h (by rw [hat]; rfl)
  refine { h with dspHolds := ?_, mlHolds := ?_, swaps := ?_, dspFrame := ?_, signal := ?_ }
  · exact iff_of_false (by simp) (by simp [DspTask.holds])
  · exact iff_of_false (by simp) hml
  · rw [h.swaps, hat]
    rfl
  · intro j hj hjn
    have hfilled : filled nbSamples σ = i := by rw [filled, hat]
    exact h.dspFrame j (by omega) hjn
  · rintro (hsemaphore | hgives | hml')
    · exact h.signal (Or.inl hsemaphore)
    · exact DspTask.noConfusion hgives
    · exact h.signal (Or.inr (Or.inr hml'))

/-- The DSP task swaps the buffers. -/
theorem invariant_swap (h : Invariant nbSamples σ) (hat : σ.dsp = .swapping) :
    Invariant nbSamples
      { σ with
        dspBuffer := σ.mlBuffer
        mlBuffer := σ.dspBuffer
        mutex := none
        dsp := .giving
        swaps := σ.swaps + 1
        swapped := true } := by
  have hml := ml_not_holds h (by rw [hat]; rfl)
  have hswaps : σ.swaps = σ.produced := by
    rw [h.swaps, hat]
    rfl
  refine ⟨h.buffers.symm, ?_, ?_, ?_, ?_, ?_, ?_, ?_, h.reads, ?_, ?_, ?_⟩
  · exact iff_of_false (by simp) (by simp [DspTask.holds])
  · exact iff_of_false (by simp) hml
  · show σ.swaps + 1 = σ.produced + 1
    rw [hswaps]
  · intro _ i hi
    show σ.memory σ.dspBuffer i = some (σ.swaps + 1 - 1)
    rw [Nat.add_sub_cancel, hswaps]
    exact h.dspFrame i (by rw [filled, hat]; exact hi) hi
  · exact fun i hi => absurd hi (Nat.not_lt_zero i)
  · exact fun _ => Nat.succ_ne_zero _
  · intro i hcopying
    have hcopying' : σ.ml = .copying i := hcopying
    rw [hcopying'] at hml
    exact absurd rfl hml
  · exact fun k hk => Nat.lt_succ_of_lt (h.earlier k hk)
  · exact fun _ k hk => h.earlier k hk
  · exact fun hfresh => absurd hfresh.symm Bool.false_ne_true

/-- The DSP task gives the semaphore. -/
theorem invariant_give (h : Invariant nbSamples σ) (hat : σ.dsp = .giving) :
    Invariant nbSamples
      { σ with semaphore := true, dsp := .lockCopy, produced := σ.produced + 1 } := by
  refine { h with dspHolds := ?_, swaps := ?_, dspFrame := ?_, signal := ?_ }
  · exact h.dspHolds.trans (by rw [hat]; rfl)
  · rw [h.swaps, hat]
    rfl
  · exact fun i hi => absurd hi (Nat.not_lt_zero i)
  · exact fun _ => h.signal (Or.inr (Or.inl hat))

/-- The DSP task keeps the invariant. -/
theorem invariant_dspStep (h : Invariant nbSamples σ) :
    Invariant nbSamples (dspStep nbSamples σ) := by
  unfold dspStep
  cases hat : σ.dsp with
  | lockCopy =>
    dsimp only
    split_ifs with hfree
    · exact invariant_dspLock h hfree (by rw [hat]; decide) rfl (Nat.zero_le _)
    · exact h
  | copying i =>
    dsimp only
    split_ifs with hi
    · exact invariant_dspCopy h hat
    · exact invariant_dspUnlock h hat (not_lt.mp hi)
  | lockSwap =>
    dsimp only
    split_ifs with hfree
    · exact invariant_dspLock h hfree (by rw [hat]; decide) rfl (by rw [filled, filled, hat])
    · exact h
  | swapping => exact invariant_swap h hat
  | giving => exact invariant_give h hat

/-- The DSP task does not hold the mutex that is free or held by the ML task. -/
theorem dsp_not_holds (h : Invariant nbSamples σ) (hmutex : σ.mutex ≠ some .dsp) :
    DspTask.holds σ.dsp ≠ true :=
  fun hdsp => hmutex (h.dspHolds.mpr hdsp)

/-- What the ML task has copied is the frame of the last swap. -/
theorem inferenceWindow_eq_frame (h : Invariant nbSamples σ) {i : ℕ} (hat : σ.ml = .copying i)
    (hi : nbSamples ≤ i) :
    (List.range nbSamples).map σ.inferenceWindow = frame nbSamples (σ.swaps - 1) := by
  apply List.map_congr_left
  intro j hj
  have hj' := List.mem_range.mp hj
  exact h.copied i hat j (by omega) hj'

/-- The ML task has read the buffer. -/
theorem invariant_read (h : Invariant nbSamples σ) {i : ℕ} (hat : σ.ml = .copying i)
    (hi : nbSamples ≤ i) :
    Invariant nbSamples
      { σ with
        mutex := none
        ml := .taking
        swapped := false
        reads := (List.range nbSamples).map σ.inferenceWindow :: σ.reads
        readFrames := (σ.swaps - 1) :: σ.readFrames } := by
  have hmutex : σ.mutex = some .ml := h.mlHolds.mpr (by rw [hat]; rfl)
  have hdsp := dsp_not_holds h (by rw [hmutex]; simp)
  have hswaps : σ.swaps ≠ 0 := h.signal (Or.inr (Or.inr (by rw [hat]; simp)))
  refine { h with
    dspHolds := ?_, mlHolds := ?_, signal := ?_, copied := ?_, reads := ?_, earlier := ?_
    fresh := ?_, stale := ?_ }
  · exact iff_of_false (by simp) hdsp
  · exact iff_of_false (by simp) (by simp [MlTask.holds])
  · exact fun _ => hswaps
  · exact fun j hcopying => MlTask.noConfusion hcopying
  · show _ :: σ.reads = _
    rw [inferenceWindow_eq_frame h hat hi, h.reads, List.map_cons]
  · intro k hk
    show k < σ.swaps
    rcases List.mem_cons.mp hk with rfl | hk
    · omega
    · exact h.earlier k hk
  · exact fun hfresh => absurd hfresh Bool.false_ne_true
  · exact fun _ _ => List.mem_cons_self

/-- The ML task keeps the invariant. -/
theorem invariant_mlStep (h : Invariant nbSamples σ) :
    Invariant nbSamples (mlStep nbSamples σ) := by
  unfold mlStep
  cases hat : σ.ml with
  | taking =>
    dsimp only
    split_ifs with hgiven
    · refine { h with mlHolds := ?_, signal := ?_, copied := ?_ }
      · exact h.mlHolds.trans (by rw [hat]; rfl)
      · exact fun _ => h.signal (Or.inl hgiven)
      · exact fun i hcopying => MlTask.noConfusion hcopying
    · exact h
  | lockCopy =>
    have hsignal : σ.swaps ≠ 0 := h.signal (Or.inr (Or.inr (by rw [hat]; simp)))
    dsimp only
    split_ifs with hfree
    · have hdsp := dsp_not_holds h (by rw [hfree]; simp)
      refine { h with dspHolds := ?_, mlHolds := ?_, signal := ?_, copied := ?_ }
      · exact iff_of_false (by simp) hdsp
      · exact iff_of_true rfl rfl
      · exact fun _ => hsignal
      · intro i hcopying j hj
        obtain rfl : 0 = i := MlTask.copying.inj hcopying
        exact absurd hj (Nat.not_lt_zero j)
    · exact h
  | copying i =>
    have hsignal : σ.swaps ≠ 0 := h.signal (Or.inr (Or.inr (by rw [hat]; simp)))
    dsimp only
    split_ifs with hi
    · refine { h with mlHolds := ?_, signal := ?_, copied := ?_ }
      · exact h.mlHolds.trans (by rw [hat]; rfl)
      · exact fun _ => hsignal
      · intro i' hcopying j hj hjn
        obtain rfl : i + 1 = i' := MlTask.copying.inj hcopying
        show Function.update σ.inferenceWindow i (σ.memory σ.mlBuffer i) j = _
        rcases Nat.lt_succ_iff_lt_or_eq.mp hj with hbefore | rfl
        · rw [Function.update_of_ne hbefore.ne]
          exact h.copied i hat j hbefore hjn
        · rw [Function.update_self]
          exact h.mlFrame hsignal j hi
    · exact invariant_read h hat (not_lt.mp hi)

/-- A step of either task keeps the invariant. -/
theorem invariant_step (h : Invariant nbSamples σ) (t : Task) :
    Invariant nbSamples (step nbSamples σ t) := by
  cases t with
  | dsp => exact invariant_dspStep h
  | ml => exact invariant_mlStep h

/-! ## The order of the frames -/

/-- A complete frame tells its number. -/
theorem frame_injective (hsamples : nbSamples ≠ 0) :
    Function.Injective (frame nbSamples) := by
  intro k k' h
  have hhead := congrArg (fun l => l[0]?) h
  simpa [frame, Nat.pos_of_ne_zero hsamples] using hhead

/-- The reads are increasing iff the frames read are, unless they are empty. -/
theorem increasing_iff_pairwise (h : Invariant nbSamples σ) (hsamples : nbSamples ≠ 0) :
    Increasing nbSamples σ ↔ σ.readFrames.Pairwise (· > ·) := by
  constructor
  · rintro ⟨frames, hreads, hframes⟩
    rw [h.reads] at hreads
    rw [List.map_injective_iff.mpr (frame_injective hsamples) hreads]
    exact hframes
  · exact fun hframes => ⟨σ.readFrames, h.reads, hframes⟩

/-- Empty frames are increasing. -/
theorem increasing_of_noSamples (hsamples : nbSamples = 0) (h : Invariant nbSamples σ) :
    Increasing nbSamples σ := by
  subst hsamples
  refine ⟨(List.range σ.readFrames.length).reverse, ?_, ?_⟩
  · rw [h.reads]
    apply List.ext_getElem
    · simp
    · intro i _ _
      simp [frame]
  · exact List.pairwise_reverse.mpr List.pairwise_lt_range

/-- Only a read changes the frames read. -/
theorem readFrames_step (nbSamples : ℕ) (σ : DspMl) (t : Task) :
    ((step nbSamples σ t).readFrames = σ.readFrames ∧ Condition nbSamples σ t) ∨
      ∃ i, t = .ml ∧ σ.ml = .copying i ∧ nbSamples ≤ i ∧
        (step nbSamples σ t).readFrames = (σ.swaps - 1) :: σ.readFrames := by
  cases t with
  | dsp =>
    refine Or.inl ⟨?_, trivial⟩
    show (dspStep nbSamples σ).readFrames = _
    unfold dspStep
    split <;> (try split_ifs) <;> rfl
  | ml =>
    show ((mlStep nbSamples σ).readFrames = _ ∧ _) ∨ ∃ i, _
    unfold mlStep Condition
    cases hat : σ.ml with
    | copying i =>
      by_cases hi : i < nbSamples
      · refine Or.inl ⟨by simp [hi], fun j hcopying hj => ?_⟩
        obtain rfl : i = j := MlTask.copying.inj hcopying
        omega
      · refine Or.inr ⟨i, rfl, rfl, not_lt.mp hi, ?_⟩
        show (mlStep nbSamples σ).readFrames = _
        simp [mlStep, hat, hi]
    | taking =>
      refine Or.inl ⟨?_, fun j hcopying => MlTask.noConfusion hcopying⟩
      dsimp only
      split_ifs <;> rfl
    | lockCopy =>
      refine Or.inl ⟨?_, fun j hcopying => MlTask.noConfusion hcopying⟩
      dsimp only
      split_ifs <;> rfl

/-- A step keeps the reads increasing iff it meets the condition. -/
theorem increasing_step_iff (h : Invariant nbSamples σ) (hincreasing : Increasing nbSamples σ)
    (t : Task) : Increasing nbSamples (step nbSamples σ t) ↔ Condition nbSamples σ t := by
  by_cases hsamples : nbSamples = 0
  · refine iff_of_true (increasing_of_noSamples hsamples (invariant_step h t)) ?_
    cases t with
    | dsp => trivial
    | ml => exact fun _ _ _ => Or.inl hsamples
  · rw [increasing_iff_pairwise h hsamples] at hincreasing
    rw [increasing_iff_pairwise (invariant_step h t) hsamples]
    rcases readFrames_step nbSamples σ t with
      ⟨hsame, hcondition⟩ | ⟨i, rfl, hat, hi, hread⟩
    · rw [hsame]
      exact iff_of_true hincreasing hcondition
    · rw [hread, List.pairwise_cons]
      constructor
      · rintro ⟨hlater, -⟩ _ _ _
        right
        by_contra hstale
        have hswaps : σ.swaps ≠ 0 := h.signal (Or.inr (Or.inr (by rw [hat]; simp)))
        have hmem := h.stale (Bool.eq_false_iff.mpr hstale) hswaps
        exact absurd (hlater _ hmem) (lt_irrefl _)
      · intro hcondition
        have hswapped := (hcondition i hat hi).resolve_left hsamples
        exact ⟨fun k hk => h.fresh hswapped k hk, hincreasing⟩

end Steps

/-! ## Runs -/

/-- **The hand-over.** In all states of a run the reads have returned complete
    frames, each later than the ones before, iff every read of the run finds that
    the buffers have been swapped since the last one. -/
theorem increasing_iff (ts : List Task) :
    (∀ pre, pre <+: ts → Increasing nbSamples (run (step nbSamples) init pre)) ↔
      Along (step nbSamples) (Condition nbSamples) init ts := by
  apply forall_prefix_iff_along_of_inv (I := Invariant nbSamples) (J := Increasing nbSamples)
  · exact fun _ t h => invariant_step h t
  · exact fun _ t h hincreasing => increasing_step_iff h hincreasing t
  · exact invariant_init
  · exact ⟨[], rfl, List.Pairwise.nil⟩

/-- The ML task takes no signal between a swap and its signal, and the DSP task
    does not swap between the signal and the copy. -/
def Paired (σ : DspMl) : Task → Prop
  | .dsp => σ.dsp = .swapping → σ.ml = .taking
  | .ml => σ.ml = .taking → σ.dsp ≠ .giving

/-- A signal that is given, or taken, is about a swap since the last read, and
    there is one at a time. -/
structure Signalled (σ : DspMl) : Prop where
  swapped : σ.semaphore = true ∨ σ.dsp = .giving ∨ σ.ml ≠ .taking → σ.swapped = true
  one : σ.ml ≠ .taking → σ.semaphore = false ∧ σ.dsp ≠ .giving

section Paired

variable {nbSamples} {σ : DspMl}

/-- Paired steps of the DSP task. -/
theorem signalled_dspStep (h : Signalled σ) (hpaired : Paired σ .dsp) :
    Signalled (dspStep nbSamples σ) := by
  obtain ⟨hswapped, hone⟩ := h
  unfold dspStep
  cases hat : σ.dsp with
  | swapping =>
    have htaking := hpaired hat
    exact ⟨fun _ => rfl, fun hml => absurd htaking hml⟩
  | giving =>
    have htaking : σ.ml = .taking := by
      by_contra hml
      exact (hone hml).2 hat
    exact ⟨fun _ => hswapped (Or.inr (Or.inl hat)), fun hml => absurd htaking hml⟩
  | copying i =>
    dsimp only
    split_ifs
    · exact ⟨by simpa [hat] using hswapped, fun hml => ⟨(hone hml).1, by simp⟩⟩
    · exact ⟨by simpa [hat] using hswapped, fun hml => ⟨(hone hml).1, by simp⟩⟩
  | _ =>
    dsimp only
    split_ifs
    · exact ⟨by simpa [hat] using hswapped, fun hml => ⟨(hone hml).1, by simp⟩⟩
    · exact ⟨hswapped, hone⟩

/-- Paired steps of the ML task. -/
theorem signalled_mlStep (h : Signalled σ) (hpaired : Paired σ .ml) :
    Signalled (mlStep nbSamples σ) := by
  obtain ⟨hswapped, hone⟩ := h
  unfold mlStep
  cases hat : σ.ml with
  | taking =>
    dsimp only
    split_ifs with hgiven
    · exact ⟨fun _ => hswapped (Or.inl hgiven), fun _ => ⟨rfl, hpaired hat⟩⟩
    · exact ⟨hswapped, hone⟩
  | lockCopy =>
    have hml : σ.ml ≠ .taking := by rw [hat]; simp
    dsimp only
    split_ifs
    · exact ⟨fun _ => hswapped (Or.inr (Or.inr hml)), fun _ => hone hml⟩
    · exact ⟨hswapped, hone⟩
  | copying i =>
    have hml : σ.ml ≠ .taking := by rw [hat]; simp
    obtain ⟨hsemaphore, hgiving⟩ := hone hml
    dsimp only
    split_ifs
    · exact ⟨fun _ => hswapped (Or.inr (Or.inr hml)), fun _ => hone hml⟩
    · exact ⟨by simp [hsemaphore, hgiving], fun hml' => absurd rfl hml'⟩

end Paired

/-- Paired steps meet the condition. -/
theorem along_condition_of_paired (ts : List Task)
    (h : Along (step nbSamples) Paired init ts) :
    Along (step nbSamples) (Condition nbSamples) init ts := by
  have hkept : ∀ (σ : DspMl) (t : Task), Signalled σ → Paired σ t →
      Signalled (step nbSamples σ t) := by
    intro σ t hσ hpaired
    cases t with
    | dsp => exact signalled_dspStep hσ hpaired
    | ml => exact signalled_mlStep hσ hpaired
  refine along_of_inv hkept (fun σ t hσ _ => ?_) ⟨by simp [init], by simp [init]⟩ h
  cases t with
  | dsp => trivial
  | ml => exact fun i hat _ => Or.inr (hσ.swapped (Or.inr (Or.inr (by rw [hat]; simp))))

/-- The DSP task hands over a frame of one sample. -/
def handOver : List Task := List.replicate 6 .dsp

/-- The ML task takes the signal of the first frame and copies after the swap of
    the second one, whose signal it takes too. -/
def swapAfterTake : List Task := handOver ++ [.ml] ++ handOver ++ List.replicate 7 .ml

/-- The second frame is read twice. -/
theorem not_increasing_swapAfterTake : ¬ Increasing 1 (run (step 1) init swapAfterTake) := by
  have hinv : Invariant 1 (run (step 1) init swapAfterTake) :=
    run_inv (I := Invariant 1) (fun _ t h => invariant_step h t) invariant_init _
  rw [increasing_iff_pairwise hinv (by decide)]
  decide

end DspMl

end Corstone.SpeechRecognition
