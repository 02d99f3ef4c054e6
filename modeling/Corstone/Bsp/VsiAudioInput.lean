import Mathlib

/-!
# The audio input of the virtual streaming interface

Model of the device script `tools/scripts/arm_vsi0.py`: the user registers, the
WAVE file behind the enable bit of CONTROL, and the data of the transfers.

* `follows_wrRegs`: the file is open iff the receiver is enabled.
* `rdAll_eq`: the blocks of any number of transfers.
* `flatten_rdAll`: where the blocks consist of frames, they are the file from its
  start, and zeros behind its end.
-/

namespace Corstone.Bsp

/-- A WAVE file, by the bytes of its frames. -/
structure WaveFile where
  frameSize : ℕ
  data : List UInt8

/-- The global `WAVE`, with the bytes that have been read. -/
inductive Wave
  | undefined
  | opened (pos : ℕ)
  | closed
  deriving DecidableEq

/-- The globals of the script. -/
structure VsiAudioInput where
  control : UInt32
  channels : UInt32
  sampleBits : UInt32
  sampleRate : UInt32
  blockSize : UInt32
  regs : ℕ → UInt32
  wave : Wave

/-- `value & CONTROL_ENABLE_Msk != 0`. -/
def enabled (value : UInt32) : Bool := value &&& 1 != 0

namespace VsiAudioInput

def init : VsiAudioInput where
  control := 0
  channels := 0
  sampleBits := 0
  sampleRate := 0
  blockSize := 0
  regs := fun _ => 0
  wave := .undefined

/-- `wrCONTROL` (lines 201–210). -/
def wrControl (σ : VsiAudioInput) (value : UInt32) : VsiAudioInput :=
  let wave :=
    if (value ^^^ σ.control) &&& 1 ≠ 0 then
      if value &&& 1 ≠ 0 then Wave.opened 0 else Wave.closed
    else σ.wave
  { σ with wave := wave, control := value }

/-- `wrRegs` (lines 262–280). -/
def wrRegs (σ : VsiAudioInput) (index : ℕ) (value : UInt32) : VsiAudioInput :=
  let σ :=
    match index with
    | 0 => σ.wrControl value
    | 1 => { σ with channels := value }
    | 2 => { σ with sampleBits := value }
    | 3 => { σ with sampleRate := value }
    | 4 => { σ with blockSize := value }
    | _ => σ
  { σ with regs := Function.update σ.regs index value }

/-- `rdRegs` (lines 248–255). -/
def rdRegs (σ : VsiAudioInput) (index : ℕ) : UInt32 := σ.regs index

/-- The bytes of a frame, as the script counts them (line 96). -/
def frameSize (σ : VsiAudioInput) : ℕ := σ.channels.toNat * ((σ.sampleBits.toNat + 7) / 8)

/-- `readWAVE` (lines 77–81). A file that is not open raises. -/
def readWave (file : WaveFile) (σ : VsiAudioInput) (n : ℕ) :
    Option (List UInt8 × VsiAudioInput) :=
  match σ.wave with
  | .opened pos =>
    let frames := (file.data.drop pos).take (n * file.frameSize)
    some (frames, { σ with wave := .opened (pos + frames.length) })
  | _ => none

/-- `loadAudioFrames` (lines 93–98), with the division by zero. -/
def loadAudioFrames (file : WaveFile) (σ : VsiAudioInput) (size : ℕ) :
    Option (List UInt8 × VsiAudioInput) :=
  if σ.frameSize = 0 then none else σ.readWave file (size / σ.frameSize)

/-- The data, cut and filled up with zeros (lines 178–180). -/
def fit (size : ℕ) (data : List UInt8) : List UInt8 :=
  data.take size ++ List.replicate (size - data.length) 0

/-- `rdDataDMA` (lines 172–183). -/
def rdDataDma (file : WaveFile) (σ : VsiAudioInput) (size : ℕ) :
    Option (List UInt8 × VsiAudioInput) :=
  (σ.loadAudioFrames file size).map fun (data, σ) => (fit size data, σ)

/-- The blocks of `n` transfers. -/
def rdAll (file : WaveFile) (size : ℕ) (σ : VsiAudioInput) : ℕ → Option (List (List UInt8))
  | 0 => some []
  | n + 1 => do
    let (block, σ) ← σ.rdDataDma file size
    let blocks ← rdAll file size σ n
    return block :: blocks

/-! ## The enable bit -/

theorem and_one (value : UInt32) : value &&& 1 = 0 ∨ value &&& 1 = 1 := by
  have h : (value &&& 1).toNat = value.toNat % 2 := by
    rw [UInt32.toNat_and]
    exact Nat.and_one_is_mod _
  rcases Nat.mod_two_eq_zero_or_one value.toNat with h0 | h1
  · exact Or.inl (UInt32.toNat_inj.mp (h.trans h0))
  · exact Or.inr (UInt32.toNat_inj.mp (h.trans h1))

/-- The bit changes iff it is not the same in both values. -/
theorem xor_and_one (v c : UInt32) : (v ^^^ c) &&& 1 = (v &&& 1) ^^^ (c &&& 1) := by
  apply UInt32.toNat_inj.mp
  simp only [UInt32.toNat_and, UInt32.toNat_xor]
  exact Nat.and_xor_distrib_right

/-- The registers are what was written, and the file follows the enable bit. -/
structure Follows (σ : VsiAudioInput) : Prop where
  control : σ.regs 0 = σ.control
  channels : σ.regs 1 = σ.channels
  sampleBits : σ.regs 2 = σ.sampleBits
  sampleRate : σ.regs 3 = σ.sampleRate
  blockSize : σ.regs 4 = σ.blockSize
  opened : (∃ pos, σ.wave = .opened pos) ↔ enabled σ.control = true

theorem follows_init : Follows init where
  control := rfl
  channels := rfl
  sampleBits := rfl
  sampleRate := rfl
  blockSize := rfl
  opened := by
    constructor
    · rintro ⟨pos, h⟩
      exact Wave.noConfusion h
    · exact fun h => absurd h (by decide)

theorem opened_wrControl {σ : VsiAudioInput} (h : Follows σ) (value : UInt32) :
    (∃ pos, (σ.wrControl value).wave = .opened pos) ↔ enabled value = true := by
  unfold wrControl
  dsimp only
  rw [xor_and_one]
  have hopened := h.opened
  unfold enabled at hopened ⊢
  rcases and_one value with hv | hv <;> rcases and_one σ.control with hc | hc <;>
    rw [hv, hc] <;> rw [hc] at hopened <;> simp_all

/-- Every write keeps the file with the enable bit. -/
theorem follows_wrRegs {σ : VsiAudioInput} (h : Follows σ) (index : ℕ) (value : UInt32) :
    Follows (σ.wrRegs index value) := by
  have hwave := opened_wrControl h value
  obtain ⟨hcontrol, hchannels, hbits, hrate, hblock, hopened⟩ := h
  match index with
  | 0 =>
    refine ⟨?_, ?_, ?_, ?_, ?_, hwave⟩ <;>
      simp [wrRegs, wrControl, hchannels, hbits, hrate, hblock]
  | 1 => constructor <;> simp [wrRegs, hcontrol, hbits, hrate, hblock, hopened]
  | 2 => constructor <;> simp [wrRegs, hcontrol, hchannels, hrate, hblock, hopened]
  | 3 => constructor <;> simp [wrRegs, hcontrol, hchannels, hbits, hblock, hopened]
  | 4 => constructor <;> simp [wrRegs, hcontrol, hchannels, hbits, hrate, hopened]
  | n + 5 => constructor <;> simp [wrRegs, hcontrol, hchannels, hbits, hrate, hblock, hopened]

/-! ## The transfers -/

/-- A transfer has data iff the file is open and the frame size is not zero. -/
theorem rdDataDma_isSome_iff (file : WaveFile) (σ : VsiAudioInput) (size : ℕ) :
    (σ.rdDataDma file size).isSome = true ↔
      (∃ pos, σ.wave = .opened pos) ∧ σ.frameSize ≠ 0 := by
  unfold rdDataDma loadAudioFrames readWave
  by_cases hzero : σ.frameSize = 0
  · simp [hzero]
  · cases hwave : σ.wave <;> simp [hzero]

theorem fit_take (size : ℕ) (data : List UInt8) : fit size (data.take size) = fit size data := by
  have hzeros : size - min size data.length = size - data.length := by omega
  rw [fit, fit, List.take_take, Nat.min_self, List.length_take, hzeros]

/-- Two blocks that follow each other are one. -/
theorem fit_add (m n : ℕ) (data : List UInt8) :
    fit m data ++ fit n (data.drop m) = fit (m + n) data := by
  unfold fit
  rw [List.length_drop]
  rcases Nat.le_total data.length m with hshort | hlong
  · rw [List.take_of_length_le hshort, List.drop_eq_nil_of_le hshort,
      List.take_of_length_le (hshort.trans (Nat.le_add_right m n)), List.take_nil,
      List.nil_append, List.append_assoc, List.replicate_append_replicate]
    congr 2
    omega
  · have hnone : m - data.length = 0 := by omega
    have hrest : n - (data.length - m) = m + n - data.length := by omega
    rw [hnone, hrest, List.replicate_zero, List.append_nil, ← List.append_assoc,
      ← List.take_add]

variable {file : WaveFile} {σ : VsiAudioInput}

/-- A transfer of an open file with frames of the size of the file. -/
theorem rdDataDma_eq {pos : ℕ} (hwave : σ.wave = .opened pos) (hsize : σ.frameSize ≠ 0)
    (size : ℕ) : σ.rdDataDma file size =
      some (fit size ((file.data.drop pos).take (size / σ.frameSize * file.frameSize)),
        { σ with wave := .opened (pos +
          ((file.data.drop pos).take (size / σ.frameSize * file.frameSize)).length) }) := by
  rw [rdDataDma, loadAudioFrames, if_neg hsize, readWave, hwave]
  rfl

/-- **The blocks.** With frames of the size of the file, the transfers take whole
    frames from it one after the other, each block filled up with zeros. -/
theorem rdAll_eq {pos : ℕ} (hwave : σ.wave = .opened pos) (hsize : σ.frameSize ≠ 0)
    (hframe : σ.frameSize = file.frameSize) (size n : ℕ) :
    rdAll file size σ n = some ((List.range n).map fun k =>
      fit size ((file.data.drop (pos + k * (size / file.frameSize * file.frameSize))).take
        (size / file.frameSize * file.frameSize))) := by
  induction n generalizing σ pos with
  | zero => rfl
  | succ n ih =>
    rw [rdAll, rdDataDma_eq hwave hsize, hframe]
    generalize hstep : size / file.frameSize * file.frameSize = bytes
    have hrest := ih (σ := { σ with wave := .opened (pos +
      ((file.data.drop pos).take bytes).length) }) rfl hsize hframe
    rw [hstep] at hrest
    simp only [Option.bind_eq_bind, Option.bind_some, hrest, Option.pure_def,
      List.range_succ_eq_map, List.map_cons, List.map_map, Nat.zero_mul, Nat.add_zero]
    congr 2
    apply List.map_congr_left
    intro k _
    show fit size ((file.data.drop (pos + ((file.data.drop pos).take bytes).length +
      k * bytes)).take bytes) = fit size ((file.data.drop (pos + (k + 1) * bytes)).take bytes)
    -- behind the end of the file both are empty
    rcases Nat.le_total (pos + bytes) file.data.length with hin | hout
    · have hlength : ((file.data.drop pos).take bytes).length = bytes := by
        rw [List.length_take, List.length_drop]
        omega
      rw [hlength, show pos + bytes + k * bytes = pos + (k + 1) * bytes by ring]
    · rw [List.drop_eq_nil_of_le, List.drop_eq_nil_of_le]
      · have hmul : (k + 1) * bytes = k * bytes + bytes := by ring
        omega
      · rw [List.length_take, List.length_drop]
        omega

/-- **The samples.** Blocks that consist of frames are the file from its start,
    and zeros behind its end. -/
theorem flatten_rdAll (hwave : σ.wave = .opened 0) (hsize : σ.frameSize ≠ 0)
    (hframe : σ.frameSize = file.frameSize) {size : ℕ} (hdvd : file.frameSize ∣ size) (n : ℕ) :
    (rdAll file size σ n).map List.flatten = some (fit (n * size) file.data) := by
  rw [rdAll_eq hwave hsize hframe, Nat.div_mul_cancel hdvd, Option.map_some]
  congr 1
  induction n with
  | zero => simp [fit]
  | succ n ih =>
    have hsum : (n + 1) * size = n * size + size := by ring
    rw [List.range_succ, List.map_append, List.flatten_append, ih, hsum, ← fit_add]
    simp only [List.map_cons, List.map_nil, List.flatten_cons, List.flatten_nil,
      List.append_nil, Nat.zero_add, fit_take]

/-- Three samples of two bytes, in two blocks of two samples. -/
theorem flatten_rdAll_two :
    (rdAll ⟨2, [1, 2, 3, 4, 5, 6]⟩ 4
      { init with channels := 1, sampleBits := 16, wave := .opened 0 } 2).map List.flatten =
        some (fit (2 * 4) [1, 2, 3, 4, 5, 6]) :=
  flatten_rdAll rfl (by decide) (by decide) (by decide) 2

end VsiAudioInput

end Corstone.Bsp
