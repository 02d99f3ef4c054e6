import Corstone.Bsp.VsiAudioInput
import Corstone.Lib.Run

/-!
# The audio driver on the virtual streaming interface

Model of `Driver_SAI.c`
(`bsp/patches/0001-bsp-Add-CMSIS-Driver-implementation-for-VSI.patch`) over the
device script. `Driver_SAI.h` is a parameter, by what the driver uses of it.

* `ready_iff`: in all states of a run of driver calls, interrupts and timer
  events a transfer finds the file open and frames that are not empty, iff no call
  takes the receiver away while the timer runs, and none starts it unconfigured.
* `timerInterval_eq_iff`: when `Receive` programs the time that a block takes.
-/

namespace Corstone.Bsp

open Corstone.Lib

/-- The control words of `Driver_SAI.h`. -/
structure SaiHeader where
  controlMsk : UInt32
  configureRx : UInt32
  controlRx : UInt32
  protocolMsk : UInt32
  protocolUser : UInt32
  dataSizeMsk : UInt32
  dataSizePos : UInt32
  configureRx_ne : configureRx ≠ controlRx
  configureRx_even : ∀ control, control &&& controlMsk = configureRx → control &&& 1 = 0
  dataSize_lt : ∀ control, ((control &&& dataSizeMsk) >>> dataSizePos).toNat < 32

inductive DriverStatus
  | ok | error | busy | unsupported
  deriving DecidableEq

inductive PowerState
  | off | low | full
  deriving DecidableEq

/-- The registers of the interface and the variables of the driver. -/
structure SaiDriver where
  audioI : VsiAudioInput
  timerControl : UInt32
  timerInterval : UInt32
  dmaControl : UInt32
  dmaAddress : UInt32
  dmaBlockNum : UInt32
  dmaBlockSize : UInt32
  irqEnable : UInt32
  /-- `CB_Event` is not `NULL`. -/
  cbEvent : Bool
  initialized : Bool
  currentPowerState : PowerState
  rxBusy : Bool
  /-- `CB_Event` has been called as `NULL`. -/
  nullCall : Bool

namespace SaiDriver

def init : SaiDriver where
  audioI := VsiAudioInput.init
  timerControl := 0
  timerInterval := 0
  dmaControl := 0
  dmaAddress := 0
  dmaBlockNum := 0
  dmaBlockSize := 0
  irqEnable := 0
  cbEvent := false
  initialized := false
  currentPowerState := .off
  rxBusy := false
  nullCall := false

/-- Zero in all user registers, CONTROL first. -/
def clearRegs (a : VsiAudioInput) : VsiAudioInput :=
  ((((a.wrRegs 0 0).wrRegs 1 0).wrRegs 2 0).wrRegs 3 0).wrRegs 4 0

/-- `ARM_SAI_Initialize` (lines 145–159). -/
def saiInitializeDriver (cb : Bool) (σ : SaiDriver) : DriverStatus × SaiDriver :=
  (.ok, { σ with cbEvent := cb, audioI := clearRegs σ.audioI, initialized := true })

/-- `ARM_SAI_Uninitialize` (lines 161–178). -/
def saiUninitializeDriver (σ : SaiDriver) : DriverStatus × SaiDriver :=
  if σ.initialized = false then (.error, σ)
  else (.ok, { σ with audioI := clearRegs σ.audioI, initialized := false })

/-- `ARM_SAI_PowerControl` (lines 180–225). -/
def saiPowerControl (state : PowerState) (σ : SaiDriver) : DriverStatus × SaiDriver :=
  if σ.initialized = false then (.error, σ)
  else
    match state with
    | .off =>
      (.busy, { σ with
        timerControl := 0
        dmaControl := 0
        irqEnable := 0
        currentPowerState := .off })
    | .low => (.unsupported, { σ with currentPowerState := .low })
    | .full =>
      if σ.currentPowerState ≠ .full then
        (.ok, { σ with dmaControl := 1, irqEnable := 1, currentPowerState := .full })
      else (.ok, σ)

/-- `sample_size` (line 251). -/
def sampleSize (a : VsiAudioInput) : UInt32 := a.rdRegs 1 * (a.rdRegs 2 + 7) / 8

/-- `ARM_SAI_Receive` (lines 227–274). -/
def saiReceive (data num : UInt32) (σ : SaiDriver) : DriverStatus × SaiDriver :=
  if σ.initialized = false then (.error, σ)
  else if σ.rxBusy = true then (.busy, σ)
  else if 0 < num then
    let dmaBlockSize := σ.audioI.rdRegs 4
    let sampleRate := σ.audioI.rdRegs 3
    let timerInterval :=
      if sampleSize σ.audioI = 0 ∨ sampleRate = 0 then 0xFFFFFFFF
      else 1000000 * (dmaBlockSize / sampleSize σ.audioI) / sampleRate
    (.ok, { σ with
      rxBusy := true
      dmaAddress := data
      dmaBlockNum := num
      dmaBlockSize := dmaBlockSize
      timerInterval := timerInterval
      dmaControl := 1
      audioI := σ.audioI.wrRegs 0 1
      timerControl := 15 })
  else (.ok, { σ with rxBusy := true, nullCall := σ.nullCall || !σ.cbEvent })

/-- The registers for the user protocol, with one channel (lines 311–318). -/
def configure (a : VsiAudioInput) (sampleBits blockSize sampleRate : UInt32) : VsiAudioInput :=
  (((a.wrRegs 1 1).wrRegs 2 sampleBits).wrRegs 4 blockSize).wrRegs 3 sampleRate

variable (header : SaiHeader)

/-- `ARM_SAI_Control` (lines 287–326). -/
def saiControl (control arg1 arg2 : UInt32) (σ : SaiDriver) : DriverStatus × SaiDriver :=
  if σ.initialized = false then (.error, σ)
  else
    let a :=
      if control &&& header.controlMsk = header.controlRx then σ.audioI.wrRegs 0 arg1 else σ.audioI
    let a :=
      if control &&& header.controlMsk = header.configureRx then
        let a := a.wrRegs 0 (a.rdRegs 0 ||| control)
        if control &&& header.protocolMsk = header.protocolUser then
          configure a (((control &&& header.dataSizeMsk) >>> header.dataSizePos) + 1) arg1 arg2
        else a
      else a
    (.ok, { σ with audioI := a })

/-- `AudioI_Handler` (lines 115–127). -/
def audioIHandler (σ : SaiDriver) : SaiDriver := { σ with rxBusy := false }

/-- The timer runs, and its overflow makes the DMA read a block. -/
def transferring (σ : SaiDriver) : Bool :=
  σ.timerControl &&& 1 != 0 && σ.timerControl &&& 8 != 0 && σ.dmaControl &&& 1 != 0

/-- The timer overflows. If the script raises, the transfer is lost. -/
def timerEvent (file : WaveFile) (σ : SaiDriver) : SaiDriver :=
  if transferring σ = true then
    match σ.audioI.rdDataDma file σ.dmaBlockSize.toNat with
    | some (_, a) => { σ with audioI := a }
    | none => σ
  else σ

inductive Call
  | saiInitializeDriver (cb : Bool)
  | saiUninitializeDriver
  | saiPowerControl (state : PowerState)
  | saiReceive (data num : UInt32)
  | saiControl (control arg1 arg2 : UInt32)
  | audioIHandler
  | timerEvent

def step (file : WaveFile) (σ : SaiDriver) : Call → SaiDriver
  | .saiInitializeDriver cb => (saiInitializeDriver cb σ).2
  | .saiUninitializeDriver => (saiUninitializeDriver σ).2
  | .saiPowerControl state => (saiPowerControl state σ).2
  | .saiReceive data num => (saiReceive data num σ).2
  | .saiControl control arg1 arg2 => (saiControl header control arg1 arg2 σ).2
  | .audioIHandler => audioIHandler σ
  | .timerEvent => timerEvent file σ

/-- No transfer raises, and no callback is called as `NULL`. -/
def Ready (σ : SaiDriver) : Prop :=
  σ.nullCall = false ∧ (transferring σ = true →
    (∃ pos, σ.audioI.wave = .opened pos) ∧ σ.audioI.frameSize ≠ 0)

/-- What a call needs. -/
def Allowed (σ : SaiDriver) : Call → Prop
  | .saiInitializeDriver _ => transferring σ = false
  | .saiUninitializeDriver => σ.initialized = true → transferring σ = false
  | .saiReceive _ num =>
    σ.initialized = true → σ.rxBusy = false →
      if num = 0 then σ.cbEvent = true else σ.audioI.frameSize ≠ 0
  | .saiControl control arg1 _ =>
    σ.initialized = true → control &&& header.controlMsk = header.controlRx →
      transferring σ = true → enabled arg1 = true
  | _ => True

/-! ## What the calls keep -/

/-- The timer is off, or runs with the DMA, and the driver only knows one
    channel. -/
structure Invariant (σ : SaiDriver) : Prop where
  follows : σ.audioI.Follows
  timer : σ.timerControl = 0 ∨ σ.timerControl = 15 ∧ σ.dmaControl = 1
  channels : σ.audioI.channels = 0 ∨ σ.audioI.channels = 1
  sampleBits : σ.audioI.sampleBits.toNat ≤ 32

theorem follows_clearRegs {a : VsiAudioInput} (h : a.Follows) : (clearRegs a).Follows := by
  have h0 := VsiAudioInput.follows_wrRegs h 0 0
  have h1 := VsiAudioInput.follows_wrRegs h0 1 0
  have h2 := VsiAudioInput.follows_wrRegs h1 2 0
  have h3 := VsiAudioInput.follows_wrRegs h2 3 0
  exact VsiAudioInput.follows_wrRegs h3 4 0

theorem follows_configure {a : VsiAudioInput} (h : a.Follows)
    (sampleBits blockSize sampleRate : UInt32) :
    (configure a sampleBits blockSize sampleRate).Follows := by
  have h1 := VsiAudioInput.follows_wrRegs h 1 1
  have h2 := VsiAudioInput.follows_wrRegs h1 2 sampleBits
  have h4 := VsiAudioInput.follows_wrRegs h2 4 blockSize
  exact VsiAudioInput.follows_wrRegs h4 3 sampleRate

theorem transferring_iff {σ : SaiDriver} (h : Invariant σ) :
    transferring σ = true ↔ σ.timerControl ≠ 0 := by
  unfold transferring
  rcases h.timer with ht | ⟨ht, hd⟩
  · simp [ht]
  · rw [ht, hd]
    decide

/-- Bits that leave the enable bit alone. -/
theorem enabled_or (c : UInt32) {v : UInt32} (hv : v &&& 1 = 0) :
    enabled (c ||| v) = enabled c := by
  have hor : (c ||| v) &&& 1 = c &&& 1 := by
    have hdistrib : (c ||| v) &&& 1 = (c &&& 1) ||| (v &&& 1) := by
      apply UInt32.toNat_inj.mp
      simp only [UInt32.toNat_and, UInt32.toNat_or]
      exact Nat.and_or_distrib_right _ _ _
    rw [hdistrib, hv, UInt32.or_zero]
  rw [enabled, enabled, hor]

section Steps

variable {header} {file : WaveFile} {σ : SaiDriver}

/-- The size of a sample, one more than the field says. -/
theorem toNat_dataSize (header : SaiHeader) (control : UInt32) :
    (((control &&& header.dataSizeMsk) >>> header.dataSizePos) + 1).toNat =
      ((control &&& header.dataSizeMsk) >>> header.dataSizePos).toNat + 1 := by
  have hlt := header.dataSize_lt control
  rw [UInt32.toNat_add, UInt32.toNat_one]
  omega

/-- What `ARM_SAI_Control` does to the registers: the receiver is as told, or the
    enable bit as it was, and frames stay non-empty. -/
structure Controlled (header : SaiHeader) (control arg1 : UInt32) (a a' : VsiAudioInput) :
    Prop where
  follows : a'.Follows
  channels : a'.channels = 0 ∨ a'.channels = 1
  sampleBits : a'.sampleBits.toNat ≤ 32
  enable : enabled a'.control =
    if control &&& header.controlMsk = header.controlRx then enabled arg1 else enabled a.control
  frameSize : a.frameSize ≠ 0 → a'.frameSize ≠ 0

theorem exists_saiControl (header : SaiHeader) (h : Invariant σ) (hinit : σ.initialized = true)
    (control arg1 arg2 : UInt32) :
    ∃ a, saiControl header control arg1 arg2 σ = (.ok, { σ with audioI := a }) ∧
      Controlled header control arg1 σ.audioI a := by
  have hnot : σ.initialized ≠ false := by rw [hinit]; decide
  by_cases hrx : control &&& header.controlMsk = header.controlRx
  · have hconf : ¬ control &&& header.controlMsk = header.configureRx := by
      rw [hrx]
      exact header.configureRx_ne.symm
    refine ⟨σ.audioI.wrRegs 0 arg1, ?_, VsiAudioInput.follows_wrRegs h.follows 0 arg1,
      h.channels, h.sampleBits, ?_, id⟩
    · simp only [saiControl, if_neg hnot, if_pos hrx, if_neg hconf]
    · rw [if_pos hrx]
      rfl
  · by_cases hconf : control &&& header.controlMsk = header.configureRx
    · have henable : enabled (σ.audioI.regs 0 ||| control) = enabled σ.audioI.control := by
        rw [enabled_or _ (header.configureRx_even control hconf), h.follows.control]
      have hfollows := VsiAudioInput.follows_wrRegs h.follows 0 (σ.audioI.regs 0 ||| control)
      by_cases huser : control &&& header.protocolMsk = header.protocolUser
      · have hbits := toNat_dataSize header control
        have hlt := header.dataSize_lt control
        refine ⟨configure (σ.audioI.wrRegs 0 (σ.audioI.regs 0 ||| control))
            (((control &&& header.dataSizeMsk) >>> header.dataSizePos) + 1) arg1 arg2, ?_,
          follows_configure hfollows _ arg1 arg2, Or.inr rfl, ?_, ?_, fun _ => ?_⟩
        · simp only [saiControl, if_neg hnot, if_neg hrx, if_pos hconf, if_pos huser]
          rfl
        · show (((control &&& header.dataSizeMsk) >>> header.dataSizePos) + 1).toNat ≤ 32
          omega
        · rw [if_neg hrx]
          exact henable
        · show (1 : UInt32).toNat *
            (((((control &&& header.dataSizeMsk) >>> header.dataSizePos) + 1).toNat + 7) / 8) ≠ 0
          rw [UInt32.toNat_one]
          omega
      · refine ⟨σ.audioI.wrRegs 0 (σ.audioI.regs 0 ||| control), ?_, hfollows, h.channels,
          h.sampleBits, ?_, id⟩
        · simp only [saiControl, if_neg hnot, if_neg hrx, if_pos hconf, if_neg huser]
          rfl
        · rw [if_neg hrx]
          exact henable
    · refine ⟨σ.audioI, ?_, h.follows, h.channels, h.sampleBits, ?_, id⟩
      · simp only [saiControl, if_neg hnot, if_neg hrx, if_neg hconf]
      · rw [if_neg hrx]

/-- A transfer keeps everything but the place in the file. -/
theorem timerEvent_cases (file : WaveFile) (σ : SaiDriver) :
    timerEvent file σ = σ ∨ ∃ pos pos', σ.audioI.wave = .opened pos ∧
      timerEvent file σ = { σ with audioI := { σ.audioI with wave := .opened pos' } } := by
  unfold timerEvent
  split_ifs with htransfer
  · cases hread : σ.audioI.rdDataDma file σ.dmaBlockSize.toNat with
    | none => exact Or.inl rfl
    | some r =>
      have hsome := (VsiAudioInput.rdDataDma_isSome_iff file σ.audioI σ.dmaBlockSize.toNat).mp
        (by rw [hread]; rfl)
      obtain ⟨⟨pos, hwave⟩, hsize⟩ := hsome
      rw [VsiAudioInput.rdDataDma_eq hwave hsize] at hread
      obtain rfl := Option.some.inj hread
      exact Or.inr ⟨pos, _, hwave, rfl⟩
  · exact Or.inl rfl

theorem invariant_init : Invariant init where
  follows := VsiAudioInput.follows_init
  timer := Or.inl rfl
  channels := Or.inl rfl
  sampleBits := by decide

/-- Every call keeps the invariant. -/
theorem invariant_step (h : Invariant σ) (c : Call) : Invariant (step header file σ c) := by
  cases c with
  | saiInitializeDriver cb =>
    refine ⟨follows_clearRegs h.follows, h.timer, Or.inl rfl, ?_⟩
    show (0 : UInt32).toNat ≤ 32
    decide
  | saiUninitializeDriver =>
    simp only [step, saiUninitializeDriver]
    split_ifs
    · exact h
    · exact ⟨follows_clearRegs h.follows, h.timer, Or.inl rfl,
        by show (0 : UInt32).toNat ≤ 32; decide⟩
  | saiPowerControl state =>
    cases state with
    | off =>
      simp only [step, saiPowerControl]
      split_ifs
      · exact h
      · exact ⟨h.follows, Or.inl rfl, h.channels, h.sampleBits⟩
    | low =>
      simp only [step, saiPowerControl]
      split_ifs
      · exact h
      · exact ⟨h.follows, h.timer, h.channels, h.sampleBits⟩
    | full =>
      simp only [step, saiPowerControl]
      split_ifs
      · exact h
      · exact ⟨h.follows, h.timer.imp_right fun ht => ⟨ht.1, rfl⟩, h.channels, h.sampleBits⟩
      · exact h
  | saiReceive data num =>
    simp only [step, saiReceive]
    split_ifs
    · exact h
    · exact h
    · exact ⟨VsiAudioInput.follows_wrRegs h.follows 0 1, Or.inr ⟨rfl, rfl⟩, h.channels,
        h.sampleBits⟩
    · exact ⟨VsiAudioInput.follows_wrRegs h.follows 0 1, Or.inr ⟨rfl, rfl⟩, h.channels,
        h.sampleBits⟩
    · exact ⟨h.follows, h.timer, h.channels, h.sampleBits⟩
  | saiControl control arg1 arg2 =>
    by_cases hinit : σ.initialized = true
    · obtain ⟨a, hstep, hcontrolled⟩ :=
        exists_saiControl header h hinit control arg1 arg2
      rw [step, hstep]
      exact ⟨hcontrolled.follows, h.timer, hcontrolled.channels, hcontrolled.sampleBits⟩
    · rw [step, saiControl, if_pos (Bool.eq_false_iff.mpr hinit)]
      exact h
  | audioIHandler => exact ⟨h.follows, h.timer, h.channels, h.sampleBits⟩
  | timerEvent =>
    rw [step]
    rcases timerEvent_cases file σ with hsame | ⟨pos, pos', hwave, hstep⟩
    · rw [hsame]
      exact h
    · rw [hstep]
      refine ⟨⟨h.follows.control, h.follows.channels, h.follows.sampleBits, h.follows.sampleRate,
        h.follows.blockSize, ?_⟩, h.timer, h.channels, h.sampleBits⟩
      exact iff_of_true ⟨pos', rfl⟩ (h.follows.opened.mp ⟨pos, hwave⟩)

/-- The file is closed when the registers are cleared. -/
theorem not_opened_clearRegs {a : VsiAudioInput} (h : a.Follows) :
    ¬ ∃ pos, (clearRegs a).wave = .opened pos := by
  rw [(follows_clearRegs h).opened]
  show ¬ enabled 0 = true
  decide

/-- The registers are cleared under the timer or not. -/
theorem ready_clear_iff (h : Invariant σ) (hready : Ready σ) (cb initialized : Bool) :
    Ready { σ with cbEvent := cb, audioI := clearRegs σ.audioI, initialized := initialized } ↔
      transferring σ = false := by
  constructor
  · rintro ⟨-, hopen⟩
    by_contra htransfer
    exact not_opened_clearRegs h.follows (hopen (Bool.eq_true_of_not_eq_false htransfer)).1
  · intro htransfer
    refine ⟨hready.1, fun htransfer' => ?_⟩
    have htrue : transferring σ = true := htransfer'
    rw [htransfer] at htrue
    exact absurd htrue (by decide)

/-- A call leaves the driver ready iff it is allowed. -/
theorem ready_step_iff (h : Invariant σ) (hready : Ready σ) (c : Call) :
    Ready (step header file σ c) ↔ Allowed header σ c := by
  cases c with
  | saiInitializeDriver cb => exact ready_clear_iff h hready cb true
  | saiUninitializeDriver =>
    simp only [step, saiUninitializeDriver, Allowed]
    split_ifs with hinit
    · exact iff_of_true hready fun htrue => absurd (hinit ▸ htrue) (by decide)
    · rw [show σ.initialized = true from Bool.eq_true_of_not_eq_false hinit]
      exact (ready_clear_iff h hready σ.cbEvent false).trans (by simp)
  | saiPowerControl state =>
    refine iff_of_true ?_ trivial
    cases state with
    | off =>
      simp only [step, saiPowerControl]
      split_ifs
      · exact hready
      · exact ⟨hready.1, fun htransfer => absurd htransfer (by simp [transferring])⟩
    | low =>
      simp only [step, saiPowerControl]
      split_ifs <;> exact hready
    | full =>
      simp only [step, saiPowerControl]
      split_ifs
      · exact hready
      · -- the timer only runs with the DMA, so enabling it changes nothing
        refine ⟨hready.1, fun htransfer => hready.2 ?_⟩
        rw [transferring_iff h]
        intro hzero
        simp [transferring, hzero] at htransfer
      · exact hready
  | saiReceive data num =>
    by_cases hinit : σ.initialized = true
    · by_cases hbusy : σ.rxBusy = true
      · simp [step, saiReceive, Allowed, hinit, hbusy, hready]
      · have hfree := Bool.eq_false_iff.mpr hbusy
        by_cases hnum : num = 0
        · subst hnum
          rw [step, saiReceive, if_neg (by simp [hinit]), if_neg hbusy, if_neg (by decide)]
          simp only [Allowed, hinit, hfree, forall_const, if_true]
          constructor
          · rintro ⟨hcall, -⟩
            simpa [hready.1] using hcall
          · intro hcb
            refine ⟨?_, hready.2⟩
            show (σ.nullCall || !σ.cbEvent) = false
            rw [hready.1, hcb]
            rfl
        · have hpos : 0 < num := UInt32.pos_iff_ne_zero.mpr hnum
          rw [step, saiReceive, if_neg (by simp [hinit]), if_neg hbusy, if_pos hpos]
          simp only [Allowed, hinit, hfree, forall_const, if_neg hnum]
          have hopened : ∃ pos, (σ.audioI.wrRegs 0 1).wave = .opened pos := by
            rw [(VsiAudioInput.follows_wrRegs h.follows 0 1).opened]
            show enabled 1 = true
            decide
          constructor
          · rintro ⟨-, htransfer⟩
            exact (htransfer (by simp only [transferring]; decide)).2
          · exact fun hsize => ⟨hready.1, fun _ => ⟨hopened, hsize⟩⟩
    · simp [step, saiReceive, Allowed, hinit, hready]
  | saiControl control arg1 arg2 =>
    by_cases hinit : σ.initialized = true
    · obtain ⟨a, hstep, hcontrolled⟩ :=
        exists_saiControl header h hinit control arg1 arg2
      rw [step, hstep]
      have henable := hcontrolled.enable
      simp only [Allowed, hinit, forall_const]
      constructor
      · rintro ⟨-, hopen⟩ hrx htransfer
        have hopened := hcontrolled.follows.opened.mp (hopen htransfer).1
        rwa [henable, if_pos hrx] at hopened
      · intro hallowed
        refine ⟨hready.1, fun htransfer => ?_⟩
        have htransfer' : transferring σ = true := htransfer
        obtain ⟨hopened, hsize⟩ := hready.2 htransfer'
        refine ⟨hcontrolled.follows.opened.mpr ?_, hcontrolled.frameSize hsize⟩
        rw [henable]
        split_ifs with hrx
        · exact hallowed hrx htransfer'
        · exact h.follows.opened.mp hopened
    · simp [step, saiControl, Allowed, hinit, hready]
  | audioIHandler => exact iff_of_true hready trivial
  | timerEvent =>
    refine iff_of_true ?_ trivial
    rw [step]
    rcases timerEvent_cases file σ with hsame | ⟨pos, pos', hwave, hstep⟩
    · rw [hsame]
      exact hready
    · rw [hstep]
      exact ⟨hready.1, fun htransfer => ⟨⟨pos', rfl⟩, (hready.2 htransfer).2⟩⟩

end Steps

/-- **The receiver.** In all states of a run no transfer raises and no callback is
    called as `NULL`, iff no call takes the registers or the receiver away under
    the running timer, and each reception starts with a configured frame or finds a
    callback. -/
theorem ready_iff (file : WaveFile) (cs : List Call) :
    (∀ pre, pre <+: cs → Ready (run (step header file) init pre)) ↔
      Along (step header file) (Allowed header) init cs := by
  apply forall_prefix_iff_along_of_inv (I := Invariant) (J := Ready)
  · exact fun _ c h => invariant_step h c
  · exact fun _ c h hready => ready_step_iff h hready c
  · exact invariant_init
  · exact ⟨rfl, fun htransfer => absurd htransfer (by decide)⟩

/-! ## The timer -/

/-- The driver and the script count the same bytes for a frame. -/
theorem toNat_sampleSize {σ : SaiDriver} (h : Invariant σ) (hsize : σ.audioI.frameSize ≠ 0) :
    (sampleSize σ.audioI).toNat = σ.audioI.frameSize := by
  have hchannels : σ.audioI.channels = 1 := by
    refine h.channels.resolve_left fun hzero => hsize ?_
    rw [VsiAudioInput.frameSize, hzero, UInt32.toNat_zero, Nat.zero_mul]
  have hbits := h.sampleBits
  rw [sampleSize, VsiAudioInput.rdRegs, VsiAudioInput.rdRegs, h.follows.channels,
    h.follows.sampleBits, VsiAudioInput.frameSize, hchannels, UInt32.one_mul, UInt32.toNat_div,
    UInt32.toNat_add, UInt32.toNat_one, Nat.one_mul]
  show (σ.audioI.sampleBits.toNat + 7) % 2 ^ 32 / 8 = _
  rw [Nat.mod_eq_of_lt (by omega)]

/-- The quotient of a dividend that has wrapped is too small. -/
theorem mod_div_lt_div {m x r : ℕ} (hr : 0 < r) (hrm : r ≤ m) (hge : m ≤ x) :
    x % m / r < x / r := by
  have hmod := Nat.mod_lt x (hr.trans_le hrm)
  have hle : x % m + r ≤ x := by
    have hdiv := Nat.div_add_mod x m
    have hpos : 1 ≤ x / m := Nat.div_pos hge (hr.trans_le hrm)
    have hmul : m ≤ m * (x / m) := Nat.le_mul_of_pos_right m hpos
    omega
  have hnext : (x % m + r) / r = x % m / r + 1 := Nat.add_div_right _ hr
  have hmono : (x % m + r) / r ≤ x / r := Nat.div_le_div_right hle
  omega

/-- A quotient is that of a wrapped dividend iff nothing wraps. -/
theorem mod_div_eq_div_iff {m x r : ℕ} (hr : 0 < r) (hrm : r ≤ m) :
    x % m / r = x / r ↔ x < m := by
  constructor
  · intro heq
    by_contra hge
    exact (mod_div_lt_div hr hrm (not_lt.mp hge)).ne heq
  · intro hlt
    rw [Nat.mod_eq_of_lt hlt]

/-- **The timer.** In every state that a run of calls reaches, a reception that
    starts with a configured frame programs the microseconds that a block takes iff
    a block has at most 4294 frames, and fewer for a block that has more. -/
theorem timerInterval_eq_iff (file : WaveFile) (cs : List Call) (data num : UInt32)
    (hinit : (run (step header file) init cs).initialized = true)
    (hfree : (run (step header file) init cs).rxBusy = false) (hnum : 0 < num)
    (hsize : (run (step header file) init cs).audioI.frameSize ≠ 0)
    (hrate : (run (step header file) init cs).audioI.sampleRate ≠ 0) :
    ((step header file (run (step header file) init cs)
        (.saiReceive data num)).timerInterval.toNat =
      1000000 * ((run (step header file) init cs).audioI.blockSize.toNat /
        (run (step header file) init cs).audioI.frameSize) /
          (run (step header file) init cs).audioI.sampleRate.toNat ↔
    (run (step header file) init cs).audioI.blockSize.toNat /
      (run (step header file) init cs).audioI.frameSize ≤ 4294) ∧
    (4294 < (run (step header file) init cs).audioI.blockSize.toNat /
        (run (step header file) init cs).audioI.frameSize →
      (step header file (run (step header file) init cs)
          (.saiReceive data num)).timerInterval.toNat <
        1000000 * ((run (step header file) init cs).audioI.blockSize.toNat /
          (run (step header file) init cs).audioI.frameSize) /
            (run (step header file) init cs).audioI.sampleRate.toNat) := by
  have h : Invariant (run (step header file) init cs) :=
    run_inv (I := Invariant) (fun _ c h => invariant_step h c) invariant_init cs
  generalize run (step header file) init cs = σ at *
  have hsample := toNat_sampleSize h hsize
  have hsampleNe : sampleSize σ.audioI ≠ 0 := by
    intro hzero
    rw [hzero, UInt32.toNat_zero] at hsample
    exact hsize hsample.symm
  have hratePos : 0 < σ.audioI.sampleRate.toNat := by
    rw [Nat.pos_iff_ne_zero]
    intro hzero
    exact hrate (UInt32.toNat_inj.mp hzero)
  have hrateLt := σ.audioI.sampleRate.toNat_lt
  have hinterval : (step header file σ (.saiReceive data num)).timerInterval =
      1000000 * (σ.audioI.blockSize / sampleSize σ.audioI) / σ.audioI.sampleRate := by
    rw [step, saiReceive, if_neg (by simp [hinit]), if_neg (by simp [hfree]), if_pos hnum]
    simp only [VsiAudioInput.rdRegs, h.follows.sampleRate, h.follows.blockSize]
    rw [if_neg (by simp [hsampleNe, hrate])]
  rw [hinterval, UInt32.toNat_div, UInt32.toNat_mul, UInt32.toNat_div, hsample]
  constructor
  · show 1000000 * _ % 2 ^ 32 / _ = _ ↔ _
    rw [mod_div_eq_div_iff hratePos hrateLt.le]
    omega
  · intro hmany
    show 1000000 * _ % 2 ^ 32 / _ < _
    exact mod_div_lt_div hratePos hrateLt.le (by omega)

/-- The control words that CMSIS defines. -/
def cmsis : SaiHeader where
  controlMsk := 0xFF
  configureRx := 2
  controlRx := 4
  protocolMsk := 0x1C00
  protocolUser := 0
  dataSizeMsk := 0x3E000
  dataSizePos := 13
  configureRx_ne := by decide
  configureRx_even := by
    intro control h
    have hmask : control &&& 1 = (control &&& 0xFF) &&& 1 := by
      rw [UInt32.and_assoc]
      rfl
    rw [hmask, h]
    decide
  dataSize_lt := by
    intro control
    rw [UInt32.toNat_shiftRight, UInt32.toNat_and]
    show (control.toNat &&& 0x3E000) >>> 13 < 32
    rw [Nat.shiftRight_eq_div_pow]
    have hle : control.toNat &&& 0x3E000 ≤ 0x3E000 := Nat.and_le_right
    omega

/-- The calls of `prvAudioDrvSetup` before the reception
    (`speech_recognition/dsp/src/dsp_task.cc`, lines 74–101). -/
def setup : List Call :=
  [.saiInitializeDriver true, .saiPowerControl .full, .saiControl 4 1 0,
    .saiControl 0x1E002 3200 16000]

/-- The same calls for blocks of 4296 samples. -/
def longSetup : List Call :=
  [.saiInitializeDriver true, .saiPowerControl .full, .saiControl 4 1 0,
    .saiControl 0x1E002 8592 16000]

/-- The applications' blocks of 1600 samples take 100 ms; the interval for blocks of 4296 samples
    is 64 microseconds. -/
theorem timerInterval_eq_iff_setup :
    (step cmsis ⟨2, []⟩ (run (step cmsis ⟨2, []⟩) init setup)
        (.saiReceive 0 4)).timerInterval.toNat = 100000 ∧
      (step cmsis ⟨2, []⟩ (run (step cmsis ⟨2, []⟩) init longSetup)
          (.saiReceive 0 4)).timerInterval.toNat <
        1000000 * ((run (step cmsis ⟨2, []⟩) init longSetup).audioI.blockSize.toNat /
          (run (step cmsis ⟨2, []⟩) init longSetup).audioI.frameSize) /
            (run (step cmsis ⟨2, []⟩) init longSetup).audioI.sampleRate.toNat ∧
      (step cmsis ⟨2, []⟩ (run (step cmsis ⟨2, []⟩) init longSetup)
          (.saiReceive 0 4)).timerInterval.toNat = 64 :=
  ⟨(timerInterval_eq_iff cmsis ⟨2, []⟩ setup 0 4 (by decide) (by decide) (by decide) (by decide)
      (by decide)).1.mpr (by decide),
    (timerInterval_eq_iff cmsis ⟨2, []⟩ longSetup 0 4 (by decide) (by decide) (by decide)
      (by decide) (by decide)).2 (by decide), by decide⟩

end SaiDriver

end Corstone.Bsp
