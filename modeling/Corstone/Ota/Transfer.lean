import Corstone.Lib.History
import Corstone.Ota.EventLoop

/-!
# Transfers

A transfer begins when `initMqttDownloader` sets the block counters for the
file of a job. Only a new job and a file block touch the counters afterwards.

* `processOTAEvents_transfer`: what one event does to the counters and to the
  history of the transfer.
* `written_counters`: a block that is written while blocks are missing moves
  one block from the counter of the missing ones to the counter of the others.
-/

namespace Corstone.Ota

open Corstone.Lib

/-! ## The history of a transfer -/

/-- The file of a job. -/
structure JobFile where
  fileId : UInt32
  fileSize : UInt32
  deriving DecidableEq, Repr

/-- The file whose transfer the call begins. -/
def Call.jobFile : Call → Option JobFile
  | .initMqttDownloader fileId fileSize => some ⟨fileId, fileSize⟩
  | _ => none

/-- The file of the current transfer. -/
def jobFile (log : List Call) : Option JobFile := log.findSome? Call.jobFile

/-- The call begins a transfer. -/
def Call.startsTransfer (c : Call) : Bool := c.jobFile.isSome

/-- Offset and data, when the call wrote a block. -/
def Call.blockWritten : Call → Option (ℕ × Bytes)
  | .otaPalWriteBlock offset data result => if result > 0 then some (offset.toNat, data) else none
  | _ => none

/-- The call emits a `CloseFile` event. -/
def Call.emitsCloseFile : Call → Bool
  | .otaSendEvent .closeFile _ => true
  | _ => false

/-- The blocks written in the current transfer, the latest first. -/
def blocksWritten (log : List Call) : List (ℕ × Bytes) :=
  (since Call.startsTransfer log).filterMap Call.blockWritten

/-- The number of `CloseFile` events emitted in the current transfer. -/
def closeFilesEmitted (log : List Call) : ℕ :=
  (since Call.startsTransfer log).countP Call.emitsCloseFile

/-- The call has no part in the history of a transfer. -/
def Call.transferNeutral (c : Call) : Bool :=
  !(c.startsTransfer || c.blockWritten.isSome || c.emitsCloseFile)

section Neutral

variable {c : Call} {log log' : List Call}

theorem not_startsTransfer_of_neutral (hc : c.transferNeutral = true) :
    c.startsTransfer = false := by
  simp only [Call.transferNeutral, Bool.not_eq_true', Bool.or_eq_false_iff] at hc
  exact hc.1.1

theorem jobFile_cons_of_neutral (hc : c.transferNeutral = true) :
    jobFile (c :: log) = jobFile log := by
  have hstart := not_startsTransfer_of_neutral hc
  simp only [Call.startsTransfer, Option.isSome_eq_false_iff, Option.isNone_iff_eq_none] at hstart
  simp [jobFile, hstart]

theorem blocksWritten_cons_of_neutral (hc : c.transferNeutral = true) :
    blocksWritten (c :: log) = blocksWritten log := by
  have hstart := not_startsTransfer_of_neutral hc
  simp only [Call.transferNeutral, Bool.not_eq_true', Bool.or_eq_false_iff,
    Option.isSome_eq_false_iff, Option.isNone_iff_eq_none] at hc
  simp [blocksWritten, hstart, hc]

theorem closeFilesEmitted_cons_of_neutral (hc : c.transferNeutral = true) :
    closeFilesEmitted (c :: log) = closeFilesEmitted log := by
  have hstart := not_startsTransfer_of_neutral hc
  simp only [Call.transferNeutral, Bool.not_eq_true', Bool.or_eq_false_iff] at hc
  simp [closeFilesEmitted, hstart, hc]

variable (h : Extends Call.transferNeutral log log')
include h

theorem jobFile_extends : jobFile log' = jobFile log := h.eq fun _ _ => jobFile_cons_of_neutral

theorem blocksWritten_extends : blocksWritten log' = blocksWritten log :=
  h.eq fun _ _ => blocksWritten_cons_of_neutral

theorem closeFilesEmitted_extends : closeFilesEmitted log' = closeFilesEmitted log :=
  h.eq fun _ _ => closeFilesEmitted_cons_of_neutral

end Neutral

section Starts

variable (fileId fileSize : UInt32) (log : List Call)

@[simp] theorem jobFile_initMqttDownloader :
    jobFile (.initMqttDownloader fileId fileSize :: log) = some ⟨fileId, fileSize⟩ := rfl

@[simp] theorem blocksWritten_initMqttDownloader :
    blocksWritten (.initMqttDownloader fileId fileSize :: log) = [] := by
  rw [blocksWritten, since_cons_of_pos _ _ rfl, List.filterMap_nil]

@[simp] theorem closeFilesEmitted_initMqttDownloader :
    closeFilesEmitted (.initMqttDownloader fileId fileSize :: log) = 0 := by
  rw [closeFilesEmitted, since_cons_of_pos _ _ rfl, List.countP_nil]

end Starts

section Written

variable (offset : UInt32) (data : Bytes) (result : ℤ) (log : List Call)

@[simp] theorem jobFile_otaPalWriteBlock :
    jobFile (.otaPalWriteBlock offset data result :: log) = jobFile log := rfl

@[simp] theorem closeFilesEmitted_otaPalWriteBlock :
    closeFilesEmitted (.otaPalWriteBlock offset data result :: log) = closeFilesEmitted log := by
  rw [closeFilesEmitted, since_cons_of_neg _ _ rfl, List.countP_cons_of_neg Bool.false_ne_true]
  rfl

theorem blocksWritten_otaPalWriteBlock :
    blocksWritten (.otaPalWriteBlock offset data result :: log) =
      if result > 0 then (offset.toNat, data) :: blocksWritten log else blocksWritten log := by
  rw [blocksWritten, since_cons_of_neg _ _ rfl, List.filterMap_cons]
  by_cases h : result > 0
  · simp [Call.blockWritten, h, blocksWritten]
  · simp [Call.blockWritten, h, blocksWritten]

end Written

section Sent

variable (event : OtaEventMsg) (sent : Bool) (log : List Call)

@[simp] theorem jobFile_otaSendEvent :
    jobFile (.otaSendEvent event sent :: log) = jobFile log := rfl

@[simp] theorem blocksWritten_otaSendEvent :
    blocksWritten (.otaSendEvent event sent :: log) = blocksWritten log := by
  rw [blocksWritten, since_cons_of_neg _ _ rfl, List.filterMap_cons]
  rfl

theorem closeFilesEmitted_otaSendEvent :
    closeFilesEmitted (.otaSendEvent event sent :: log) =
      closeFilesEmitted log + if event = .closeFile then 1 else 0 := by
  rw [closeFilesEmitted, since_cons_of_neg _ _ rfl, List.countP_cons]
  cases event <;> rfl

end Sent

/-! ## What an event does to a transfer -/

section Outcome

variable (L : Libraries) (r : Results) (s : OtaAgent)

/-- The event is handled and touches the transfer: a document that sets up
    another transfer, or a file block. -/
def TouchesTransfer (event : OtaEventMsg) : Prop :=
  s.otaAgentState ≠ .suspended ∧ s.otaAgentState ≠ .stopped ∧
    (event = .receivedJobDocument ∧ StartsTransfer L r s ∨ ∃ i, event = .receivedFileBlock i)

/-- The effects of an event on the counters and on the history of the transfer:
    none, a new transfer, or a file block. -/
inductive TransferOutcome : OtaEventMsg → OtaAgent × Option OtaEventMsg → Prop
  | other {event : OtaEventMsg} {p : OtaAgent × Option OtaEventMsg}
      (huntouched : ¬ TouchesTransfer L r s event) (hdownload : p.1.download = s.download)
      (hlog : Extends Call.transferNeutral s.log p.1.log) (hnext : p.2 ≠ some .closeFile) :
    TransferOutcome event p
  | started {p : OtaAgent × Option OtaEventMsg} {log : List Call}
      (hsuspended : s.otaAgentState ≠ .suspended) (hstopped : s.otaAgentState ≠ .stopped)
      (h : StartsTransfer L r s)
      (hdownload : p.1.download = (initMqttDownloader L r (newJobParsed L s).1).download)
      (hbefore : Extends Call.transferNeutral s.log log)
      (hlog : Extends Call.transferNeutral
        (.initMqttDownloader (newJobParsed L s).1.jobFields.fileId
          (newJobParsed L s).1.jobFields.fileSize :: log) p.1.log)
      (hnext : p.2 ≠ some .closeFile) :
    TransferOutcome .receivedJobDocument p
  | block {i : ℕ} (hsuspended : s.otaAgentState ≠ .suspended)
      (hstopped : s.otaAgentState ≠ .stopped) :
    TransferOutcome (.receivedFileBlock i) (receivedFileBlock L r s i)

theorem jobDocumentProcessed_transfer (result : OtaPalJobDocProcessingResult) :
    (jobDocumentProcessed s result).1.download = s.download ∧
      Extends Call.transferNeutral s.log (jobDocumentProcessed s result).1.log ∧
      (jobDocumentProcessed s result).2 ≠ some .closeFile := by
  have hbase := Extends.refl Call.transferNeutral s.log
  cases result with
  | fileCreated => exact ⟨rfl, (hbase.cons rfl).cons rfl, by simp [jobDocumentProcessed]⟩
  | newImageBooted => exact ⟨rfl, (hbase.cons rfl).cons rfl, by simp [jobDocumentProcessed]⟩
  | fileCreateFailed => exact ⟨rfl, (hbase.cons rfl).cons rfl, by simp [jobDocumentProcessed]⟩
  | newImageBootFailed => exact ⟨rfl, (hbase.cons rfl).cons rfl, by simp [jobDocumentProcessed]⟩
  | processingStateInvalid =>
    exact ⟨rfl, (hbase.cons rfl).cons rfl, by simp [jobDocumentProcessed]⟩

variable {L r s}

/-- The handler leaves the transfer alone, or sets up another one. -/
theorem JobDocumentOutcome.transfer {p : OtaAgent × OtaPalJobDocProcessingResult}
    (h : JobDocumentOutcome L r s p) :
    (¬ StartsTransfer L r s ∧ p.1.download = s.download ∧
        Extends Call.transferNeutral s.log p.1.log) ∨
      StartsTransfer L r s ∧
        p.1.download = (initMqttDownloader L r (newJobParsed L s).1).download ∧
        Extends Call.transferNeutral
          (.initMqttDownloader (newJobParsed L s).1.jobFields.fileId
            (newJobParsed L s).1.jobFields.fileSize :: (newJobParsed L s).1.log) p.1.log := by
  have hbase := Extends.refl Call.transferNeutral s.log
  have hconverted : Extends Call.transferNeutral
      (.initMqttDownloader (newJobParsed L s).1.jobFields.fileId
        (newJobParsed L s).1.jobFields.fileSize :: (newJobParsed L s).1.log)
      (newJobConverted L r s).1.log := by
    rw [newJobConverted_log, initMqttDownloader_log]
    exact ((Extends.refl _ _).cons rfl).cons rfl
  have hverdict := (((hbase.cons (c := .jobIdRecorded (s.jobId L)) rfl).cons
    (c := .jobDocumentParser (newJobParsed L s).2) rfl))
  cases h with
  | noJobId hid => exact Or.inl ⟨fun h => h.newJob.1 hid, rfl, hbase⟩
  | sameJob hid => exact Or.inl ⟨fun h => h.newJob.2 hid.2, rfl, hbase⟩
  | parseFailed hid hparse =>
    exact Or.inl ⟨fun h => by simp [h.parsed] at hparse, rfl, hverdict⟩
  | newImageBooted hid hparse hstate =>
    exact Or.inl ⟨fun h => h.state hstate, rfl, (hverdict.cons rfl).cons rfl⟩
  | newImageBootFailed hid hparse hstate =>
    exact Or.inl ⟨fun h => h.state hstate, rfl, (hverdict.cons rfl).cons rfl⟩
  | signatureFailed htransfer =>
    exact Or.inr ⟨htransfer, newJobConverted_download L r s, hconverted⟩
  | createFailed htransfer =>
    refine Or.inr ⟨htransfer, ?_, ?_⟩
    · rw [otaPalCreateFileForRx_download, newJobConverted_download]
    · rw [otaPalCreateFileForRx_log]
      exact hconverted.cons rfl
  | fileCreated hstart =>
    refine Or.inr ⟨hstart.toStartsTransfer, ?_, ?_⟩
    · rw [otaPalCreateFileForRx_download, newJobConverted_download]
    · rw [otaPalCreateFileForRx_log]
      exact hconverted.cons rfl

variable (L r s)

/-- **What one event does to the transfer.** -/
theorem processOTAEvents_transfer (event : OtaEventMsg) :
    TransferOutcome L r s event (processOTAEvents L r s event) := by
  have hbase := Extends.refl Call.transferNeutral s.log
  have hother : (∀ i, event ≠ .receivedFileBlock i) → event ≠ .receivedJobDocument →
      ¬ TouchesTransfer L r s event := by
    rintro hblock hjob ⟨-, -, ⟨rfl, -⟩ | ⟨i, rfl⟩⟩
    · exact hjob rfl
    · exact hblock i rfl
  cases event with
  | receivedJobDocument =>
    by_cases hrun : s.otaAgentState ≠ .suspended ∧ s.otaAgentState ≠ .stopped
    · have hout := receivedJobDocumentHandler_outcome L r s
      rw [receivedJobDocument_handled L r hrun]
      generalize receivedJobDocumentHandler L r s = p at hout ⊢
      obtain ⟨hdownload, hlog, hnext⟩ := jobDocumentProcessed_transfer p.1 p.2
      rcases hout.transfer with ⟨hnot, hsame, hextends⟩ | ⟨htransfer, hinit, hextends⟩
      · refine .other ?_ (hdownload.trans hsame) (hextends.trans hlog) hnext
        rintro ⟨-, -, ⟨-, hstart⟩ | ⟨i, hblock⟩⟩
        · exact hnot hstart
        · simp at hblock
      · refine .started hrun.1 hrun.2 htransfer (hdownload.trans hinit) ?_ (hextends.trans hlog)
          hnext
        exact (hbase.cons rfl).cons rfl
    · rw [receivedJobDocument_dropped L r hrun]
      exact .other (fun h => hrun ⟨h.1, h.2.1⟩) rfl hbase (by simp)
  | receivedFileBlock i =>
    by_cases hrun : s.otaAgentState ≠ .suspended ∧ s.otaAgentState ≠ .stopped
    · rw [receivedFileBlock_handled L r hrun i]
      exact .block hrun.1 hrun.2
    · rw [receivedFileBlock_dropped L r hrun i]
      exact .other (fun h => hrun ⟨h.1, h.2.1⟩) rfl hbase (by simp)
  | requestJobDocument =>
    exact .other (hother (by simp) (by simp)) rfl (hbase.cons rfl) (by simp [processOTAEvents])
  | requestFileBlock =>
    exact .other (hother (by simp) (by simp)) rfl (hbase.cons rfl) (by simp [processOTAEvents])
  | closeFile =>
    refine .other (hother (by simp) (by simp)) ?_ ?_ ?_
    · simp only [processOTAEvents, otaPalCloseFile]
      split_ifs <;> rfl
    · simp only [processOTAEvents, otaPalCloseFile]
      split_ifs <;> exact hbase.cons rfl
    · simp only [processOTAEvents]
      split_ifs <;> simp
  | activateImage =>
    have hnext : (processOTAEvents L r s .activateImage).2 ≠ some .closeFile := by
      simp only [processOTAEvents]
      split_ifs <;> simp
    rcases processOTAEvents_activateImage L r s with heq | heq
    · refine .other (hother (by simp) (by simp)) ?_ ?_ hnext
      · rw [heq]
        rfl
      · rw [heq]
        exact hbase.cons rfl
    · refine .other (hother (by simp) (by simp)) ?_ ?_ hnext
      · rw [heq]
        rfl
      · rw [heq]
        exact (hbase.cons rfl).cons rfl
  | shutdown =>
    exact .other (hother (by simp) (by simp)) rfl (hbase.cons rfl) (by simp [processOTAEvents])
  | suspend => exact .other (hother (by simp) (by simp)) rfl hbase (by simp [processOTAEvents])
  | resume => exact .other (hother (by simp) (by simp)) rfl hbase (by simp [processOTAEvents])
  | start => exact .other (hother (by simp) (by simp)) rfl hbase (by simp [processOTAEvents])
  | createFile => exact .other (hother (by simp) (by simp)) rfl hbase (by simp [processOTAEvents])
  | userAbort => exact .other (hother (by simp) (by simp)) rfl hbase (by simp [processOTAEvents])

end Outcome

/-- The block that the `switch` is about to handle. -/
def OtaSystem.processedBlock (σ : OtaSystem) : Option ℕ :=
  match σ.task with
  | .processing (.receivedFileBlock i) =>
    if σ.agent.otaAgentState = .suspended ∨ σ.agent.otaAgentState = .stopped then none else some i
  | _ => none

/-! ## Counters -/

/-- No file has more blocks than a counter that is not near its end can hold. -/
theorem numberOfBlocks_toNat (fileSize : UInt32) :
    (numberOfBlocks fileSize).toNat = (fileSize.toNat + 4095) / 4096 := by
  have hsize := fileSize.toNat_lt
  have hblock : blockSize.toNat = 4096 := rfl
  unfold numberOfBlocks
  by_cases h : fileSize % blockSize > 0
  · have hmod : 0 < fileSize.toNat % 4096 := by simpa [UInt32.lt_iff_toNat_lt, hblock] using h
    rw [if_pos h, UInt32.toNat_add, UInt32.toNat_div, hblock]
    simp
    omega
  · have hmod : fileSize.toNat % 4096 = 0 := by
      simpa [UInt32.lt_iff_toNat_lt, hblock] using h
    rw [if_neg h, UInt32.toNat_add, UInt32.toNat_div, hblock]
    simp
    omega

theorem numberOfBlocks_le (fileSize : UInt32) : (numberOfBlocks fileSize).toNat ≤ 2 ^ 20 := by
  have hsize := fileSize.toNat_lt
  rw [numberOfBlocks_toNat]
  omega

/-- Only the empty file has no blocks. -/
theorem numberOfBlocks_ne_zero {fileSize : UInt32} (h : fileSize ≠ 0) :
    numberOfBlocks fileSize ≠ 0 := by
  intro hzero
  have hblocks := numberOfBlocks_toNat fileSize
  rw [hzero] at hblocks
  have hsize : fileSize.toNat ≠ 0 := fun h0 => h (UInt32.toNat_inj.mp h0)
  simp at hblocks
  omega

/-- A block that is written while blocks are missing changes sides. -/
theorem written_counters {d : Download} {result : ℤ} (hresult : result > 0)
    (hmissing : d.numOfBlocksRemaining ≠ 0) (hroom : d.currentBlockOffset.toNat < 2 ^ 20) :
    (d.written result).numOfBlocksRemaining.toNat + 1 = d.numOfBlocksRemaining.toNat ∧
      (d.written result).currentBlockOffset.toNat = d.currentBlockOffset.toNat + 1 := by
  have hpos : d.numOfBlocksRemaining.toNat ≠ 0 := fun h => hmissing (UInt32.toNat_inj.mp h)
  have hlt := d.numOfBlocksRemaining.toNat_lt
  rw [Download.written, if_pos hresult]
  constructor
  · show (d.numOfBlocksRemaining - 1).toNat + 1 = _
    rw [UInt32.toNat_sub]
    simp
    omega
  · show (d.currentBlockOffset + 1).toNat = _
    rw [UInt32.toNat_add]
    simp
    omega

end Corstone.Ota
