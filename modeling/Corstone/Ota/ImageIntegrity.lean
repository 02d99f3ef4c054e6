import Corstone.Ota.JsonDevice
import Corstone.Ota.Transfer

/-!
# Integrity of the downloaded image

When `CloseFile` is emitted, the writes of the transfer are the blocks of the
file, each once and at its place. The agent writes every data message at a
running offset and looks at neither the file id nor the block id in it, so that
the blocks are right only if the messages are.

* `imageIntegrity_of_condition`: the image is right in every run in which each
  block that is written is the one the counters wait for.
* `not_imageIntegrity_otherFile`: it is wrong when a block of another file
  arrives.
-/

namespace Corstone.Ota

open Corstone.Lib

/-- The blocks of a file in their order, with their offsets. `served` is the
    payload that the server sends for a block of a file. -/
def fileBlocks (served : ℤ → ℤ → Bytes) (fileId : UInt32) (n : ℕ) : List (ℕ × Bytes) :=
  (List.range n).map fun b => (b * blockSize.toNat, served fileId.toNat b)

theorem fileBlocks_succ (served : ℤ → ℤ → Bytes) (fileId : UInt32) (n : ℕ) :
    (fileBlocks served fileId (n + 1)).reverse =
      (n * blockSize.toNat, served fileId.toNat n) :: (fileBlocks served fileId n).reverse := by
  rw [fileBlocks, List.range_succ, List.map_append, List.reverse_append]
  rfl

/-- What integrity asks of a call after the calls of `log`. -/
def ImageIntegrity (served : ℤ → ℤ → Bytes) (log : List Call) (c : Call) : Prop :=
  c.emitsCloseFile = true → ∀ file ∈ jobFile log,
    (blocksWritten log).Perm (fileBlocks served file.fileId (numberOfBlocks file.fileSize).toNat)

instance (served : ℤ → ℤ → Bytes) (log : List Call) (c : Call) :
    Decidable (ImageIntegrity served log c) :=
  inferInstanceAs (Decidable (c.emitsCloseFile = true → ∀ file ∈ jobFile log,
    (blocksWritten log).Perm (fileBlocks served file.fileId (numberOfBlocks file.fileSize).toNat)))

/-! ## The condition -/

/-- The message in data buffer `i` is the block that the transfer waits for. -/
def AwaitedBlock (L : Libraries) (served : ℤ → ℤ → Bytes) (s : OtaAgent) (i : ℕ) : Prop :=
  s.download.numOfBlocksRemaining ≠ 0 ∧ ∀ file ∈ jobFile s.log,
    (s.receivedBlock L i).fileId = file.fileId.toNat ∧
      (s.receivedBlock L i).blockId = s.download.currentBlockOffset.toNat ∧
      (s.receivedBlock L i).decodedData =
        served (s.receivedBlock L i).fileId (s.receivedBlock L i).blockId

instance (L : Libraries) (served : ℤ → ℤ → Bytes) (s : OtaAgent) (i : ℕ) :
    Decidable (AwaitedBlock L served s i) :=
  inferInstanceAs (Decidable (s.download.numOfBlocksRemaining ≠ 0 ∧ ∀ file ∈ jobFile s.log,
    (s.receivedBlock L i).fileId = file.fileId.toNat ∧
      (s.receivedBlock L i).blockId = s.download.currentBlockOffset.toNat ∧
      (s.receivedBlock L i).decodedData =
        served (s.receivedBlock L i).fileId (s.receivedBlock L i).blockId))

/-- Every block that is written is the awaited one, and is written as a whole:
    all blocks but the last have the block size. -/
def IntegrityCondition (L : Libraries) (served : ℤ → ℤ → Bytes) (σ : OtaSystem) : Action → Prop
  | .processEvent r =>
    ∀ i ∈ σ.processedBlock, r.otaPalWriteBlock > 0 → AwaitedBlock L served σ.agent i ∧
      (r.otaPalWriteBlock = blockSize.toNat ∨ σ.agent.download.numOfBlocksRemaining = 1)
  | _ => True

instance (L : Libraries) (served : ℤ → ℤ → Bytes) (σ : OtaSystem) (a : Action) :
    Decidable (IntegrityCondition L served σ a) :=
  match a with
  | .processEvent r =>
    inferInstanceAs (Decidable (∀ i ∈ σ.processedBlock, r.otaPalWriteBlock > 0 →
      AwaitedBlock L served σ.agent i ∧
        (r.otaPalWriteBlock = blockSize.toNat ∨ σ.agent.download.numOfBlocksRemaining = 1)))
  | .receiveEvent | .sendEvent | .jobMessage _ _ | .dataMessage _ _ | .otaDemoTask _
  | .otaAgentShutdown => isTrue trivial

/-! ## The invariant -/

/-- A transfer in which the first `currentBlockOffset` blocks have been written. -/
structure TransferInvariant (served : ℤ → ℤ → Bytes) (d : Download) (log : List Call)
    (file : JobFile) : Prop where
  counters : d.numOfBlocksRemaining.toNat + d.currentBlockOffset.toNat =
    (numberOfBlocks file.fileSize).toNat
  blocks : blocksWritten log = (fileBlocks served file.fileId d.currentBlockOffset.toNat).reverse
  offset : d.numOfBlocksRemaining ≠ 0 →
    d.totalBytesReceived.toNat = d.currentBlockOffset.toNat * blockSize.toNat

structure IntegrityInvariant (served : ℤ → ℤ → Bytes) (σ : OtaSystem) : Prop where
  integrity : Always (ImageIntegrity served) σ.agent.log
  transfer : ∀ file ∈ jobFile σ.agent.log,
    TransferInvariant served σ.agent.download σ.agent.log file
  closing : σ.task = .sending .closeFile → σ.agent.download.numOfBlocksRemaining = 0

section Steps

variable {L : Libraries} {served : ℤ → ℤ → Bytes} {r : Results} {σ : OtaSystem}

theorem imageIntegrity_of_neutral (log : List Call) (c : Call) (hc : c.transferNeutral = true) :
    ImageIntegrity served log c := by
  intro hemits
  simp [Call.transferNeutral, hemits] at hc

/-- A transfer that has just been set up. -/
theorem transferInvariant_started (s : OtaAgent) {log log' : List Call}
    (hlog : Extends Call.transferNeutral
      (.initMqttDownloader s.jobFields.fileId s.jobFields.fileSize :: log) log') :
    TransferInvariant served (initMqttDownloader L r s).download log'
      ⟨s.jobFields.fileId, s.jobFields.fileSize⟩ where
  counters := by simp
  blocks := by
    rw [blocksWritten_extends hlog]
    simp [fileBlocks]
  offset := by simp

/-- The awaited block continues the transfer. -/
theorem TransferInvariant.block {d : Download} {log : List Call} {file : JobFile}
    (h : TransferInvariant served d log file) {data : Bytes} {result : ℤ}
    (hblock : result > 0 → d.numOfBlocksRemaining ≠ 0 ∧
      data = served file.fileId.toNat d.currentBlockOffset.toNat ∧
      (result = blockSize.toNat ∨ d.numOfBlocksRemaining = 1)) :
    TransferInvariant served (d.written result)
      (.otaPalWriteBlock d.totalBytesReceived data result :: log) file := by
  by_cases hresult : result > 0
  · obtain ⟨hmissing, hdata, hsize⟩ := hblock hresult
    have hblocks := numberOfBlocks_le file.fileSize
    have hcounters := h.counters
    have hpos : d.numOfBlocksRemaining.toNat ≠ 0 := fun h0 => hmissing (UInt32.toNat_inj.mp h0)
    obtain ⟨hrem, hoff⟩ := written_counters hresult hmissing (by omega)
    refine ⟨by omega, ?_, ?_⟩
    · rw [blocksWritten_otaPalWriteBlock, if_pos hresult, hoff, fileBlocks_succ, h.blocks,
        h.offset hmissing, hdata]
    · intro hmore
      have hmore : (d.written result).numOfBlocksRemaining.toNat ≠ 0 :=
        fun h0 => hmore (UInt32.toNat_inj.mp h0)
      have hfull : result = blockSize.toNat := by
        refine hsize.resolve_right fun hone => ?_
        rw [hone] at hrem
        simp at hrem
        omega
      have hbytes := numberOfBlocks_toNat file.fileSize
      have hfile := file.fileSize.toNat_lt
      have htotal := h.offset hmissing
      rw [hoff, Download.written, if_pos hresult, hfull]
      have hblock : blockSize.toNat = 4096 := rfl
      simp [UInt32.toNat_add, htotal, hblock]
      omega
  · rw [Download.written, if_neg hresult]
    refine ⟨h.counters, ?_, h.offset⟩
    rw [blocksWritten_otaPalWriteBlock, if_neg hresult]
    exact h.blocks

/-- The block that the `switch` handles, in a step that meets the condition. -/
theorem awaitedBlock_of_condition {i : ℕ} (hcond : IntegrityCondition L served σ (.processEvent r))
    (hevent : σ.task = .processing (.receivedFileBlock i))
    (hsuspended : σ.agent.otaAgentState ≠ .suspended)
    (hstopped : σ.agent.otaAgentState ≠ .stopped) (hresult : r.otaPalWriteBlock > 0) :
    AwaitedBlock L served σ.agent i ∧
      (r.otaPalWriteBlock = blockSize.toNat ∨ σ.agent.download.numOfBlocksRemaining = 1) := by
  have hblock : σ.processedBlock = some i := by
    simp [OtaSystem.processedBlock, hevent, hsuspended, hstopped]
  exact hcond i hblock hresult

/-- The `switch` keeps the invariant: only an awaited block is written. -/
theorem IntegrityInvariant.process {event : OtaEventMsg} (h : IntegrityInvariant served σ)
    (hevent : σ.task = .processing event)
    (hcond : IntegrityCondition L served σ (.processEvent r)) :
    IntegrityInvariant served (processEvent L r σ event) := by
  have hout := processOTAEvents_transfer L r σ.agent event
  have hagent : (processEvent L r σ event).agent = (processOTAEvents L r σ.agent event).1 := rfl
  have hsending := @sending_processEvent L r σ event .closeFile
  generalize processOTAEvents L r σ.agent event = p at hout hagent hsending
  cases hout with
  | other huntouched hdownload hlog hnext =>
    refine ⟨?_, ?_, fun htask => absurd (hsending.mp htask) hnext⟩
    · rw [hagent]
      exact hlog.always imageIntegrity_of_neutral h.integrity
    · intro file hfile
      rw [hagent] at hfile ⊢
      rw [jobFile_extends hlog] at hfile
      obtain ⟨hcounters, hblocks, hoffset⟩ := h.transfer file hfile
      rw [hdownload]
      exact ⟨hcounters, by rw [blocksWritten_extends hlog, hblocks], hoffset⟩
  | started hsuspended hstopped hstart hdownload hbefore hlog hnext =>
    refine ⟨?_, ?_, fun htask => absurd (hsending.mp htask) hnext⟩
    · rw [hagent]
      refine hlog.always imageIntegrity_of_neutral ⟨?_, ?_⟩
      · intro hemits
        simp [Call.emitsCloseFile] at hemits
      · exact hbefore.always imageIntegrity_of_neutral h.integrity
    · intro file hfile
      rw [hagent] at hfile ⊢
      rw [jobFile_extends hlog, jobFile_initMqttDownloader] at hfile
      obtain rfl := Option.some.inj hfile
      rw [hdownload]
      exact transferInvariant_started _ hlog
  | @block i hsuspended hstopped =>
    refine ⟨?_, ?_, ?_⟩
    · rw [hagent, receivedFileBlock_log]
      exact ⟨fun hemits => by simp [Call.emitsCloseFile] at hemits, h.integrity⟩
    · intro file hfile
      rw [hagent, receivedFileBlock_log, jobFile_otaPalWriteBlock] at hfile
      rw [hagent, receivedFileBlock_log, receivedFileBlock_download]
      refine (h.transfer file hfile).block ?_
      intro hresult
      obtain ⟨⟨hmissing, hblock⟩, hsize⟩ :=
        awaitedBlock_of_condition hcond hevent hsuspended hstopped hresult
      obtain ⟨hfileId, hblockId, hdata⟩ := hblock file hfile
      refine ⟨hmissing, ?_, hsize⟩
      rw [hdata, hfileId, hblockId]
    · intro htask
      have hnext := hsending.mp htask
      rw [hagent, receivedFileBlock_download]
      rw [receivedFileBlock_eq] at hnext
      by_contra hmore
      simp [hmore] at hnext

/-- Sending the next event keeps the invariant: `CloseFile` is sent when no
    block is missing. -/
theorem IntegrityInvariant.send {event : OtaEventMsg} (h : IntegrityInvariant served σ)
    (hevent : σ.task = .sending event) : IntegrityInvariant served (sendEvent σ event) := by
  refine ⟨⟨?_, h.integrity⟩, ?_, fun htask => absurd htask not_sending_sendEvent⟩
  · intro hemits file hfile
    have hclose : event = .closeFile := by
      cases event with
      | closeFile => rfl
      | _ => simp [Call.emitsCloseFile] at hemits
    have hdone := h.closing (by rw [hevent, hclose])
    obtain ⟨hcounters, hblocks, -⟩ := h.transfer file hfile
    have hall : σ.agent.download.currentBlockOffset.toNat =
        (numberOfBlocks file.fileSize).toNat := by
      rw [hdone] at hcounters
      simpa using hcounters
    rw [hblocks, hall]
    exact List.reverse_perm _
  · intro file hfile
    obtain ⟨hcounters, hblocks, hoffset⟩ := h.transfer file hfile
    refine ⟨hcounters, ?_, hoffset⟩
    show blocksWritten (_ :: σ.agent.log) = _
    rw [blocksWritten_otaSendEvent]
    exact hblocks

/-- Every step that meets the condition keeps the invariant. -/
theorem IntegrityInvariant.step (a : Action) (h : IntegrityInvariant served σ)
    (hcond : IntegrityCondition L served σ a) : IntegrityInvariant served (step L σ a) := by
  have hstep := step_cases L σ a
  generalize Ota.step L σ a = τ at hstep ⊢
  cases hstep with
  | quiet hquiet =>
    obtain ⟨job, data, hagent⟩ := hquiet.agent
    refine ⟨by rw [hagent]; exact h.integrity, by rw [hagent]; exact h.transfer, ?_⟩
    intro htask
    rw [hagent]
    exact h.closing ((hquiet.sending _).mp htask)
  | process r hevent => exact h.process hevent hcond
  | send hevent => exact h.send hevent

end Steps

/-! ## Runs -/

theorem integrityInvariant_boot (L : Libraries) (served : ℤ → ℤ → Bytes) :
    IntegrityInvariant served (.boot L) where
  integrity := trivial
  transfer file hfile := by simp [OtaSystem.boot, OtaAgent.boot, jobFile] at hfile
  closing _ := rfl

/-- **Integrity of the image.** In a run whose steps all meet the condition,
    the blocks that have been written whenever `CloseFile` is emitted are those
    of the file. -/
theorem imageIntegrity_of_condition (L : Libraries) (served : ℤ → ℤ → Bytes) (as : List Action)
    (h : Along (step L) (IntegrityCondition L served) (.boot L) as) :
    Always (ImageIntegrity served) (run (step L) (.boot L) as).agent.log :=
  (Along.inv (fun _ a hinv hcond => hinv.step a hcond) (integrityInvariant_boot L served)
    h).integrity

/-- A server of a file of 4099 bytes. -/
def twoBlocks (_fileId blockId : ℤ) : Bytes :=
  if blockId = 0 then List.replicate blockSize.toNat 0 else [1, 2, 3]

/-- The download of this file, whose first block is the base64 of 4096 zeros. -/
def answerBlocks : List Action :=
  [.jobMessage startNextAcceptedTopic (startNextAccepted (ascii "A") [] 4099 (ascii "MEUC")),
    .receiveEvent, .processEvent {}, .receiveEvent, .processEvent {}, .sendEvent,
    .receiveEvent, .processEvent {},
    .dataMessage (streamBlock 0 0 (List.replicate 5462 65 ++ ascii "==")) true,
    .receiveEvent, .processEvent { otaPalWriteBlock := 4096 }, .sendEvent,
    .receiveEvent, .processEvent {}, .dataMessage (streamBlock 0 1 (ascii "AQID")) true,
    .receiveEvent, .processEvent { otaPalWriteBlock := 3 }, .sendEvent]

set_option maxRecDepth 40000 in
/-- The two blocks that were asked for make the image. -/
theorem imageIntegrity_answer :
    Call.otaSendEvent .closeFile true ∈
        (run (step jsonDevice) (.boot jsonDevice) answerBlocks).agent.log ∧
      Always (ImageIntegrity twoBlocks)
        (run (step jsonDevice) (.boot jsonDevice) answerBlocks).agent.log :=
  ⟨by decide +kernel, imageIntegrity_of_condition jsonDevice twoBlocks answerBlocks
    (by decide +kernel)⟩

/-- A server of two files of three bytes. -/
def twoFiles (fileId _blockId : ℤ) : Bytes := if fileId = 0 then [1, 2, 3] else [0, 0, 0]

/-- A download of file 0, answered with block 0 of the file `fileId`. -/
def answerWith (fileId : ℕ) (payload : Bytes) : List Action :=
  [.jobMessage startNextAcceptedTopic (startNextAccepted (ascii "A") [] 3 (ascii "MEUC")),
    .receiveEvent, .processEvent {}, .receiveEvent, .processEvent {}, .sendEvent,
    .receiveEvent, .processEvent {}, .dataMessage (streamBlock fileId 0 payload) true,
    .receiveEvent, .processEvent { otaPalWriteBlock := 3 }, .sendEvent]

set_option maxRecDepth 20000 in
/-- A block of file 1 becomes the image of file 0. -/
theorem not_imageIntegrity_otherFile :
    ¬ Always (ImageIntegrity twoFiles)
      (run (step jsonDevice) (.boot jsonDevice) (answerWith 1 (ascii "AAAA"))).agent.log := by
  decide

end Corstone.Ota
