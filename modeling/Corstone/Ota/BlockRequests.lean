import Corstone.Ota.JsonDevice
import Corstone.Ota.Transfer

/-!
# Block requests

A block request carries `currentFileId`, an `uint8_t`, and the block counter
narrowed to an `uint16_t` (`ota_orchestrator.c`, lines 945–951). The job has 32
bits for each of the file id and the file size, and the counter has 32 bits too.

* `addressed_eq_iff`: one request has the job's file id and the counter iff the
  one fits into 8 bits and the other into 16.
* `addressed_iff`: all requests of a download have them iff the file id is below
  256 and the file has between 1 byte and 2^28 bytes.
* `addressed_run_iff`: in all runs the file of the requests is that of the job.
* `not_addressed_largeFile`: a file of 2^28 + 1 bytes.
-/

namespace Corstone.Ota

open Corstone.Lib

/-- `requestDataBlock` asks for the block at `currentBlockOffset` of the job's file. -/
def Addressed (file : JobFile) (r : Results) (s : OtaAgent) : Prop :=
  ∃ fileId blockOffset,
    (requestDataBlock r s).log = .getDataBlockRequest fileId blockOffset r.mqtt :: s.log ∧
      fileId.toNat = file.fileId.toNat ∧
      blockOffset.toNat = s.download.currentBlockOffset.toNat

/-- The states in which the agent is about to request a block of a file: the
    download has been set up, or a block has been handled and the next event is
    `OtaAgentEventRequestFileBlock`. In between, everything but the counters of the
    download may change. -/
inductive Requesting (L : Libraries) (file : JobFile) : OtaAgent → Prop
  | start (r : Results) {s : OtaAgent} (hid : s.jobFields.fileId = file.fileId)
      (hsize : s.jobFields.fileSize = file.fileSize) :
    Requesting L file (initMqttDownloader L r s)
  | frame {s s' : OtaAgent} (h : Requesting L file s) (hdownload : s'.download = s.download) :
    Requesting L file s'
  | block {s : OtaAgent} (r : Results) (i : ℕ) (h : Requesting L file s)
      (hnext : (receivedFileBlock L r s i).2 = some .requestFileBlock) :
    Requesting L file (receivedFileBlock L r s i).1

/-! ## One request -/

section Request

variable {file : JobFile} {r : Results} {s : OtaAgent}

theorem addressed_def : Addressed file r s ↔
    s.download.currentFileId.toNat = file.fileId.toNat ∧
      s.download.currentBlockOffset.toUInt16.toNat = s.download.currentBlockOffset.toNat := by
  constructor
  · rintro ⟨fileId, blockOffset, hlog, hid, hoffset⟩
    obtain ⟨rfl, rfl, -⟩ : s.download.currentFileId = fileId ∧
        s.download.currentBlockOffset.toUInt16 = blockOffset ∧ r.mqtt = r.mqtt := by
      simpa [requestDataBlock] using hlog
    exact ⟨hid, hoffset⟩
  · rintro ⟨hid, hoffset⟩
    exact ⟨_, _, rfl, hid, hoffset⟩

/-- The two casts keep the file id and the position iff these fit. -/
theorem addressed_eq_iff (hfile : s.download.currentFileId = file.fileId.toUInt8) :
    Addressed file r s ↔
      file.fileId.toNat < 2 ^ 8 ∧ s.download.currentBlockOffset.toNat < 2 ^ 16 := by
  rw [addressed_def, hfile, UInt32.toNat_toUInt8, UInt32.toNat_toUInt16]
  constructor
  · rintro ⟨hid, hoffset⟩
    exact ⟨by omega, by omega⟩
  · rintro ⟨hid, hoffset⟩
    exact ⟨Nat.mod_eq_of_lt hid, Nat.mod_eq_of_lt hoffset⟩

end Request

/-! ## The requests of a download -/

section Download

variable {L : Libraries} {file : JobFile} {s : OtaAgent}

/-- A handled block is followed by a request iff blocks are missing. -/
theorem receivedFileBlock_requests_iff (r : Results) (i : ℕ) :
    (receivedFileBlock L r s i).2 = some .requestFileBlock ↔
      (s.download.written r.otaPalWriteBlock).numOfBlocksRemaining ≠ 0 := by
  rw [receivedFileBlock_eq]
  dsimp only
  split_ifs with h
  · simp [h]
  · simp [h]

theorem written_currentFileId (d : Download) (result : ℤ) :
    (d.written result).currentFileId = d.currentFileId := by
  unfold Download.written
  split_ifs <;> rfl

theorem Requesting.currentFileId (h : Requesting L file s) :
    s.download.currentFileId = file.fileId.toUInt8 := by
  induction h with
  | start r hid hsize => rw [initMqttDownloader_download, hid]
  | frame h hdownload ih => rw [hdownload, ih]
  | block r i h hnext ih => rw [receivedFileBlock_download, written_currentFileId, ih]

/-- A file with blocks is requested at its own blocks only. -/
theorem Requesting.position (h : Requesting L file s) (hsize : file.fileSize ≠ 0) :
    s.download.numOfBlocksRemaining ≠ 0 ∧
      s.download.numOfBlocksRemaining.toNat + s.download.currentBlockOffset.toNat =
        (numberOfBlocks file.fileSize).toNat := by
  induction h with
  | start r hid hfileSize =>
    rw [initMqttDownloader_download, hfileSize]
    exact ⟨numberOfBlocks_ne_zero hsize, rfl⟩
  | frame h hdownload ih =>
    rw [hdownload]
    exact ih
  | @block s r i h hnext ih =>
    obtain ⟨hmissing, hsum⟩ := ih
    have hle := numberOfBlocks_le file.fileSize
    rw [receivedFileBlock_download]
    refine ⟨(receivedFileBlock_requests_iff r i).mp hnext, ?_⟩
    by_cases hresult : r.otaPalWriteBlock > 0
    · have hpos : s.download.numOfBlocksRemaining.toNat ≠ 0 :=
        fun h0 => hmissing (UInt32.toNat_inj.mp h0)
      obtain ⟨hremaining, hoffset⟩ := written_counters hresult hmissing (by omega)
      omega
    · rw [Download.written, if_neg hresult]
      exact hsum

/-- While blocks are missing, blocks that are written one after the other reach
    every position. A file without blocks counts on from below zero. -/
theorem exists_requesting (L : Libraries) (file : JobFile) {k : ℕ} (hk : k < 2 ^ 32)
    (hmissing : ∀ j, 0 < j → j ≤ k → numberOfBlocks file.fileSize - UInt32.ofNat j ≠ 0) :
    ∃ s, Requesting L file s ∧ s.download.currentBlockOffset = UInt32.ofNat k ∧
      s.download.numOfBlocksRemaining = numberOfBlocks file.fileSize - UInt32.ofNat k := by
  induction k with
  | zero =>
    have hstart : Requesting L file (initMqttDownloader L {} { OtaAgent.boot L with
        jobFields := { fileId := file.fileId, fileSize := file.fileSize } }) := .start {} rfl rfl
    exact ⟨_, hstart, rfl, (UInt32.sub_zero _).symm⟩
  | succ k ih =>
    obtain ⟨s, hs, hoffset, hremaining⟩ :=
      ih (by omega) fun j hpos hle => hmissing j hpos (by omega)
    have hwritten : s.download.written 1 =
        { s.download with
          totalBytesReceived := s.download.totalBytesReceived + 1
          numOfBlocksRemaining := s.download.numOfBlocksRemaining - 1
          currentBlockOffset := s.download.currentBlockOffset + 1 } := rfl
    have hsucc : UInt32.ofNat (k + 1) = UInt32.ofNat k + 1 := by
      rw [UInt32.ofNat_add]
      rfl
    have hleft : s.download.numOfBlocksRemaining - 1 =
        numberOfBlocks file.fileSize - UInt32.ofNat (k + 1) := by
      rw [hremaining, hsucc, sub_add_eq_sub_sub]
    have hnext : (receivedFileBlock L { otaPalWriteBlock := 1 } s 0).2 =
        some .requestFileBlock := by
      rw [receivedFileBlock_requests_iff, hwritten]
      show s.download.numOfBlocksRemaining - 1 ≠ 0
      rw [hleft]
      exact hmissing (k + 1) (by omega) (Nat.le_refl _)
    refine ⟨_, hs.block { otaPalWriteBlock := 1 } 0 hnext, ?_, ?_⟩
    · rw [receivedFileBlock_download, hwritten]
      show s.download.currentBlockOffset + 1 = _
      rw [hoffset, hsucc]
    · rw [receivedFileBlock_download, hwritten]
      exact hleft

/-- A file that is empty or has more than 2^16 blocks is requested at position 2^16. -/
theorem exists_requesting_beyond (L : Libraries) (file : JobFile)
    (h : file.fileSize = 0 ∨ 2 ^ 28 < file.fileSize.toNat) :
    ∃ s, Requesting L file s ∧ s.download.currentBlockOffset.toNat = 2 ^ 16 := by
  have hblocks := numberOfBlocks_toNat file.fileSize
  have hmissing : ∀ j, 0 < j → j ≤ 2 ^ 16 →
      numberOfBlocks file.fileSize - UInt32.ofNat j ≠ 0 := by
    intro j hpos hle hzero
    have hzero' := congrArg UInt32.toNat hzero
    have hj : (UInt32.ofNat j).toNat = j := UInt32.toNat_ofNat_of_lt' (by
      rw [UInt32.size]
      omega)
    rw [UInt32.toNat_sub, hj] at hzero'
    have hlarge : file.fileSize.toNat = 0 ∨ 2 ^ 28 < file.fileSize.toNat := by
      rcases h with hempty | hlarge
      · exact Or.inl (by rw [hempty]; rfl)
      · exact Or.inr hlarge
    have hlt := file.fileSize.toNat_lt
    simp at hzero'
    omega
  obtain ⟨s, hs, hoffset, -⟩ := exists_requesting L file (by omega) hmissing
  exact ⟨s, hs, by rw [hoffset]; rfl⟩

/-- **Block requests.** All requests of a download address the file of the job and
    the position of the download iff the file id is below 256 and the file has
    at least one byte and at most 2^16 blocks. -/
theorem addressed_iff (L : Libraries) (file : JobFile) :
    (∀ s, Requesting L file s → ∀ r, Addressed file r s) ↔
      file.fileId.toNat < 2 ^ 8 ∧ 1 ≤ file.fileSize.toNat ∧ file.fileSize.toNat ≤ 2 ^ 28 := by
  constructor
  · intro h
    have hfits : ∀ s, Requesting L file s →
        file.fileId.toNat < 2 ^ 8 ∧ s.download.currentBlockOffset.toNat < 2 ^ 16 :=
      fun s hs => (addressed_eq_iff hs.currentFileId).mp (h s hs {})
    obtain ⟨s, hs, -⟩ := exists_requesting L file (k := 0) (by omega) (by omega)
    refine ⟨(hfits s hs).1, ?_⟩
    by_contra hsize
    have hbeyond : file.fileSize = 0 ∨ 2 ^ 28 < file.fileSize.toNat := by
      by_cases hempty : file.fileSize = 0
      · exact Or.inl hempty
      · have hpos : file.fileSize.toNat ≠ 0 := fun h0 => hempty (UInt32.toNat_inj.mp h0)
        exact Or.inr (by omega)
    obtain ⟨s, hs, hoffset⟩ := exists_requesting_beyond L file hbeyond
    have hlt := (hfits s hs).2
    omega
  · rintro ⟨hid, hpos, hsize⟩ s hs r
    have hnonempty : file.fileSize ≠ 0 := by
      intro h0
      rw [h0] at hpos
      exact absurd hpos (by decide)
    obtain ⟨hmissing, hsum⟩ := hs.position hnonempty
    have hblocks := numberOfBlocks_toNat file.fileSize
    have hleft : s.download.numOfBlocksRemaining.toNat ≠ 0 :=
      fun h0 => hmissing (UInt32.toNat_inj.mp h0)
    exact (addressed_eq_iff hs.currentFileId).mpr ⟨hid, by omega⟩

/-- The last block of a file of 2^28 + 1 bytes is not asked for. -/
theorem not_addressed_largeFile :
    ¬ ∀ s, Requesting jsonDevice ⟨0, 2 ^ 28 + 1⟩ s → ∀ r, Addressed ⟨0, 2 ^ 28 + 1⟩ r s := by
  intro h
  obtain ⟨s, hs, hoffset⟩ :=
    exists_requesting_beyond jsonDevice ⟨0, 2 ^ 28 + 1⟩ (Or.inr (by decide))
  have hlt := ((addressed_eq_iff hs.currentFileId).mp (h s hs {})).2
  omega

end Download

/-! ## Runs -/

/-- The file of the requests is that of the job, as far as 8 bits hold its id. -/
def RequestsJobFile (s : OtaAgent) : Prop :=
  ∀ file ∈ jobFile s.log, s.download.currentFileId = file.fileId.toUInt8

theorem requestsJobFile_processOTAEvents (L : Libraries) (r : Results) (s : OtaAgent)
    (event : OtaEventMsg) (h : RequestsJobFile s) :
    RequestsJobFile (processOTAEvents L r s event).1 := by
  have hout := processOTAEvents_transfer L r s event
  generalize processOTAEvents L r s event = p at hout ⊢
  unfold RequestsJobFile at h ⊢
  cases hout with
  | other huntouched hdownload hlog hnext =>
    rw [hdownload, jobFile_extends hlog]
    exact h
  | started hsuspended hstopped hstart hdownload hbefore hlog hnext =>
    rw [hdownload, jobFile_extends hlog, jobFile_initMqttDownloader]
    intro file hfile
    obtain rfl := Option.some.inj hfile
    rfl
  | @block i hsuspended hstopped =>
    rw [receivedFileBlock_log, receivedFileBlock_download, written_currentFileId,
      jobFile_otaPalWriteBlock]
    exact h

theorem requestsJobFile_run (L : Libraries) (as : List Action) :
    RequestsJobFile (run (step L) (.boot L) as).agent := by
  refine run_agent_inv (fun _ _ _ h => h) (fun s event sent h => ?_)
    (fun r s event h => requestsJobFile_processOTAEvents L r s event h) ?_ as
  · intro file hfile
    rw [OtaAgent.call_log, jobFile_otaSendEvent] at hfile
    exact h file hfile
  · intro file hfile
    exact nomatch hfile

/-- In every run a request is right iff the file id and the position fit. -/
theorem addressed_run_iff (L : Libraries) (as : List Action) {file : JobFile}
    (hfile : file ∈ jobFile (run (step L) (.boot L) as).agent.log) (r : Results) :
    Addressed file r (run (step L) (.boot L) as).agent ↔
      file.fileId.toNat < 2 ^ 8 ∧
        (run (step L) (.boot L) as).agent.download.currentBlockOffset.toNat < 2 ^ 16 :=
  addressed_eq_iff (requestsJobFile_run L as file hfile)

end Corstone.Ota
