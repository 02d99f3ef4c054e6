import Corstone.Ota.EventCalls
import Corstone.Ota.JsonDevice
import Corstone.Ota.Transfer

/-!
# Block counters

In every state of a job, the missing blocks and the others add up to the blocks
of the file, and `CloseFile` has been emitted once if none is missing, not at all
otherwise. A data message that arrives when no block is missing takes the counter
of the missing blocks below zero, or emits `CloseFile` again. A file without
blocks is complete before anything could emit it.

* `blockCounters_iff`: the counters are right in all states of a run iff files
  are not empty and file blocks arrive while blocks are missing.
* `not_blockCounters_late`: the answer to the last request arrives twice.
-/

namespace Corstone.Ota

open Corstone.Lib

/-- The `CloseFile` events of the transfer, with the one that is being sent. -/
def OtaSystem.closeFiles (σ : OtaSystem) : ℕ :=
  closeFilesEmitted σ.agent.log + if σ.task = .sending .closeFile then 1 else 0

/-- The counters of the file, and the number of its `CloseFile` events. -/
def CountsFile (d : Download) (closeFiles : ℕ) (file : JobFile) : Prop :=
  d.numOfBlocksRemaining.toNat + d.currentBlockOffset.toNat =
      (numberOfBlocks file.fileSize).toNat ∧
    closeFiles = if d.numOfBlocksRemaining = 0 then 1 else 0

instance (d : Download) (closeFiles : ℕ) (file : JobFile) :
    Decidable (CountsFile d closeFiles file) :=
  inferInstanceAs (Decidable (_ ∧ _))

/-- The counters in a state of a job. -/
def BlockCounters (σ : OtaSystem) : Prop :=
  ∀ file ∈ jobFile σ.agent.log, CountsFile σ.agent.download σ.closeFiles file

instance (σ : OtaSystem) : Decidable (BlockCounters σ) :=
  inferInstanceAs (Decidable
    (∀ file ∈ jobFile σ.agent.log, CountsFile σ.agent.download σ.closeFiles file))

/-- The file of a transfer that is set up is not empty, and a file block of a
    job is handled only while blocks are missing. -/
def CounterCondition (L : Libraries) (σ : OtaSystem) : Action → Prop
  | .processEvent r =>
    (σ.HandlesJobDocument → StartsTransfer L r σ.agent →
      (newJobParsed L σ.agent).1.jobFields.fileSize ≠ 0) ∧
    (σ.processedBlock.isSome = true → (jobFile σ.agent.log).isSome = true →
      σ.agent.download.numOfBlocksRemaining ≠ 0)
  | _ => True

/-! ## Steps -/

/-- A transfer that has been set up is counted right iff its file has blocks. -/
theorem countsFile_started_iff (L : Libraries) (r : Results) (s : OtaAgent) :
    CountsFile (initMqttDownloader L r s).download 0 ⟨s.jobFields.fileId, s.jobFields.fileSize⟩ ↔
      s.jobFields.fileSize ≠ 0 := by
  rw [CountsFile, initMqttDownloader_download]
  constructor
  · rintro ⟨-, hclose⟩ hempty
    have hblocks : numberOfBlocks 0 = 0 := by decide
    simp [hempty, hblocks] at hclose
  · intro hsize
    exact ⟨by simp, by simp [numberOfBlocks_ne_zero hsize]⟩

/-- A file block keeps the count iff blocks are missing. -/
theorem countsFile_written_iff {d : Download} {closeFiles : ℕ} {file : JobFile}
    (h : CountsFile d closeFiles file) (result : ℤ) :
    CountsFile (d.written result)
        (closeFiles + if (d.written result).numOfBlocksRemaining = 0 then 1 else 0) file ↔
      d.numOfBlocksRemaining ≠ 0 := by
  obtain ⟨hsum, hclose⟩ := h
  have hblocks := numberOfBlocks_le file.fileSize
  by_cases hmissing : d.numOfBlocksRemaining = 0
  · rw [if_pos hmissing] at hclose
    refine iff_of_false ?_ (not_not.mpr hmissing)
    rintro ⟨hsum', hclose'⟩
    by_cases hresult : result > 0
    · have hrem : (d.written result).numOfBlocksRemaining.toNat = 2 ^ 32 - 1 := by
        simp [Download.written, hresult, hmissing]
      omega
    · have hsame : d.written result = d := by rw [Download.written, if_neg hresult]
      rw [hsame, hclose, if_pos hmissing] at hclose'
      omega
  · rw [if_neg hmissing] at hclose
    refine iff_of_true ?_ hmissing
    rw [hclose]
    by_cases hresult : result > 0
    · have hpos : d.numOfBlocksRemaining.toNat ≠ 0 := fun h0 => hmissing (UInt32.toNat_inj.mp h0)
      obtain ⟨hrem, hoff⟩ := written_counters hresult hmissing (by omega)
      exact ⟨by omega, by rw [Nat.zero_add]⟩
    · rw [Download.written, if_neg hresult]
      exact ⟨hsum, by rw [Nat.zero_add]⟩

section Steps

variable {L : Libraries} {r : Results} {σ : OtaSystem} {event : OtaEventMsg}

theorem closeFiles_of_processing (hevent : σ.task = .processing event) :
    σ.closeFiles = closeFilesEmitted σ.agent.log := by
  simp [OtaSystem.closeFiles, hevent]

theorem mem_processedBlock (hevent : σ.task = .processing event) {i : ℕ} :
    i ∈ σ.processedBlock ↔ event = .receivedFileBlock i ∧ σ.agent.otaAgentState ≠ .suspended ∧
      σ.agent.otaAgentState ≠ .stopped := by
  cases event with
  | receivedFileBlock j =>
    simp only [OtaSystem.processedBlock, hevent]
    split_ifs with hstate
    · simp only [Option.mem_def, reduceCtorEq, false_iff]
      rintro ⟨-, hsuspended, hstopped⟩
      exact hstate.elim hsuspended hstopped
    · simp [not_or.mp hstate]
  | _ => simp [OtaSystem.processedBlock, hevent]

/-- A step of the `switch` keeps the counters right iff it meets the condition. -/
theorem blockCounters_processEvent_iff (h : BlockCounters σ)
    (hevent : σ.task = .processing event) :
    BlockCounters (processEvent L r σ event) ↔ CounterCondition L σ (.processEvent r) := by
  have hout := processOTAEvents_transfer L r σ.agent event
  have hagent : (processEvent L r σ event).agent = (processOTAEvents L r σ.agent event).1 := rfl
  have hcloseFiles : (processEvent L r σ event).closeFiles =
      closeFilesEmitted (processEvent L r σ event).agent.log +
        if (processOTAEvents L r σ.agent event).2 = some .closeFile then 1 else 0 := by
    simp only [OtaSystem.closeFiles, sending_processEvent]
  have hblock := @mem_processedBlock σ event hevent
  have hbefore := closeFiles_of_processing hevent
  unfold BlockCounters at h ⊢
  rw [hcloseFiles, hagent]
  rw [hbefore] at h
  generalize processOTAEvents L r σ.agent event = p at hout
  cases hout with
  | other huntouched hdownload hlog hnext =>
    rw [hdownload, jobFile_extends hlog, closeFilesEmitted_extends hlog, if_neg hnext]
    refine iff_of_true h ⟨?_, ?_⟩
    · rintro ⟨htask, hsuspended, hstopped⟩ hstart
      obtain rfl : event = .receivedJobDocument := by simpa [hevent] using htask
      exact absurd ⟨hsuspended, hstopped, Or.inl ⟨rfl, hstart⟩⟩ huntouched
    · intro hsome
      obtain ⟨i, hi⟩ := Option.isSome_iff_exists.mp hsome
      obtain ⟨hfileBlock, hsuspended, hstopped⟩ := hblock.mp hi
      exact absurd ⟨hsuspended, hstopped, Or.inr ⟨i, hfileBlock⟩⟩ huntouched
  | started hsuspended hstopped hstart hdownload hlogBefore hlog hnext =>
    rw [hdownload, jobFile_extends hlog, closeFilesEmitted_extends hlog, if_neg hnext,
      jobFile_initMqttDownloader, closeFilesEmitted_initMqttDownloader]
    have hsize := countsFile_started_iff L r (newJobParsed L σ.agent).1
    have hnone : σ.processedBlock = none := by simp [OtaSystem.processedBlock, hevent]
    constructor
    · intro hcounts
      exact ⟨fun _ _ => hsize.mp (hcounts _ rfl), by simp [hnone]⟩
    · rintro ⟨hnonempty, -⟩ file hfile
      obtain rfl := Option.some.inj hfile
      exact hsize.mpr (hnonempty ⟨hevent, hsuspended, hstopped⟩ hstart)
  | @block i hsuspended hstopped =>
    have hsome : σ.processedBlock.isSome = true :=
      Option.isSome_iff_exists.mpr ⟨i, hblock.mpr ⟨rfl, hsuspended, hstopped⟩⟩
    have hnotJob : ¬ σ.HandlesJobDocument := fun hjob => by
      simpa [hevent] using hjob.1
    have hnext : (receivedFileBlock L r σ.agent i).2 = some .closeFile ↔
        (σ.agent.download.written r.otaPalWriteBlock).numOfBlocksRemaining = 0 := by
      rw [receivedFileBlock_eq]
      dsimp only
      split_ifs <;> simp_all
    rw [receivedFileBlock_log, receivedFileBlock_download, jobFile_otaPalWriteBlock,
      closeFilesEmitted_otaPalWriteBlock]
    simp only [hnext]
    constructor
    · intro hcounts
      refine ⟨fun hjob => absurd hjob hnotJob, fun _ hfile => ?_⟩
      obtain ⟨file, hfile⟩ := Option.isSome_iff_exists.mp hfile
      exact (countsFile_written_iff (h file hfile) _).mp (hcounts file hfile)
    · rintro ⟨-, hmissing⟩ file hfile
      refine (countsFile_written_iff (h file hfile) _).mpr (hmissing hsome ?_)
      exact Option.isSome_iff_exists.mpr ⟨file, hfile⟩

/-- A step that is not one of the `switch` keeps the counters. -/
theorem blockCounters_step_of_not_processing {a : Action} (h : BlockCounters σ)
    (hnot : ∀ r event, a = .processEvent r → σ.task ≠ .processing event) :
    BlockCounters (step L σ a) := by
  have hstep := step_cases L σ a
  generalize step L σ a = τ at hstep ⊢
  cases hstep with
  | quiet hquiet =>
    obtain ⟨job, data, hagent⟩ := hquiet.agent
    have hcloseFiles : τ.closeFiles = σ.closeFiles := by
      simp only [OtaSystem.closeFiles, hagent, hquiet.sending]
    unfold BlockCounters
    rw [hcloseFiles, hagent]
    exact h
  | process r hevent => exact absurd hevent (hnot r _ rfl)
  | @send event hevent =>
    have hcloseFiles : (sendEvent σ event).closeFiles = σ.closeFiles := by
      have hlog : (sendEvent σ event).agent.log =
          .otaSendEvent event (!decide σ.otaEventQueue.Full) :: σ.agent.log := rfl
      simp only [OtaSystem.closeFiles, not_sending_sendEvent, if_false, hlog,
        closeFilesEmitted_otaSendEvent, hevent, OtaTask.sending.injEq, Nat.add_zero]
    unfold BlockCounters
    rw [hcloseFiles]
    exact h

/-- From a state with right counters, a step leads to another one iff it meets
    the condition. -/
theorem blockCounters_step_iff {a : Action} (h : BlockCounters σ) :
    BlockCounters (step L σ a) ↔ CounterCondition L σ a := by
  by_cases hprocess : ∃ r event, a = .processEvent r ∧ σ.task = .processing event
  · obtain ⟨r, event, rfl, hevent⟩ := hprocess
    rw [step_processEvent hevent]
    exact blockCounters_processEvent_iff h hevent
  · have hnot : ∀ r event, a = .processEvent r → σ.task ≠ .processing event :=
      fun r event ha hevent => hprocess ⟨r, event, ha, hevent⟩
    refine iff_of_true (blockCounters_step_of_not_processing h hnot) ?_
    cases a with
    | processEvent r =>
      refine ⟨fun hjob => absurd hjob.1 (hnot r _ rfl), fun hsome => ?_⟩
      have hnone : σ.processedBlock = none := by
        cases htask : σ.task with
        | processing event => exact absurd htask (hnot r event rfl)
        | _ => simp [OtaSystem.processedBlock, htask]
      simp [hnone] at hsome
    | _ => trivial

end Steps

/-! ## Runs -/

/-- There is no job at boot. -/
theorem blockCounters_boot (L : Libraries) : BlockCounters (.boot L) := by
  intro file hfile
  have hnone : jobFile (OtaSystem.boot L).agent.log = none := rfl
  rw [hnone] at hfile
  exact absurd hfile (Option.not_mem_none file)

/-- **Block counters.** The counters are right in all states of a run iff the
    files are not empty and file blocks are handled while blocks are missing. -/
theorem blockCounters_iff (L : Libraries) (as : List Action) :
    (∀ pre, pre <+: as → BlockCounters (run (step L) (.boot L) pre)) ↔
      Along (step L) (CounterCondition L) (.boot L) as :=
  forall_prefix_iff_along (fun _ _ h => blockCounters_step_iff h) (blockCounters_boot L) as

/-- A job of three bytes, whose block arrives twice before it is processed. -/
def lateBlock : List Action :=
  [.jobMessage startNextAcceptedTopic (startNextAccepted (ascii "A") [] 3 (ascii "MEUC")),
    .receiveEvent, .processEvent {}, .receiveEvent, .processEvent {}, .sendEvent,
    .receiveEvent, .processEvent {},
    .dataMessage (streamBlock 0 0 (ascii "abc")) true,
    .dataMessage (streamBlock 0 0 (ascii "abc")) false,
    .receiveEvent, .processEvent { otaPalWriteBlock := 3 }, .sendEvent,
    .receiveEvent, .processEvent { otaPalWriteBlock := 3 }]

set_option maxRecDepth 20000 in
/-- The second copy of the last block takes `numOfBlocksRemaining` below zero. -/
theorem not_blockCounters_late :
    ¬ BlockCounters (run (step jsonDevice) (.boot jsonDevice) lateBlock) := by
  decide

end Corstone.Ota
