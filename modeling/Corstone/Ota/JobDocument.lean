import Corstone.Ota.Orchestrator

/-!
# What a job document can do

`JobDocumentOutcome` has one constructor for each way through
`receivedJobDocumentHandler`, with the agent it leaves behind.
`receivedJobDocumentHandler_outcome` says that there is no other way. The
invariants are proved by cases on it, with the field lemmas below.
-/

namespace Corstone.Ota

open Corstone.Lib

variable (L : Libraries) (r : Results) (s : OtaAgent)

/-! ## Fields after each step of the handler -/

@[simp] theorem clearJobFields_log : (clearJobFields s).log = s.log := rfl
@[simp] theorem clearJobFields_download : (clearJobFields s).download = s.download := rfl
@[simp] theorem clearJobFields_globalJobId :
    (clearJobFields s).globalJobId = s.globalJobId := rfl
@[simp] theorem clearJobFields_jobFields : (clearJobFields s).jobFields = {} := rfl
@[simp] theorem clearJobFields_otaAgentState :
    (clearJobFields s).otaAgentState = s.otaAgentState := rfl
@[simp] theorem clearJobFields_dataBuffers :
    (clearJobFields s).dataBuffers = s.dataBuffers := rfl
@[simp] theorem clearJobFields_jobDocument :
    (clearJobFields s).jobDocument = s.jobDocument := rfl

section RecordJobId

variable (jobId : Bytes)

@[simp] theorem recordJobId_log :
    (recordJobId s jobId).log = .jobIdRecorded jobId :: s.log := rfl
@[simp] theorem recordJobId_download : (recordJobId s jobId).download = s.download := rfl
@[simp] theorem recordJobId_globalJobId :
    (recordJobId s jobId).globalJobId = memcpy s.globalJobId jobId := rfl
@[simp] theorem recordJobId_otaAgentState :
    (recordJobId s jobId).otaAgentState = s.otaAgentState := rfl
@[simp] theorem recordJobId_dataBuffers :
    (recordJobId s jobId).dataBuffers = s.dataBuffers := rfl

end RecordJobId

@[simp] theorem jobDocumentParsed_log :
    (jobDocumentParsed L s).1.log = .jobDocumentParser (jobDocumentParsed L s).2 :: s.log := rfl
@[simp] theorem jobDocumentParsed_download :
    (jobDocumentParsed L s).1.download = s.download := rfl
@[simp] theorem jobDocumentParsed_globalJobId :
    (jobDocumentParsed L s).1.globalJobId = s.globalJobId := rfl
@[simp] theorem jobDocumentParsed_otaAgentState :
    (jobDocumentParsed L s).1.otaAgentState = s.otaAgentState := rfl
@[simp] theorem jobDocumentParsed_dataBuffers :
    (jobDocumentParsed L s).1.dataBuffers = s.dataBuffers := rfl

section SendFinalJobStatusMessage

variable (status : JobCurrentStatus)

@[simp] theorem sendFinalJobStatusMessage_log :
    (sendFinalJobStatusMessage r s status).log =
      .jobsUpdate (cstr s.globalJobId) status 3
        (s.read s.jobStatusDetails.updatedBy s.jobStatusDetails.updatedByLen) r.mqtt :: s.log := rfl
@[simp] theorem sendFinalJobStatusMessage_download :
    (sendFinalJobStatusMessage r s status).download = s.download := rfl
@[simp] theorem sendFinalJobStatusMessage_globalJobId :
    (sendFinalJobStatusMessage r s status).globalJobId = s.globalJobId.set 0 0 := rfl
@[simp] theorem sendFinalJobStatusMessage_otaAgentState :
    (sendFinalJobStatusMessage r s status).otaAgentState = s.otaAgentState := rfl
@[simp] theorem sendFinalJobStatusMessage_dataBuffers :
    (sendFinalJobStatusMessage r s status).dataBuffers = s.dataBuffers := rfl

end SendFinalJobStatusMessage

section SetPlatformImageState

variable (eState : OtaImageState)

@[simp] theorem otaPalSetPlatformImageState_log :
    (otaPalSetPlatformImageState r s eState).1.log =
      .otaPalSetPlatformImageState eState (setPlatformImageStateResult r s eState) :: s.log := rfl
@[simp] theorem otaPalSetPlatformImageState_download :
    (otaPalSetPlatformImageState r s eState).1.download = s.download := rfl
@[simp] theorem otaPalSetPlatformImageState_globalJobId :
    (otaPalSetPlatformImageState r s eState).1.globalJobId = s.globalJobId := rfl
@[simp] theorem otaPalSetPlatformImageState_otaAgentState :
    (otaPalSetPlatformImageState r s eState).1.otaAgentState = s.otaAgentState := rfl
@[simp] theorem otaPalSetPlatformImageState_dataBuffers :
    (otaPalSetPlatformImageState r s eState).1.dataBuffers = s.dataBuffers := rfl

end SetPlatformImageState

@[simp] theorem initMqttDownloader_log :
    (initMqttDownloader L r s).log =
      .prvMQTTSubscribe (initMqttDownloader L r s).mqttFileDownloaderContext.topicStreamData
          r.mqtt ::
        .initMqttDownloader s.jobFields.fileId s.jobFields.fileSize :: s.log := rfl
@[simp] theorem initMqttDownloader_download :
    (initMqttDownloader L r s).download =
      { numOfBlocksRemaining := numberOfBlocks s.jobFields.fileSize
        currentFileId := s.jobFields.fileId.toUInt8
        currentBlockOffset := 0
        totalBytesReceived := 0 } := rfl
@[simp] theorem initMqttDownloader_globalJobId :
    (initMqttDownloader L r s).globalJobId = s.globalJobId := rfl
@[simp] theorem initMqttDownloader_otaAgentState :
    (initMqttDownloader L r s).otaAgentState = s.otaAgentState := rfl
@[simp] theorem initMqttDownloader_dataBuffers :
    (initMqttDownloader L r s).dataBuffers = s.dataBuffers := rfl

@[simp] theorem convertSignatureToDER_log :
    (convertSignatureToDER L s).1.log =
      .convertSignatureToDER (convertSignatureToDER L s).2 :: s.log := by
  unfold convertSignatureToDER
  dsimp only
  split <;> rfl
@[simp] theorem convertSignatureToDER_download :
    (convertSignatureToDER L s).1.download = s.download := by
  unfold convertSignatureToDER
  dsimp only
  split <;> rfl
@[simp] theorem convertSignatureToDER_globalJobId :
    (convertSignatureToDER L s).1.globalJobId = s.globalJobId := by
  unfold convertSignatureToDER
  dsimp only
  split <;> rfl
@[simp] theorem convertSignatureToDER_otaAgentState :
    (convertSignatureToDER L s).1.otaAgentState = s.otaAgentState := by
  unfold convertSignatureToDER
  dsimp only
  split <;> rfl
@[simp] theorem convertSignatureToDER_dataBuffers :
    (convertSignatureToDER L s).1.dataBuffers = s.dataBuffers := by
  unfold convertSignatureToDER
  dsimp only
  split <;> rfl

section CreateFileForRx

/-- `otaPal_CreateFileForRx` writes its own statics and `jobFields.fileId`. -/
theorem otaPalCreateFileForRx_frame :
    ∃ context component fields, (otaPalCreateFileForRx r s).1 =
      { s with
          pxSystemContext := context
          xOTAComponentID := component
          jobFields := fields
          log := .otaPalCreateFileForRx (otaPalCreateFileForRx r s).2 :: s.log } := by
  unfold otaPalCreateFileForRx
  split
  · exact ⟨_, _, _, rfl⟩
  · split_ifs
    · exact ⟨_, _, _, rfl⟩
    · exact ⟨_, _, _, rfl⟩

@[simp] theorem otaPalCreateFileForRx_log :
    (otaPalCreateFileForRx r s).1.log =
      .otaPalCreateFileForRx (otaPalCreateFileForRx r s).2 :: s.log := by
  obtain ⟨_, _, _, h⟩ := otaPalCreateFileForRx_frame r s
  rw [h]
@[simp] theorem otaPalCreateFileForRx_download :
    (otaPalCreateFileForRx r s).1.download = s.download := by
  obtain ⟨_, _, _, h⟩ := otaPalCreateFileForRx_frame r s
  rw [h]
@[simp] theorem otaPalCreateFileForRx_globalJobId :
    (otaPalCreateFileForRx r s).1.globalJobId = s.globalJobId := by
  obtain ⟨_, _, _, h⟩ := otaPalCreateFileForRx_frame r s
  rw [h]
@[simp] theorem otaPalCreateFileForRx_otaAgentState :
    (otaPalCreateFileForRx r s).1.otaAgentState = s.otaAgentState := by
  obtain ⟨_, _, _, h⟩ := otaPalCreateFileForRx_frame r s
  rw [h]
@[simp] theorem otaPalCreateFileForRx_dataBuffers :
    (otaPalCreateFileForRx r s).1.dataBuffers = s.dataBuffers := by
  obtain ⟨_, _, _, h⟩ := otaPalCreateFileForRx_frame r s
  rw [h]

/-- A file is created, or its creation fails; there is no third result. -/
theorem otaPalCreateFileForRx_result :
    (otaPalCreateFileForRx r s).2 = .fileCreated ∨
      (otaPalCreateFileForRx r s).2 = .fileCreateFailed := by
  unfold otaPalCreateFileForRx
  split
  · exact Or.inr rfl
  · split_ifs
    · exact Or.inr rfl
    · exact Or.inl rfl

end CreateFileForRx

/-! ## The outcomes -/

/-- The job id of the received document. -/
def OtaAgent.jobId : Bytes := L.jobsGetJobId s.jobDocument

/-- The document names a job and `strncmp` finds its id in `globalJobId`. -/
def SameJob : Prop :=
  s.jobId L ≠ [] ∧ strncmp s.globalJobId (s.jobId L) (s.jobId L).length = 0

/-- The document names a job and `strncmp` does not find its id. -/
def NewJob : Prop :=
  s.jobId L ≠ [] ∧ strncmp s.globalJobId (s.jobId L) (s.jobId L).length ≠ 0

instance : Decidable (SameJob L s) :=
  inferInstanceAs (Decidable
    (s.jobId L ≠ [] ∧ strncmp s.globalJobId (s.jobId L) (s.jobId L).length = 0))

instance : Decidable (NewJob L s) :=
  inferInstanceAs (Decidable
    (s.jobId L ≠ [] ∧ strncmp s.globalJobId (s.jobId L) (s.jobId L).length ≠ 0))

/-- The agent after the parser calls for a new job. -/
def newJobParsed : OtaAgent × Bool :=
  jobDocumentParsed L (recordJobId (clearJobFields s) (s.jobId L))

/-- The agent when the download of a new job has been set up and the signature
    converted. -/
def newJobConverted : OtaAgent × Bool :=
  convertSignatureToDER L (initMqttDownloader L r (newJobParsed L s).1)

@[simp] theorem newJobParsed_log :
    (newJobParsed L s).1.log =
      .jobDocumentParser (newJobParsed L s).2 :: .jobIdRecorded (s.jobId L) :: s.log := rfl
@[simp] theorem newJobParsed_download : (newJobParsed L s).1.download = s.download := rfl
@[simp] theorem newJobParsed_globalJobId :
    (newJobParsed L s).1.globalJobId = memcpy s.globalJobId (s.jobId L) := rfl
@[simp] theorem newJobParsed_otaAgentState :
    (newJobParsed L s).1.otaAgentState = s.otaAgentState := rfl
@[simp] theorem newJobParsed_dataBuffers :
    (newJobParsed L s).1.dataBuffers = s.dataBuffers := rfl

@[simp] theorem newJobConverted_log :
    (newJobConverted L r s).1.log =
      .convertSignatureToDER (newJobConverted L r s).2 ::
        (initMqttDownloader L r (newJobParsed L s).1).log :=
  convertSignatureToDER_log L _
@[simp] theorem newJobConverted_download :
    (newJobConverted L r s).1.download =
      (initMqttDownloader L r (newJobParsed L s).1).download :=
  convertSignatureToDER_download L _
@[simp] theorem newJobConverted_globalJobId :
    (newJobConverted L r s).1.globalJobId = memcpy s.globalJobId (s.jobId L) :=
  convertSignatureToDER_globalJobId L _
@[simp] theorem newJobConverted_otaAgentState :
    (newJobConverted L r s).1.otaAgentState = s.otaAgentState :=
  convertSignatureToDER_otaAgentState L _
@[simp] theorem newJobConverted_dataBuffers :
    (newJobConverted L r s).1.dataBuffers = s.dataBuffers :=
  convertSignatureToDER_dataBuffers L _

/-- The document sets up a transfer: it names a new job, is parsed, and the
    image is not in pending commit state. -/
structure StartsTransfer : Prop where
  newJob : NewJob L s
  parsed : (newJobParsed L s).2 = true
  state : otaPalGetPlatformImageState r (newJobParsed L s).1 ≠ .pendingCommit

/-- The document starts a download: it gets as far as `otaPal_CreateFileForRx`,
    which creates the file. -/
structure StartsDownload : Prop extends StartsTransfer L r s where
  converted : (newJobConverted L r s).2 = true
  created : (otaPalCreateFileForRx r (newJobConverted L r s).1).2 = .fileCreated

theorem startsTransfer_iff :
    StartsTransfer L r s ↔ NewJob L s ∧ (newJobParsed L s).2 = true ∧
      otaPalGetPlatformImageState r (newJobParsed L s).1 ≠ .pendingCommit :=
  ⟨fun h => ⟨h.newJob, h.parsed, h.state⟩, fun ⟨hid, hparse, hstate⟩ => ⟨hid, hparse, hstate⟩⟩

instance : Decidable (StartsTransfer L r s) := decidable_of_iff _ (startsTransfer_iff L r s).symm

theorem startsDownload_iff :
    StartsDownload L r s ↔ StartsTransfer L r s ∧ (newJobConverted L r s).2 = true ∧
      (otaPalCreateFileForRx r (newJobConverted L r s).1).2 = .fileCreated :=
  ⟨fun h => ⟨h.toStartsTransfer, h.converted, h.created⟩, fun ⟨h, hsig, hfile⟩ => ⟨h, hsig, hfile⟩⟩

instance : Decidable (StartsDownload L r s) := decidable_of_iff _ (startsDownload_iff L r s).symm

/-- The ways through `receivedJobDocumentHandler`, with the agent and the
    result at their ends. -/
inductive JobDocumentOutcome : OtaAgent × OtaPalJobDocProcessingResult → Prop
  | noJobId (hid : s.jobId L = []) :
    JobDocumentOutcome (clearJobFields s, .fileCreateFailed)
  | sameJob (hid : SameJob L s) :
    JobDocumentOutcome (clearJobFields s, .fileCreated)
  | parseFailed (hid : NewJob L s) (hparse : (newJobParsed L s).2 = false) :
    JobDocumentOutcome ((newJobParsed L s).1, .fileCreateFailed)
  | newImageBooted (hid : NewJob L s) (hparse : (newJobParsed L s).2 = true)
      (hstate : otaPalGetPlatformImageState r (newJobParsed L s).1 = .pendingCommit) :
    JobDocumentOutcome
      (sendFinalJobStatusMessage r
        (otaPalSetPlatformImageState r (newJobParsed L s).1 .accepted).1 .succeeded,
        .newImageBooted)
  | newImageBootFailed (hid : NewJob L s) (hparse : (newJobParsed L s).2 = true)
      (hstate : otaPalGetPlatformImageState r (newJobParsed L s).1 = .pendingCommit) :
    JobDocumentOutcome
      (sendFinalJobStatusMessage r
        (otaPalSetPlatformImageState r (newJobParsed L s).1 .rejected).1 .failed,
        .newImageBootFailed)
  | signatureFailed (h : StartsTransfer L r s)
      (hsig : (newJobConverted L r s).2 = false) :
    JobDocumentOutcome ((newJobConverted L r s).1, .fileCreateFailed)
  | createFailed (h : StartsTransfer L r s)
      (hsig : (newJobConverted L r s).2 = true)
      (hfile : (otaPalCreateFileForRx r (newJobConverted L r s).1).2 = .fileCreateFailed) :
    JobDocumentOutcome
      ((otaPalCreateFileForRx r (newJobConverted L r s).1).1, .fileCreateFailed)
  | fileCreated (h : StartsDownload L r s) :
    JobDocumentOutcome
      ((otaPalCreateFileForRx r (newJobConverted L r s).1).1, .fileCreated)

/-- The self test ends in one of two verdicts. -/
theorem selfTest_outcome (hid : NewJob L s) (hparse : (newJobParsed L s).2 = true)
    (hstate : otaPalGetPlatformImageState r (newJobParsed L s).1 = .pendingCommit) :
    JobDocumentOutcome L r s (selfTest r (newJobParsed L s).1) := by
  unfold selfTest
  dsimp only
  split_ifs
  · exact .newImageBooted hid hparse hstate
  · exact .newImageBootFailed hid hparse hstate

/-- A download starts, or fails at the signature or at the file. -/
theorem startDownload_outcome (h : StartsTransfer L r s) :
    JobDocumentOutcome L r s (startDownload L r (newJobParsed L s).1) := by
  change JobDocumentOutcome L r s
    (if (newJobConverted L r s).2 then otaPalCreateFileForRx r (newJobConverted L r s).1
      else ((newJobConverted L r s).1, .fileCreateFailed))
  split_ifs with hsig
  · rcases otaPalCreateFileForRx_result r (newJobConverted L r s).1 with hfile | hfile
    · have hout := JobDocumentOutcome.fileCreated ⟨h, hsig, hfile⟩
      rwa [← hfile, Prod.mk.eta] at hout
    · have hout := JobDocumentOutcome.createFailed h hsig hfile
      rwa [← hfile, Prod.mk.eta] at hout
  · exact .signatureFailed h (by simpa using hsig)

/-- The handler in terms of the agents on its way. -/
theorem receivedJobDocumentHandler_eq :
    receivedJobDocumentHandler L r s =
      if (s.jobId L).length ≠ 0 then
        if strncmp s.globalJobId (s.jobId L) (s.jobId L).length ≠ 0 then
          if (newJobParsed L s).2 then
            if otaPalGetPlatformImageState r (newJobParsed L s).1 = .pendingCommit then
              selfTest r (newJobParsed L s).1
            else startDownload L r (newJobParsed L s).1
          else ((newJobParsed L s).1, .fileCreateFailed)
        else (clearJobFields s, .fileCreated)
      else (clearJobFields s, .fileCreateFailed) := by
  rfl

/-- A new job in pending commit state is a self test. -/
theorem receivedJobDocumentHandler_selfTest (hid : NewJob L s)
    (hparse : (newJobParsed L s).2 = true)
    (hstate : otaPalGetPlatformImageState r (newJobParsed L s).1 = .pendingCommit) :
    receivedJobDocumentHandler L r s = selfTest r (newJobParsed L s).1 := by
  have hlength : (s.jobId L).length ≠ 0 := by simpa using hid.1
  rw [receivedJobDocumentHandler_eq, if_pos hlength, if_pos hid.2, if_pos hparse, if_pos hstate]

/-- **There is no other way through the handler.** -/
theorem receivedJobDocumentHandler_outcome :
    JobDocumentOutcome L r s (receivedJobDocumentHandler L r s) := by
  rw [receivedJobDocumentHandler_eq]
  split_ifs with hid hcmp hparse hstate
  · exact selfTest_outcome L r s ⟨by simpa using hid, hcmp⟩ hparse hstate
  · exact startDownload_outcome L r s ⟨⟨by simpa using hid, hcmp⟩, hparse, hstate⟩
  · exact .parseFailed ⟨by simpa using hid, hcmp⟩ (by simpa using hparse)
  · exact .sameJob ⟨by simpa using hid, by simpa using hcmp⟩
  · exact .noJobId (by simpa using hid)

/-- A job document is dropped, or its outcome is processed. -/
theorem processOTAEvents_receivedJobDocument :
    processOTAEvents L r s .receivedJobDocument = (s, none) ∨
      ∃ p, JobDocumentOutcome L r s p ∧
        processOTAEvents L r s .receivedJobDocument = jobDocumentProcessed p.1 p.2 := by
  unfold processOTAEvents
  dsimp only
  split_ifs
  · exact Or.inl rfl
  · exact Or.inl rfl
  · exact Or.inr ⟨_, receivedJobDocumentHandler_outcome L r s, rfl⟩

end Corstone.Ota
