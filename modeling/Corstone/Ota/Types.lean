import Corstone.Lib.BoundedQueue
import Corstone.Lib.CString

/-!
# Types of the OTA agent

The enumerations and structures of `ota_types_definitions.h`, `ota_pal.h`,
`job_parser.h` and `ota_appversion32.h`, the statics of `ota_orchestrator.c`
and `ota_pal.c` in one structure `OtaAgent`, and the outside of the agent:

* `Libraries`: the functions of the submodules (Jobs, MQTT file streams,
  coreJSON, base64) the agent computes with. They are parameters.
* `Results`: what the PSA services, the flash and the MQTT agent return while
  one event is processed. They are inputs.
* `Call`: what the agent does to the outside. `OtaAgent.log` is the history of
  its calls, newest first.

A pointer into a message is its offset in `jobDocBuffer.jobData`, so that the
fields of a job document change their meaning when the buffer is overwritten.
-/

namespace Corstone.Ota

open Corstone.Lib

/-! ## Configuration -/

/-- `mqttFileDownloader_CONFIG_BLOCK_SIZE` (`MQTTFileDownloader_config.h`). -/
def blockSize : UInt32 := 4096

/-- `JOB_DOC_SIZE` (`ota_types_definitions.h`, line 84). -/
def jobDocSize : ℕ := 2048

/-- `MAX_JOB_ID_LENGTH` (`ota_orchestrator.c`, line 83). -/
def maxJobIdLength : ℕ := 64

/-- `otaconfigMAX_NUM_OTA_DATA_BUFFERS` (`ota_config.h`): one block request at
    a time and one extra buffer. -/
def maxNumOtaDataBuffers : ℕ := 2

/-- The size of `OtaDataEvent_t.data`: `OTA_DATA_BLOCK_SIZE * 2`. -/
def dataBufferSize : ℕ := 8192

/-- `OTA_MAX_SIGNATURE_SIZE` (`ota_types_definitions.h`, line 70). -/
def otaMaxSignatureSize : ℕ := 384

/-- `MAX_MESSAGES` (`ota_os_freertos.c`, line 41). -/
def maxMessages : ℕ := 20

/-! ## Enumerations -/

/-- `OtaState_t`. -/
inductive OtaState
  | noTransition | init | ready | requestingJob | waitingForJob | creatingFile
  | requestingFileBlock | waitingForFileBlock | closingFile | suspended | shuttingDown
  | stopped | all
  deriving DecidableEq, Repr

/-- `OtaEventMsg_t`: the event and, for a file block, the index of its data
    buffer. The job event always points to `jobDocBuffer`. -/
inductive OtaEventMsg
  | start | requestJobDocument | receivedJobDocument | createFile | requestFileBlock
  | receivedFileBlock (dataEvent : ℕ) | closeFile | activateImage | suspend | resume
  | userAbort | shutdown
  deriving DecidableEq, Repr

/-- `OtaImageState_t`. -/
inductive OtaImageState
  | unknown | testing | accepted | rejected | aborted
  deriving DecidableEq, Repr

/-- `OtaPalImageState_t`. -/
inductive OtaPalImageState
  | unknown | pendingCommit | valid | invalid
  deriving DecidableEq, Repr

/-- `OtaPalJobDocProcessingResult_t`. -/
inductive OtaPalJobDocProcessingResult
  | fileCreated | fileCreateFailed | newImageBooted | newImageBootFailed
  | processingStateInvalid
  deriving DecidableEq, Repr

/-- `JobCurrentStatus_t`, as far as the agent sends it. -/
inductive JobCurrentStatus
  | inProgress | failed | succeeded
  deriving DecidableEq, Repr

/-- The states of a firmware component that the PAL compares
    `psa_fwu_component_info_t.state` with. -/
inductive FwuComponentState
  | trial | staged | other
  deriving DecidableEq, Repr

/-- What becomes of a command that is given to the MQTT agent: it goes out to
    the broker, it is accepted but never goes out, or it is refused. -/
inductive MqttOutcome
  | transmitted | lost | refused
  deriving DecidableEq, Repr

/-! ## Structures -/

/-- A pointer into one of the buffers that the parsers return pointers to. -/
inductive Ptr
  | null
  | jobDoc (offset : ℕ)
  | signatureDecoded
  deriving DecidableEq, Repr

/-- `AfrOtaJobDocumentFields_t`, as far as the agent and the PAL read it. -/
structure AfrOtaJobDocumentFields where
  signature : Ptr := .null
  signatureLen : ℕ := 0
  filepath : Ptr := .null
  filepathLen : ℕ := 0
  imageRef : Ptr := .null
  imageRefLen : ℕ := 0
  fileId : UInt32 := 0
  fileSize : UInt32 := 0
  deriving DecidableEq, Repr

/-- `AfrOtaJobDocumentStatusDetails_t`. -/
structure AfrOtaJobDocumentStatusDetails where
  updatedBy : Ptr := .null
  updatedByLen : ℕ := 0
  deriving DecidableEq, Repr

/-- `OtaJobEventData_t`. -/
structure OtaJobEventData where
  jobData : Bytes
  jobDataLength : ℕ
  deriving DecidableEq, Repr

/-- `OtaDataEvent_t`. -/
structure OtaDataEvent where
  data : Bytes
  dataLength : ℕ
  bufferUsed : Bool
  deriving DecidableEq, Repr

/-- `MqttFileDownloaderContext_t`, as far as the agent reads it. -/
structure MqttFileDownloaderContext where
  topicStreamData : Bytes := []
  topicGetStream : Bytes := []
  deriving DecidableEq, Repr

/-- `AppVersion32_t` as the triple of its union. -/
structure AppVersion32 where
  major : UInt8
  minor : UInt8
  build : UInt16
  deriving DecidableEq, Repr

/-- `u.unsignedVersion32` on a little-endian target. -/
def AppVersion32.unsignedVersion32 (v : AppVersion32) : UInt32 :=
  UInt32.ofNat (v.build.toNat + v.minor.toNat * 2 ^ 16 + v.major.toNat * 2 ^ 24)

/-- `psa_fwu_image_version_t`, as far as the PAL reads it. -/
structure FwuImageVersion where
  major : UInt8
  minor : UInt8
  build : UInt32
  deriving DecidableEq, Repr

/-! ## The outside of the agent -/

/-- What `mqttDownloader_processReceivedDataBlock` extracts from a message. -/
structure ReceivedDataBlock where
  fileId : ℤ
  blockId : ℤ
  blockSize : ℤ
  decodedData : Bytes
  deriving DecidableEq, Repr

/-- The submodule functions the agent computes with, and the constants of the
    configuration that differ between the applications. -/
structure Libraries where
  /-- `FWU_COMPONENT_NUMBER`. -/
  fwuComponentNumber : UInt32
  /-- `OTA_PAL_SIGNATURE_FORMAT == OTA_PAL_SIGNATURE_ASN1_DER`. -/
  signatureAsn1Der : Bool
  /-- `Jobs_IsStartNextAccepted` of a topic. -/
  jobsIsStartNextAccepted : Bytes → Bool
  /-- `Jobs_GetJobId`: the id in the message, empty if there is none. -/
  jobsGetJobId : Bytes → Bytes
  /-- `Jobs_GetJobDocument`: start and length in the message, length 0 if there
      is none. -/
  jobsGetJobDocument : Bytes → ℕ × ℕ
  /-- `otaParser_parseJobDocFile` of a message, the place of the job document
      in it and a file index: the next index and the fields. -/
  otaParserParseJobDocFile :
    Bytes → ℕ × ℕ → ℤ → AfrOtaJobDocumentFields → ℤ × AfrOtaJobDocumentFields
  /-- `JSON_SearchConst` for `execution.statusDetails.updatedBy`. -/
  jsonSearchUpdatedBy : Bytes → Option (ℕ × ℕ)
  /-- `base64_Decode` into a destination of the given size. -/
  base64Decode : ℕ → Bytes → Option Bytes
  /-- `mqttDownloader_init` for a stream name. -/
  mqttDownloaderInit : Bytes → MqttFileDownloaderContext
  /-- `mqttDownloader_processReceivedDataBlock`. -/
  mqttDownloaderProcessReceivedDataBlock :
    MqttFileDownloaderContext → Bytes → ReceivedDataBlock

/-- `psa_status_t`. -/
abbrev PsaStatus := ℤ

/-- `PSA_SUCCESS`. -/
def psaSuccess : PsaStatus := 0

/-- `PSA_SUCCESS_REBOOT`. -/
def psaSuccessReboot : PsaStatus := 1

/-- What the calls made while one event is processed return. -/
structure Results where
  /-- The fate of the publish or subscribe command of the event. -/
  mqtt : MqttOutcome := .transmitted
  psaFwuStart : PsaStatus := psaSuccess
  psaFwuFinish : PsaStatus := psaSuccess
  psaFwuInstall : PsaStatus := psaSuccess
  psaFwuAccept : PsaStatus := psaSuccess
  psaFwuClean : PsaStatus := psaSuccess
  psaFwuCancel : PsaStatus := psaSuccess
  psaFwuReject : PsaStatus := psaSuccess
  /-- `psa_fwu_query` of the version getter and of the signature check. -/
  psaFwuQuery : PsaStatus := psaSuccess
  componentVersion : FwuImageVersion := ⟨0, 0, 0⟩
  /-- `psa_fwu_query` in `otaPal_SetPlatformImageState`. -/
  psaFwuStateQuery : PsaStatus := psaSuccess
  componentState : FwuComponentState := .other
  /-- The state that `otaPal_GetPlatformImageState` reads off the query. -/
  platformImageState : OtaPalImageState := .valid
  /-- `prvConvertToRawECDSASignature`. -/
  rawSignature : Bool := true
  psaGetKeyAttributes : PsaStatus := psaSuccess
  /-- The status of the signature verification in `otaPal_CheckSignature`. -/
  psaVerify : PsaStatus := psaSuccess
  /-- `otaPal_WriteBlock`: the number of bytes written or an error code. -/
  otaPalWriteBlock : ℤ := 0
  /-- The stack garbage in a `version` that was not written. -/
  uninitialised : AppVersion32 := ⟨0, 0, 0⟩

/-- What the agent does to the outside, with the results. -/
inductive Call
  /-- `memcpy( globalJobId, jobId, jobIdLength )`: the document starts a job. -/
  | jobIdRecorded (jobId : Bytes)
  | jobDocumentParser (handled : Bool)
  /-- `initMqttDownloader` with the file id and size of the job. -/
  | initMqttDownloader (fileId fileSize : UInt32)
  | convertSignatureToDER (handled : Bool)
  | otaPalCreateFileForRx (result : OtaPalJobDocProcessingResult)
  /-- `receivedJobDocumentHandler` has returned. -/
  | receivedJobDocumentHandler (result : OtaPalJobDocProcessingResult)
  | otaPalWriteBlock (offset : UInt32) (data : Bytes) (result : ℤ)
  /-- `otaPal_CloseFile`: the status of `psa_fwu_finish` and, if it was
      reached, the result of `otaPal_CheckSignature`. -/
  | otaPalCloseFile (finish : PsaStatus) (signature : Option Bool)
  | psaFwuInstall (status : PsaStatus)
  | otaPalSetPlatformImageState (state : OtaImageState) (result : Bool)
  /-- A status update published with the topic of `jobId`. -/
  | jobsUpdate (jobId : Bytes) (status : JobCurrentStatus) (expectedVersion : ℕ)
      (updatedBy : Bytes) (outcome : MqttOutcome)
  | jobsStartNext (outcome : MqttOutcome)
  | prvMQTTSubscribe (topicFilter : Bytes) (outcome : MqttOutcome)
  /-- A block request published for a file id and a block offset. -/
  | getDataBlockRequest (fileId : UInt8) (blockOffset : UInt16) (outcome : MqttOutcome)
  /-- `OtaSendEvent_FreeRTOS` of the agent's own next event. -/
  | otaSendEvent (event : OtaEventMsg) (sent : Bool)
  | vOtaActiveHook
  | vOtaNotActiveHook
  deriving DecidableEq, Repr

/-! ## The statics -/

/-- The statics that count the blocks of a download (`ota_orchestrator.c`,
    lines 206–226). -/
structure Download where
  currentFileId : UInt8 := 0
  currentBlockOffset : UInt32 := 0
  numOfBlocksRemaining : UInt32 := 0
  totalBytesReceived : UInt32 := 0
  deriving DecidableEq, Repr

/-- The statics of `ota_orchestrator.c` (lines 178–241) and of `ota_pal.c`. -/
structure OtaAgent where
  otaAgentState : OtaState
  globalJobId : Bytes
  jobFields : AfrOtaJobDocumentFields
  jobStatusDetails : AfrOtaJobDocumentStatusDetails
  jobDocBuffer : OtaJobEventData
  mqttFileDownloaderContext : MqttFileDownloaderContext
  download : Download
  dataBuffers : List OtaDataEvent
  otaImageSignatureDecoded : Bytes
  /-- `pxSystemContext != NULL`; it is never anything but `&jobFields`. -/
  pxSystemContext : Bool
  xOTAComponentID : UInt32
  log : List Call

namespace OtaAgent

/-- The statics at boot; `prvOTAAgentTask` has set the state to ready. -/
def boot (L : Libraries) : OtaAgent where
  otaAgentState := .ready
  globalJobId := List.replicate maxJobIdLength 0
  jobFields := {}
  jobStatusDetails := {}
  jobDocBuffer := ⟨List.replicate jobDocSize 0, 0⟩
  mqttFileDownloaderContext := {}
  download := {}
  dataBuffers := List.replicate maxNumOtaDataBuffers ⟨List.replicate dataBufferSize 0, 0, false⟩
  otaImageSignatureDecoded := List.replicate otaMaxSignatureSize 0
  pxSystemContext := false
  xOTAComponentID := L.fwuComponentNumber
  log := []

/-- The agent after one more call. -/
def call (s : OtaAgent) (c : Call) : OtaAgent := { s with log := c :: s.log }

/-- The message in `jobDocBuffer`. -/
def jobDocument (s : OtaAgent) : Bytes := s.jobDocBuffer.jobData.take s.jobDocBuffer.jobDataLength

/-- The `n` bytes at a pointer. -/
def read (s : OtaAgent) : Ptr → ℕ → Bytes
  | .null, _ => []
  | .jobDoc offset, n => (s.jobDocBuffer.jobData.drop offset).take n
  | .signatureDecoded, n => s.otaImageSignatureDecoded.take n

section Call

variable (s : OtaAgent) (c : Call)

@[simp] theorem call_otaAgentState : (s.call c).otaAgentState = s.otaAgentState := rfl
@[simp] theorem call_globalJobId : (s.call c).globalJobId = s.globalJobId := rfl
@[simp] theorem call_jobFields : (s.call c).jobFields = s.jobFields := rfl
@[simp] theorem call_download : (s.call c).download = s.download := rfl
@[simp] theorem call_dataBuffers : (s.call c).dataBuffers = s.dataBuffers := rfl
@[simp] theorem call_log : (s.call c).log = c :: s.log := rfl

end Call

end OtaAgent

end Corstone.Ota
