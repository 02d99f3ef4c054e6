import Corstone.Lib.Decimal
import Corstone.Ota.Pal

/-!
# The event handlers of the OTA orchestrator

Models of the functions of `ota_orchestrator.c` and
`ota_orchestrator_helpers.c` up to `processOTAEvents`, which is here the
`switch` of the source: it takes the received event and returns the event that
it then sends to its own queue, if any. Receiving and sending are in
`Corstone.Ota.EventLoop`.

`receivedJobDocumentHandler` is cut at its nested conditionals into
`parseJobDocument`, `selfTest` and `startDownload`.
`receivedJobDocumentHandler_outcome` lists everything it can do.
-/

namespace Corstone.Ota

open Corstone.Lib

/-! ## Status messages -/

/-- `sendStatusDetailsMessage` (lines 473–540). A version that could not be
    read is sent as it is on the stack. -/
def sendStatusDetailsMessage (r : Results) (s : OtaAgent) : OtaAgent :=
  let version := (otaPalGetPlatformImageVersion r s).getD r.uninitialised
  let updatedBy := decimal version.unsignedVersion32.toNat
  s.call (.jobsUpdate (cstr s.globalJobId) .inProgress 2 updatedBy r.mqtt)

theorem sendStatusDetailsMessage_log (r : Results) (s : OtaAgent) :
    (sendStatusDetailsMessage r s).log =
      .jobsUpdate (cstr s.globalJobId) .inProgress 2
        (decimal ((otaPalGetPlatformImageVersion r s).getD r.uninitialised).unsignedVersion32.toNat)
        r.mqtt :: s.log := rfl

/-- `sendFinalJobStatusMessage` (lines 542–580). -/
def sendFinalJobStatusMessage (r : Results) (s : OtaAgent) (status : JobCurrentStatus) :
    OtaAgent :=
  let updatedBy := s.read s.jobStatusDetails.updatedBy s.jobStatusDetails.updatedByLen
  let s := s.call (.jobsUpdate (cstr s.globalJobId) status 3 updatedBy r.mqtt)
  { s with globalJobId := s.globalJobId.set 0 0 }

/-- `requestJobDocumentHandler` (lines 745–773). -/
def requestJobDocumentHandler (r : Results) (s : OtaAgent) : OtaAgent :=
  s.call (.jobsStartNext r.mqtt)

/-! ## Job documents -/

/-- The loop of `jobDocumentParser` from a file index on. The index is an
    `int8_t` that grows with every file, so that 128 turns are enough. -/
def jobDocumentParserLoop (L : Libraries) (message : Bytes) (jobDoc : ℕ × ℕ) :
    ℕ → ℤ → AfrOtaJobDocumentFields → ℤ × AfrOtaJobDocumentFields
  | 0, fileIndex, jobFields => (fileIndex, jobFields)
  | fuel + 1, fileIndex, jobFields =>
    let (fileIndex, jobFields) := L.otaParserParseJobDocFile message jobDoc fileIndex jobFields
    if fileIndex > 0 then jobDocumentParserLoop L message jobDoc fuel fileIndex jobFields
    else (fileIndex, jobFields)

/-- `jobDocumentParser` (`ota_orchestrator_helpers.c`, lines 51–84). -/
def jobDocumentParser (L : Libraries) (message : Bytes) (jobFields : AfrOtaJobDocumentFields) :
    Bool × AfrOtaJobDocumentFields :=
  let jobDoc := L.jobsGetJobDocument message
  if jobDoc.2 ≠ 0 then
    let (fileIndex, jobFields) := jobDocumentParserLoop L message jobDoc 128 0 jobFields
    (fileIndex == 0, jobFields)
  else (true, jobFields)

/-- `populateJobStatusDetailsFields` (`0003-Add-functionality…updated.patch`):
    the details stay as they are when the document has no `updatedBy`. -/
def populateJobStatusDetailsFields (L : Libraries) (message : Bytes)
    (details : AfrOtaJobDocumentStatusDetails) : AfrOtaJobDocumentStatusDetails :=
  match L.jsonSearchUpdatedBy message with
  | some (offset, length) => { updatedBy := .jobDoc offset, updatedByLen := length }
  | none => details

/-- `convertSignatureToDER` (`ota_orchestrator_helpers.c`, lines 23–49) into
    `OtaImageSignatureDecoded`. -/
def convertSignatureToDER (L : Libraries) (s : OtaAgent) : OtaAgent × Bool :=
  let signature := s.read s.jobFields.signature s.jobFields.signatureLen
  match L.base64Decode otaMaxSignatureSize signature with
  | some decoded =>
    ({ s with
        otaImageSignatureDecoded := memcpy s.otaImageSignatureDecoded decoded
        jobFields :=
          { s.jobFields with signature := .signatureDecoded, signatureLen := decoded.length } }.call
      (.convertSignatureToDER true), true)
  | none => (s.call (.convertSignatureToDER false), false)

/-- The number of blocks of a file, as `initMqttDownloader` computes it. -/
def numberOfBlocks (fileSize : UInt32) : UInt32 :=
  fileSize / blockSize + if fileSize % blockSize > 0 then 1 else 0

/-- `initMqttDownloader` (lines 906–932). -/
def initMqttDownloader (L : Libraries) (r : Results) (s : OtaAgent) : OtaAgent :=
  let context := L.mqttDownloaderInit (s.read s.jobFields.imageRef s.jobFields.imageRefLen)
  let s := { s with
    download :=
      { numOfBlocksRemaining := numberOfBlocks s.jobFields.fileSize
        currentFileId := s.jobFields.fileId.toUInt8
        currentBlockOffset := 0
        totalBytesReceived := 0 }
    mqttFileDownloaderContext := context }
  (s.call (.initMqttDownloader s.jobFields.fileId s.jobFields.fileSize)).call
    (.prvMQTTSubscribe context.topicStreamData r.mqtt)

/-- The version in the `updatedBy` field of the job, read into a `uint16_t`
    (lines 841–847). -/
def updatedByVer (s : OtaAgent) : UInt16 :=
  (strtoul (s.read s.jobStatusDetails.updatedBy s.jobStatusDetails.updatedByLen)).toUInt16

/-- The branch of `receivedJobDocumentHandler` for an image in pending commit
    state (lines 817–876). -/
def selfTest (r : Results) (s : OtaAgent) : OtaAgent × OtaPalJobDocProcessingResult :=
  let version := (otaPalGetPlatformImageVersion r s).getD r.uninitialised
  if (updatedByVer s).toNat < version.unsignedVersion32.toNat then
    let s := (otaPalSetPlatformImageState r s .accepted).1
    (sendFinalJobStatusMessage r s .succeeded, .newImageBooted)
  else
    let s := (otaPalSetPlatformImageState r s .rejected).1
    (sendFinalJobStatusMessage r s .failed, .newImageBootFailed)

/-- The branch of `receivedJobDocumentHandler` that starts a download
    (lines 878–894). -/
def startDownload (L : Libraries) (r : Results) (s : OtaAgent) :
    OtaAgent × OtaPalJobDocProcessingResult :=
  let (s, handled) := convertSignatureToDER L (initMqttDownloader L r s)
  if handled then otaPalCreateFileForRx r s else (s, .fileCreateFailed)

/-- The two parser calls of `receivedJobDocumentHandler` (lines 806–808). -/
def jobDocumentParsed (L : Libraries) (s : OtaAgent) : OtaAgent × Bool :=
  let (handled, jobFields) := jobDocumentParser L s.jobDocument s.jobFields
  let details := populateJobStatusDetailsFields L s.jobDocument s.jobStatusDetails
  ({ s with jobFields := jobFields, jobStatusDetails := details }.call
    (.jobDocumentParser handled), handled)

/-- The part of `receivedJobDocumentHandler` behind `if( parseJobDocument )`
    (lines 804–897). -/
def parseJobDocument (L : Libraries) (r : Results) (s : OtaAgent) :
    OtaAgent × OtaPalJobDocProcessingResult :=
  let (s, handled) := jobDocumentParsed L s
  if handled then
    if otaPalGetPlatformImageState r s = .pendingCommit then selfTest r s
    else startDownload L r s
  else (s, .fileCreateFailed)

/-- `memset( &jobFields, 0, sizeof( jobFields ) )` (line 783). -/
def clearJobFields (s : OtaAgent) : OtaAgent := { s with jobFields := {} }

/-- `memcpy( globalJobId, jobId, jobIdLength )` (line 796). -/
def recordJobId (s : OtaAgent) (jobId : Bytes) : OtaAgent :=
  { s with globalJobId := memcpy s.globalJobId jobId }.call (.jobIdRecorded jobId)

/-- `receivedJobDocumentHandler` (lines 775–897). -/
def receivedJobDocumentHandler (L : Libraries) (r : Results) (s : OtaAgent) :
    OtaAgent × OtaPalJobDocProcessingResult :=
  let s := clearJobFields s
  let jobId := L.jobsGetJobId s.jobDocument
  if jobId.length ≠ 0 then
    if strncmp s.globalJobId jobId jobId.length ≠ 0 then
      parseJobDocument L r (recordJobId s jobId)
    else (s, .fileCreated)
  else (s, .fileCreateFailed)

/-! ## File blocks -/

/-- `requestDataBlock` (lines 934–958). -/
def requestDataBlock (r : Results) (s : OtaAgent) : OtaAgent :=
  s.call (.getDataBlockRequest s.download.currentFileId s.download.currentBlockOffset.toUInt16
    r.mqtt)

/-- `handleMqttStreamsBlockArrived` (lines 961–979). -/
def handleMqttStreamsBlockArrived (r : Results) (s : OtaAgent) (data : Bytes) : OtaAgent × ℤ :=
  let (s, writeblockRes) := otaPalWriteBlock r s s.download.totalBytesReceived data
  if writeblockRes > 0 then
    let total := s.download.totalBytesReceived + UInt32.ofNat writeblockRes.toNat
    ({ s with download := { s.download with totalBytesReceived := total } }, writeblockRes)
  else (s, writeblockRes)

/-- `getOtaDataEventBuffer` (lines 985–1010): the first unused buffer, with
    `dataLength` set to the size of its data. -/
def getOtaDataEventBuffer (s : OtaAgent) : OtaAgent × Option ℕ :=
  match s.dataBuffers.findIdx? fun b => b.bufferUsed == false with
  | some i =>
    ({ s with
        dataBuffers := s.dataBuffers.modify i fun b =>
          { b with bufferUsed := true, dataLength := dataBufferSize } }, some i)
  | none => (s, none)

/-- `freeOtaDataEventBuffer` (lines 1012–1023). -/
def freeOtaDataEventBuffer (s : OtaAgent) (i : ℕ) : OtaAgent :=
  { s with dataBuffers := s.dataBuffers.modify i fun b => { b with bufferUsed := false } }

/-- The message in data buffer `i`. -/
def OtaAgent.dataEvent (s : OtaAgent) (i : ℕ) : Bytes :=
  match s.dataBuffers[i]? with
  | some b => b.data.take b.dataLength
  | none => []

/-- What `mqttDownloader_processReceivedDataBlock` finds in data buffer `i`. -/
def OtaAgent.receivedBlock (L : Libraries) (s : OtaAgent) (i : ℕ) : ReceivedDataBlock :=
  L.mqttDownloaderProcessReceivedDataBlock s.mqttFileDownloaderContext (s.dataEvent i)

/-- `numOfBlocksRemaining--; currentBlockOffset++;` (lines 1138–1139). -/
def countBlock (s : OtaAgent) : OtaAgent :=
  { s with
    download :=
      { s.download with
        numOfBlocksRemaining := s.download.numOfBlocksRemaining - 1
        currentBlockOffset := s.download.currentBlockOffset + 1 } }

/-- The case `OtaAgentEventReceivedFileBlock` behind the state checks
    (lines 1113–1154). The file id and the block id of the message are decoded
    and not used. -/
def receivedFileBlock (L : Libraries) (r : Results) (s : OtaAgent) (i : ℕ) :
    OtaAgent × Option OtaEventMsg :=
  let (s, result) := handleMqttStreamsBlockArrived r s (s.receivedBlock L i).decodedData
  let s := freeOtaDataEventBuffer s i
  let s := if result > 0 then countBlock s else s
  (s, some (if s.download.numOfBlocksRemaining = 0 then .closeFile else .requestFileBlock))

section ReceivedFileBlock

variable (L : Libraries) (r : Results) (s : OtaAgent) (i : ℕ)

/-- The counters after a block: a write that succeeds counts, whatever block
    it was. -/
def Download.written (d : Download) (result : ℤ) : Download :=
  if result > 0 then
    { d with
      totalBytesReceived := d.totalBytesReceived + UInt32.ofNat result.toNat
      numOfBlocksRemaining := d.numOfBlocksRemaining - 1
      currentBlockOffset := d.currentBlockOffset + 1 }
  else d

theorem receivedFileBlock_eq :
    receivedFileBlock L r s i =
      (freeOtaDataEventBuffer
        { s.call (.otaPalWriteBlock s.download.totalBytesReceived
            (s.receivedBlock L i).decodedData r.otaPalWriteBlock) with
          download := s.download.written r.otaPalWriteBlock } i,
        some (if (s.download.written r.otaPalWriteBlock).numOfBlocksRemaining = 0 then .closeFile
          else .requestFileBlock)) := by
  by_cases h : r.otaPalWriteBlock > 0
  · simp [receivedFileBlock, handleMqttStreamsBlockArrived, otaPalWriteBlock, h, countBlock,
      freeOtaDataEventBuffer, Download.written]
  · simp [receivedFileBlock, handleMqttStreamsBlockArrived, otaPalWriteBlock, h,
      freeOtaDataEventBuffer, Download.written]

theorem receivedFileBlock_log :
    (receivedFileBlock L r s i).1.log =
      .otaPalWriteBlock s.download.totalBytesReceived (s.receivedBlock L i).decodedData
        r.otaPalWriteBlock :: s.log := by
  rw [receivedFileBlock_eq]
  rfl

theorem receivedFileBlock_download :
    (receivedFileBlock L r s i).1.download = s.download.written r.otaPalWriteBlock := by
  rw [receivedFileBlock_eq]
  rfl

end ReceivedFileBlock

/-! ## `processOTAEvents` -/

/-- The reaction of `processOTAEvents` to the result of a job document
    (lines 1059–1079). -/
def jobDocumentProcessed (s : OtaAgent) (result : OtaPalJobDocProcessingResult) :
    OtaAgent × Option OtaEventMsg :=
  let s := s.call (.receivedJobDocumentHandler result)
  match result with
  | .fileCreated =>
    ({ s with otaAgentState := .creatingFile }.call .vOtaActiveHook, some .requestFileBlock)
  | .newImageBooted => (s.call .vOtaNotActiveHook, none)
  | .fileCreateFailed => (s.call .vOtaNotActiveHook, none)
  | .newImageBootFailed => (s.call .vOtaNotActiveHook, none)
  | .processingStateInvalid => (s.call .vOtaNotActiveHook, none)

/-- The `switch` of `processOTAEvents` (lines 1038–1207): the agent and the
    `nextEvent` it sends. -/
def processOTAEvents (L : Libraries) (r : Results) (s : OtaAgent) :
    OtaEventMsg → OtaAgent × Option OtaEventMsg
  | .requestJobDocument =>
    ({ requestJobDocumentHandler r s with otaAgentState := .requestingJob }, none)
  | .receivedJobDocument =>
    if s.otaAgentState = .suspended then (s, none)
    else if s.otaAgentState = .stopped then (s, none)
    else
      let (s, result) := receivedJobDocumentHandler L r s
      jobDocumentProcessed s result
  | .requestFileBlock =>
    (requestDataBlock r { s with otaAgentState := .requestingFileBlock }, none)
  | .receivedFileBlock i =>
    if s.otaAgentState = .suspended then (freeOtaDataEventBuffer s i, none)
    else if s.otaAgentState = .stopped then (freeOtaDataEventBuffer s i, none)
    else receivedFileBlock L r s i
  | .closeFile =>
    let (s, closed) := otaPalCloseFile L r s
    (s, if closed then some .activateImage else none)
  | .activateImage =>
    let (s, activated) := otaPalActivateNewImage L r (sendStatusDetailsMessage r s)
    (s, if activated then some .requestJobDocument else none)
  | .suspend => ({ s with otaAgentState := .suspended }, none)
  | .resume => ({ s with otaAgentState := .requestingJob }, some .requestJobDocument)
  | .shutdown => ({ s with otaAgentState := .stopped }.call .vOtaNotActiveHook, none)
  | .start => (s, none)
  | .createFile => (s, none)
  | .userAbort => (s, none)

/-- An activation reports the image, and then it installs it or does nothing. -/
theorem processOTAEvents_activateImage (L : Libraries) (r : Results) (s : OtaAgent) :
    (processOTAEvents L r s .activateImage).1 = sendStatusDetailsMessage r s ∨
      (processOTAEvents L r s .activateImage).1 =
        (sendStatusDetailsMessage r s).call (.psaFwuInstall r.psaFwuInstall) :=
  otaPalActivateNewImage_cases L r (sendStatusDetailsMessage r s)

section ReceivedEvents

variable (L : Libraries) (r : Results) {s : OtaAgent}

/-- An agent that is suspended or stopped drops a job document. -/
theorem receivedJobDocument_dropped
    (h : ¬ (s.otaAgentState ≠ .suspended ∧ s.otaAgentState ≠ .stopped)) :
    processOTAEvents L r s .receivedJobDocument = (s, none) := by
  rcases not_and_or.mp h with hstate | hstate
  · simp [processOTAEvents, not_not.mp hstate]
  · simp [processOTAEvents, not_not.mp hstate]

/-- Any other agent handles it. -/
theorem receivedJobDocument_handled
    (h : s.otaAgentState ≠ .suspended ∧ s.otaAgentState ≠ .stopped) :
    processOTAEvents L r s .receivedJobDocument =
      jobDocumentProcessed (receivedJobDocumentHandler L r s).1
        (receivedJobDocumentHandler L r s).2 := by
  simp [processOTAEvents, h.1, h.2]

/-- An agent that is suspended or stopped drops a file block and frees its
    buffer. -/
theorem receivedFileBlock_dropped
    (h : ¬ (s.otaAgentState ≠ .suspended ∧ s.otaAgentState ≠ .stopped)) (i : ℕ) :
    processOTAEvents L r s (.receivedFileBlock i) = (freeOtaDataEventBuffer s i, none) := by
  rcases not_and_or.mp h with hstate | hstate
  · simp [processOTAEvents, not_not.mp hstate]
  · simp [processOTAEvents, not_not.mp hstate]

theorem receivedFileBlock_handled
    (h : s.otaAgentState ≠ .suspended ∧ s.otaAgentState ≠ .stopped) (i : ℕ) :
    processOTAEvents L r s (.receivedFileBlock i) = receivedFileBlock L r s i := by
  simp [processOTAEvents, h.1, h.2]

/-- A file block is dropped, and its buffer freed, or it is processed. -/
theorem processOTAEvents_receivedFileBlock (s : OtaAgent) (i : ℕ) :
    processOTAEvents L r s (.receivedFileBlock i) = (freeOtaDataEventBuffer s i, none) ∨
      s.otaAgentState ≠ .suspended ∧ s.otaAgentState ≠ .stopped ∧
        processOTAEvents L r s (.receivedFileBlock i) = receivedFileBlock L r s i := by
  by_cases h : s.otaAgentState ≠ .suspended ∧ s.otaAgentState ≠ .stopped
  · exact Or.inr ⟨h.1, h.2, receivedFileBlock_handled L r h i⟩
  · exact Or.inl (receivedFileBlock_dropped L r h i)

end ReceivedEvents

end Corstone.Ota
