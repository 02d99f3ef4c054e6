import Corstone.Lib.CString
import Corstone.Lib.Run
import Corstone.Ota.Pal

/-!
# The content of the published messages

`prvMQTTPublish` of the OTA agent and `prvMqttSendMessage` of the ML tasks give
the MQTT agent a pointer to a static `MQTTPublishInfo_t`, which points to the
topic and the payload of the caller. The agent reads them when it processes the
command. The helpers wait for this, but only until a time-out: then the caller
lets go of its buffers, and the next call overwrites the `MQTTPublishInfo_t`.

* `contentKept_iff`: the exact condition on the runs of both tasks.
* `condition_of_noTimeOut`: calls that wait for their commands meet it.
* `not_contentKept_timeOut`: a time-out, for the OTA agent and for a result on
  the heap.
-/

namespace Corstone.Ota

open Corstone.Lib

/-! ## Buffers and calls -/

/-- The addresses a `MQTTPublishInfo_t` may hold. -/
inductive BufferAddr
  | null
  /-- The buffers of a call on the stack of its caller or on the heap. -/
  | localTopic (call : ℕ)
  | localPayload (call : ℕ)
  /-- `mqttFileDownloaderContext.topicGetStream`. -/
  | topicGetStream
  /-- A string literal. -/
  | literal (text : Bytes)
  deriving DecidableEq, Repr

/-- The address is that of a local buffer. -/
def BufferAddr.isLocal : BufferAddr → Bool
  | localTopic _ | localPayload _ => true
  | null | topicGetStream | literal _ => false

/-- `MQTTPublishInfo_t` without the quality of service. -/
structure MQTTPublishInfo where
  pTopicName : BufferAddr
  topicNameLength : UInt16
  pPayload : BufferAddr
  payloadLength : ℕ
  deriving DecidableEq, Repr

structure Message where
  topic : Bytes
  payload : Bytes
  deriving DecidableEq, Repr

/-- The functions that give the MQTT agent a static `MQTTPublishInfo_t`. Each is
    called by one task. -/
inductive PublishHelper
  | prvMQTTPublish | prvMqttSendMessage
  deriving DecidableEq, Repr

/-- The calls of the two helpers, with what the buffers hold. -/
inductive PublishCall
  /-- Topic and message on the stack (`ota_orchestrator.c`, lines 745–773). -/
  | requestJobDocumentHandler (topicBuffer : Bytes) (topicLength : UInt16)
      (messageBuffer : Bytes) (messageLength : ℕ)
  | sendStatusDetailsMessage (topicBuffer : Bytes) (topicBufferLength : UInt16)
      (messageBuffer : Bytes) (messageBufferLength : ℕ)
  | sendFinalJobStatusMessage (topicBuffer : Bytes) (topicBufferLength : UInt16)
      (messageBuffer : Bytes) (messageBufferLength : ℕ)
  /-- The request is on the stack (lines 934–958). -/
  | requestDataBlock (getStreamRequest : Bytes) (getStreamRequestLength : ℕ)
  /-- `vMlMqttTask` of speech recognition and object detection: the result is on
      the heap and is freed after the call. -/
  | vMlMqttTask (mqttexampleTOPIC result : Bytes)
  /-- `vMlMqttTask` of keyword detection: `prvGetInferenceResultString` returns
      a string literal. -/
  | vMlMqttTaskKeyword (mqttexampleTOPIC label : Bytes)
  deriving DecidableEq, Repr

namespace PublishCall

/-- The helper that is called. -/
def helper : PublishCall → PublishHelper
  | requestJobDocumentHandler .. | sendStatusDetailsMessage .. | sendFinalJobStatusMessage ..
  | requestDataBlock .. => .prvMQTTPublish
  | vMlMqttTask .. | vMlMqttTaskKeyword .. => .prvMqttSendMessage

/-- What the local buffers of the call hold. -/
def locals : PublishCall → Bytes × Bytes
  | requestJobDocumentHandler topicBuffer _ messageBuffer _
  | sendStatusDetailsMessage topicBuffer _ messageBuffer _
  | sendFinalJobStatusMessage topicBuffer _ messageBuffer _ => (topicBuffer, messageBuffer)
  | requestDataBlock getStreamRequest _ => ([], getStreamRequest)
  | vMlMqttTask _ result => ([], result)
  | vMlMqttTaskKeyword .. => ([], [])

/-- What the helper writes into its `MQTTPublishInfo_t`. -/
def publishInfo (call : ℕ) (topicGetStreamLength : UInt16) : PublishCall → MQTTPublishInfo
  | requestJobDocumentHandler _ topicBufferLength _ messageBufferLength
  | sendStatusDetailsMessage _ topicBufferLength _ messageBufferLength
  | sendFinalJobStatusMessage _ topicBufferLength _ messageBufferLength =>
    ⟨.localTopic call, topicBufferLength, .localPayload call, messageBufferLength⟩
  | requestDataBlock _ getStreamRequestLength =>
    ⟨.topicGetStream, topicGetStreamLength, .localPayload call, getStreamRequestLength⟩
  | vMlMqttTask mqttexampleTOPIC result =>
    ⟨.literal mqttexampleTOPIC, UInt16.ofNat (cstr mqttexampleTOPIC).length, .localPayload call,
      (cstr result).length⟩
  | vMlMqttTaskKeyword mqttexampleTOPIC label =>
    ⟨.literal mqttexampleTOPIC, UInt16.ofNat (cstr mqttexampleTOPIC).length, .literal label,
      (cstr label).length⟩

/-- The topic and the payload the call is given. -/
def message (topicGetStream : Bytes) (topicGetStreamLength : UInt16) : PublishCall → Message
  | requestJobDocumentHandler topicBuffer topicBufferLength messageBuffer messageBufferLength
  | sendStatusDetailsMessage topicBuffer topicBufferLength messageBuffer messageBufferLength
  | sendFinalJobStatusMessage topicBuffer topicBufferLength messageBuffer messageBufferLength =>
    ⟨topicBuffer.take topicBufferLength.toNat, messageBuffer.take messageBufferLength⟩
  | requestDataBlock getStreamRequest getStreamRequestLength =>
    ⟨topicGetStream.take topicGetStreamLength.toNat, getStreamRequest.take getStreamRequestLength⟩
  | vMlMqttTask mqttexampleTOPIC payload | vMlMqttTaskKeyword mqttexampleTOPIC payload =>
    ⟨mqttexampleTOPIC.take (UInt16.ofNat (cstr mqttexampleTOPIC).length).toNat,
      cstr payload⟩

end PublishCall

/-! ## One helper -/

/-- Where the task is. A call, and the command it enqueues, are named by the
    number of calls before it. -/
inductive PublishPhase
  | idle
  /-- The `MQTTPublishInfo_t` is written, the notification not cleared yet. -/
  | written (call : PublishCall)
  /-- After `xTaskNotifyStateClear`. -/
  | cleared (call : PublishCall)
  /-- In `xTaskNotifyWait`. -/
  | waiting
  /-- The helper has returned; the caller still has its buffers. -/
  | returned
  deriving DecidableEq, Repr

/-- The local buffers of the latest call. -/
structure LocalBuffers where
  call : ℕ
  topic : Bytes
  payload : Bytes
  deriving DecidableEq, Repr

/-- An accepted command that has not completed, with the message of its call. -/
structure PublishCommand where
  command : ℕ
  message : Message
  deriving DecidableEq, Repr

/-- A PUBLISH packet: the message of the call, and what the agent has read. -/
structure Transmission where
  message : Message
  read : Option Message
  deriving DecidableEq, Repr

/-- A helper with its task, and the commands of it the agent has. -/
structure Publisher where
  publishInfo : MQTTPublishInfo
  topicGetStream : Bytes
  topicGetStreamLength : UInt16
  /-- Present until the caller lets go of them. -/
  locals : Option LocalBuffers
  phase : PublishPhase
  notified : Bool
  nextCall : ℕ
  inFlight : List PublishCommand
  transmitted : List Transmission

/-- The steps of the tasks and of the agent. -/
inductive PublishAction
  /-- The helper is called, up to `xTaskNotifyStateClear`. -/
  | publish (call : PublishCall)
  | xTaskNotifyStateClear (helper : PublishHelper)
  /-- `MQTTAgent_Publish`, and whether it accepts the command. -/
  | mqttAgentPublish (helper : PublishHelper) (accepted : Bool)
  /-- The agent processes the command. -/
  | transmit (helper : PublishHelper) (command : ℕ)
  /-- The completion callback of the command. -/
  | complete (helper : PublishHelper) (command : ℕ)
  /-- The completion callback of a SUBSCRIBE or an UNSUBSCRIBE of the OTA agent
      whose call has timed out. -/
  | subscribeComplete
  /-- `xTaskNotifyWait` returns `pdTRUE`. -/
  | wake (helper : PublishHelper)
  /-- `xTaskNotifyWait` returns `pdFALSE`. -/
  | timeOut (helper : PublishHelper)
  /-- The caller returns, or frees the result. -/
  | release (helper : PublishHelper)
  /-- `mqttDownloader_init` writes the topic of the block requests of a new job. -/
  | mqttDownloaderInit (topicGetStream : Bytes) (topicGetStreamLength : UInt16)
  deriving DecidableEq, Repr

/-- The helper the step belongs to. -/
def PublishAction.helper : PublishAction → PublishHelper
  | .publish call => call.helper
  | .xTaskNotifyStateClear helper | .mqttAgentPublish helper _ | .transmit helper _
  | .complete helper _ | .wake helper | .timeOut helper | .release helper => helper
  | .subscribeComplete | .mqttDownloaderInit .. => .prvMQTTPublish

namespace Publisher

/-- Static storage is zero. -/
def boot : Publisher where
  publishInfo := ⟨.null, 0, .null, 0⟩
  topicGetStream := []
  topicGetStreamLength := 0
  locals := none
  phase := .idle
  notified := false
  nextCall := 0
  inFlight := []
  transmitted := []

/-- What is at an address; nothing if the buffer is gone. -/
def read (σ : Publisher) : BufferAddr → Option Bytes
  | .null => none
  | .localTopic call => (σ.locals.filter fun l => l.call = call).map LocalBuffers.topic
  | .localPayload call => (σ.locals.filter fun l => l.call = call).map LocalBuffers.payload
  | .topicGetStream => some σ.topicGetStream
  | .literal text => some text

/-- What the agent reads through the pointer it has. -/
def content (σ : Publisher) : Option Message := do
  let topic ← σ.read σ.publishInfo.pTopicName
  let payload ← σ.read σ.publishInfo.pPayload
  return ⟨topic.take σ.publishInfo.topicNameLength.toNat, payload.take σ.publishInfo.payloadLength⟩

/-- The message of a call made now. -/
def messageOf (σ : Publisher) (call : PublishCall) : Message :=
  call.message σ.topicGetStream σ.topicGetStreamLength

/-- One step. -/
def step (σ : Publisher) : PublishAction → Publisher
  | .publish call =>
    if σ.phase = .idle then
      { σ with
        publishInfo := call.publishInfo σ.nextCall σ.topicGetStreamLength
        locals := some ⟨σ.nextCall, call.locals.1, call.locals.2⟩
        phase := .written call
        nextCall := σ.nextCall + 1 }
    else σ
  | .xTaskNotifyStateClear _ =>
    match σ.phase with
    | .written call => { σ with notified := false, phase := .cleared call }
    | _ => σ
  | .mqttAgentPublish _ accepted =>
    match σ.phase with
    | .cleared call =>
      if accepted then
        { σ with
          phase := .waiting
          inFlight := ⟨σ.nextCall - 1, σ.messageOf call⟩ :: σ.inFlight }
      else { σ with phase := .returned }
    | _ => σ
  | .transmit _ command =>
    match σ.inFlight.find? fun c => c.command = command with
    | some c => { σ with transmitted := ⟨c.message, σ.content⟩ :: σ.transmitted }
    | none => σ
  | .complete _ command =>
    if ∃ c ∈ σ.inFlight, c.command = command then
      { σ with
        notified := true
        inFlight := σ.inFlight.filter fun c => c.command ≠ command }
    else σ
  | .subscribeComplete => { σ with notified := true }
  | .wake _ =>
    if σ.phase = .waiting ∧ σ.notified = true then
      { σ with notified := false, phase := .returned }
    else σ
  | .timeOut _ =>
    if σ.phase = .waiting ∧ σ.notified = false then { σ with phase := .returned } else σ
  | .release _ => if σ.phase = .returned then { σ with locals := none, phase := .idle } else σ
  | .mqttDownloaderInit topicGetStream topicGetStreamLength =>
    if σ.phase = .idle then
      { σ with
        topicGetStream := topicGetStream
        topicGetStreamLength := topicGetStreamLength }
    else σ

/-- The commands in flight still have the topic and the payload of their calls
    behind the pointer, and the packets so far have had theirs. -/
structure ContentKept (σ : Publisher) : Prop where
  inFlight : ∀ c ∈ σ.inFlight, σ.content = some c.message
  transmitted : ∀ t ∈ σ.transmitted, t.read = some t.message

/-- The topic or the payload is in a local buffer. -/
def usesLocals (σ : Publisher) : Bool :=
  σ.publishInfo.pTopicName.isLocal || σ.publishInfo.pPayload.isLocal

/-- While a command is in flight, no caller lets go of local buffers that the
    latest call has used, and a call publishes the same message again. -/
def Condition (σ : Publisher) : PublishAction → Prop
  | .publish call => σ.phase = .idle → ∀ c ∈ σ.inFlight, c.message = σ.messageOf call
  | .release _ => σ.phase = .returned → σ.usesLocals = true → σ.inFlight = []
  | _ => True

/-! ## The steps -/

/-- What a step does. A step without an effect meets the condition. -/
inductive Outcome (σ : Publisher) : PublishAction → Publisher → Prop
  | ignored (a : PublishAction) : σ.Condition a → Outcome σ a σ
  | written (call : PublishCall) : σ.phase = .idle →
      Outcome σ (.publish call)
        { σ with
          publishInfo := call.publishInfo σ.nextCall σ.topicGetStreamLength
          locals := some ⟨σ.nextCall, call.locals.1, call.locals.2⟩
          phase := .written call
          nextCall := σ.nextCall + 1 }
  | cleared (helper : PublishHelper) (call : PublishCall) : σ.phase = .written call →
      Outcome σ (.xTaskNotifyStateClear helper)
        { σ with notified := false, phase := .cleared call }
  | accepted (helper : PublishHelper) (call : PublishCall) : σ.phase = .cleared call →
      Outcome σ (.mqttAgentPublish helper true)
        { σ with
          phase := .waiting
          inFlight := ⟨σ.nextCall - 1, σ.messageOf call⟩ :: σ.inFlight }
  | refused (helper : PublishHelper) (call : PublishCall) : σ.phase = .cleared call →
      Outcome σ (.mqttAgentPublish helper false) { σ with phase := .returned }
  | transmitted (helper : PublishHelper) (command : ℕ) (c : PublishCommand) : c ∈ σ.inFlight →
      Outcome σ (.transmit helper command)
        { σ with transmitted := ⟨c.message, σ.content⟩ :: σ.transmitted }
  | completed (helper : PublishHelper) (command : ℕ) (c : PublishCommand) : c ∈ σ.inFlight →
      c.command = command →
      Outcome σ (.complete helper command)
        { σ with
          notified := true
          inFlight := σ.inFlight.filter fun c => c.command ≠ command }
  | otherCompleted : Outcome σ .subscribeComplete { σ with notified := true }
  | woken (helper : PublishHelper) : σ.phase = .waiting → σ.notified = true →
      Outcome σ (.wake helper) { σ with notified := false, phase := .returned }
  | timedOut (helper : PublishHelper) : σ.phase = .waiting → σ.notified = false →
      Outcome σ (.timeOut helper) { σ with phase := .returned }
  | released (helper : PublishHelper) : σ.phase = .returned →
      Outcome σ (.release helper) { σ with locals := none, phase := .idle }
  | downloaderInit (topicGetStream : Bytes) (topicGetStreamLength : UInt16) :
      σ.phase = .idle →
      Outcome σ (.mqttDownloaderInit topicGetStream topicGetStreamLength)
        { σ with
          topicGetStream := topicGetStream
          topicGetStreamLength := topicGetStreamLength }

theorem step_outcome (σ : Publisher) (a : PublishAction) : σ.Outcome a (σ.step a) := by
  cases a with
  | publish call =>
    simp only [step]
    split_ifs with hphase
    · exact .written call hphase
    · exact .ignored _ fun h => absurd h hphase
  | xTaskNotifyStateClear helper =>
    cases hphase : σ.phase with
    | written call =>
      simp only [step, hphase]
      exact .cleared helper call hphase
    | idle | cleared | waiting | returned =>
      simp only [step, hphase]
      exact .ignored _ trivial
  | mqttAgentPublish helper accepted =>
    cases hphase : σ.phase with
    | cleared call =>
      simp only [step, hphase]
      cases accepted with
      | true => exact .accepted helper call hphase
      | false => exact .refused helper call hphase
    | idle | written | waiting | returned =>
      simp only [step, hphase]
      exact .ignored _ trivial
  | transmit helper command =>
    cases hfind : σ.inFlight.find? fun c => c.command = command with
    | some c =>
      simp only [step, hfind]
      exact .transmitted helper command c (List.mem_of_find?_eq_some hfind)
    | none =>
      simp only [step, hfind]
      exact .ignored _ trivial
  | complete helper command =>
    simp only [step]
    split_ifs with hin
    · obtain ⟨c, hc, hcommand⟩ := hin
      exact .completed helper command c hc hcommand
    · exact .ignored _ trivial
  | subscribeComplete => exact .otherCompleted
  | wake helper =>
    simp only [step]
    split_ifs with h
    · exact .woken helper h.1 h.2
    · exact .ignored _ trivial
  | timeOut helper =>
    simp only [step]
    split_ifs with h
    · exact .timedOut helper h.1 h.2
    · exact .ignored _ trivial
  | release helper =>
    simp only [step]
    split_ifs with hphase
    · exact .released helper hphase
    · exact .ignored _ fun h => absurd h hphase
  | mqttDownloaderInit topicGetStream topicGetStreamLength =>
    simp only [step]
    split_ifs with hphase
    · exact .downloaderInit topicGetStream topicGetStreamLength hphase
    · exact .ignored _ trivial

/-! ## What the pointer leads to -/

theorem read_eq_none {σ : Publisher} (hlocals : σ.locals = none) {addr : BufferAddr}
    (haddr : addr.isLocal = true) : σ.read addr = none := by
  cases addr with
  | localTopic | localPayload => simp [read, hlocals]
  | null | topicGetStream | literal => exact absurd haddr (by simp [BufferAddr.isLocal])

/-- Without local buffers, a call that uses them leaves nothing to read. -/
theorem content_eq_none {σ : Publisher} (hlocals : σ.locals = none)
    (huses : σ.usesLocals = true) : σ.content = none := by
  rcases (Bool.or_eq_true _ _).mp huses with htopic | hpayload
  · simp [content, read_eq_none hlocals htopic]
  · cases htopic : σ.read σ.publishInfo.pTopicName <;>
      simp [content, htopic, read_eq_none hlocals hpayload]

/-- The content is a function of what is at the two addresses. -/
theorem content_congr {σ σ' : Publisher} (hinfo : σ'.publishInfo = σ.publishInfo)
    (htopic : σ'.read σ.publishInfo.pTopicName = σ.read σ.publishInfo.pTopicName)
    (hpayload : σ'.read σ.publishInfo.pPayload = σ.read σ.publishInfo.pPayload) :
    σ'.content = σ.content := by
  simp only [content, hinfo, htopic, hpayload]

/-- The local buffers do not matter to a call that does not use them. -/
theorem read_locals {σ : Publisher} (locals : Option LocalBuffers) (phase : PublishPhase)
    {addr : BufferAddr} (haddr : addr.isLocal = false) :
    Publisher.read { σ with locals := locals, phase := phase } addr = σ.read addr := by
  cases addr with
  | localTopic | localPayload => exact absurd haddr (by simp [BufferAddr.isLocal])
  | null | topicGetStream | literal => rfl

theorem take_length_cstr (m : Bytes) : m.take (cstr m).length = cstr m :=
  (List.prefix_iff_eq_take.mp (List.takeWhile_prefix _)).symm

/-- The message of a call is behind the pointer once the helper has written. -/
theorem content_publish (σ : Publisher) (call : PublishCall) (phase : PublishPhase) :
    Publisher.content
      { σ with
        publishInfo := call.publishInfo σ.nextCall σ.topicGetStreamLength
        locals := some ⟨σ.nextCall, call.locals.1, call.locals.2⟩
        phase := phase
        nextCall := σ.nextCall + 1 } = some (σ.messageOf call) := by
  cases call <;>
    simp [content, read, PublishCall.publishInfo, PublishCall.locals, messageOf,
      PublishCall.message, Option.filter, take_length_cstr]

/-! ## What a step keeps -/

structure Invariant (σ : Publisher) : Prop where
  /-- Before the command is enqueued, its message is behind the pointer. -/
  writtenContent : ∀ call, σ.phase = .written call ∨ σ.phase = .cleared call →
    σ.content = some (σ.messageOf call)
  idleLocals : σ.phase = .idle → σ.locals = none
  /-- The topic of a block request comes with a request on the stack. -/
  topicGetStream : σ.publishInfo.pTopicName = .topicGetStream →
    σ.publishInfo.pPayload.isLocal = true
  payload : σ.publishInfo.pPayload ≠ .topicGetStream

theorem invariant_boot : boot.Invariant where
  writtenContent call hphase := by simp [boot] at hphase
  idleLocals _ := rfl
  topicGetStream htopic := by simp [boot] at htopic
  payload := by simp [boot]

theorem Invariant.step {σ : Publisher} (h : σ.Invariant) (a : PublishAction) :
    (σ.step a).Invariant := by
  have houtcome := σ.step_outcome a
  generalize σ.step a = σ' at houtcome ⊢
  cases houtcome with
  | ignored => exact h
  | written call hphase =>
    refine ⟨?_, by simp, ?_, ?_⟩
    · intro call' hwritten
      obtain rfl : call = call' := by simpa using hwritten
      exact content_publish σ call (.written call)
    · cases call <;> simp [PublishCall.publishInfo, BufferAddr.isLocal]
    · cases call <;> simp [PublishCall.publishInfo]
  | cleared helper call hphase =>
    refine ⟨?_, by simp, h.topicGetStream, h.payload⟩
    intro call' hcleared
    obtain rfl : call = call' := by simpa using hcleared
    exact h.writtenContent call (.inl hphase)
  | accepted | refused | woken | timedOut =>
    exact ⟨by simp, by simp, h.topicGetStream, h.payload⟩
  | transmitted | completed | otherCompleted =>
    exact ⟨h.writtenContent, h.idleLocals, h.topicGetStream, h.payload⟩
  | released helper hphase => exact ⟨by simp, fun _ => rfl, h.topicGetStream, h.payload⟩
  | downloaderInit topicGetStream topicGetStreamLength hphase =>
    exact ⟨by simp [hphase], h.idleLocals, h.topicGetStream, h.payload⟩

/-- The new topic of the block requests changes nothing for the commands in
    flight: the calls that use it have their request in a local buffer. -/
theorem ContentKept.downloaderInit {σ : Publisher} (hkept : σ.ContentKept) (h : σ.Invariant)
    (hphase : σ.phase = .idle) (topicGetStream : Bytes) (topicGetStreamLength : UInt16) :
    ContentKept
      { σ with
        topicGetStream := topicGetStream
        topicGetStreamLength := topicGetStreamLength } := by
  refine ⟨?_, hkept.transmitted⟩
  intro c hc
  rw [← hkept.inFlight c hc]
  have huses : σ.usesLocals = false := by
    by_contra huses
    have hnone := content_eq_none (h.idleLocals hphase) (Bool.eq_true_of_not_eq_false huses)
    rw [hkept.inFlight c hc] at hnone
    exact absurd hnone (by simp)
  obtain ⟨-, hpayload⟩ := (Bool.or_eq_false_iff).mp huses
  have htopic : σ.publishInfo.pTopicName ≠ .topicGetStream := by
    intro heq
    rw [h.topicGetStream heq] at hpayload
    exact absurd hpayload (by simp)
  have hread : ∀ addr, addr ≠ .topicGetStream → Publisher.read
      { σ with
        topicGetStream := topicGetStream
        topicGetStreamLength := topicGetStreamLength } addr = σ.read addr := by
    intro addr haddr
    cases addr with
    | topicGetStream => exact absurd rfl haddr
    | null | localTopic | localPayload | literal => rfl
  exact content_congr rfl (hread _ htopic) (hread _ h.payload)

/-- A caller that lets go of its buffers keeps the content iff no command is in
    flight or it has no local buffers. -/
theorem contentKept_release_iff {σ : Publisher} (hkept : σ.ContentKept) :
    ContentKept { σ with locals := none, phase := .idle } ↔
      (σ.usesLocals = true → σ.inFlight = []) := by
  constructor
  · intro hafter huses
    apply List.eq_nil_iff_forall_not_mem.mpr
    intro c hc
    have hnone : Publisher.content { σ with locals := none, phase := .idle } = none :=
      content_eq_none rfl huses
    rw [hafter.inFlight c hc] at hnone
    exact absurd hnone (by simp)
  · intro hnone
    refine ⟨?_, hkept.transmitted⟩
    intro c hc
    have huses : σ.usesLocals = false := by
      by_contra huses
      have hempty := hnone (Bool.eq_true_of_not_eq_false huses)
      exact absurd (hempty ▸ hc) (by simp)
    obtain ⟨htopic, hpayload⟩ := (Bool.or_eq_false_iff).mp huses
    rw [← hkept.inFlight c hc]
    exact content_congr rfl (read_locals none .idle htopic) (read_locals none .idle hpayload)

/-- A step keeps the content of the commands in flight iff it meets the
    condition. -/
theorem step_contentKept_iff {σ : Publisher} (h : σ.Invariant) (hkept : σ.ContentKept)
    (a : PublishAction) : (σ.step a).ContentKept ↔ σ.Condition a := by
  have houtcome := σ.step_outcome a
  generalize σ.step a = σ' at houtcome ⊢
  cases houtcome with
  | ignored a hcondition => exact iff_of_true hkept hcondition
  | written call hphase =>
    have hcontent := content_publish σ call (.written call)
    constructor
    · intro hafter _ c hc
      exact (Option.some.inj (hcontent.symm.trans (hafter.inFlight c hc))).symm
    · intro hsame
      refine ⟨fun c hc => ?_, hkept.transmitted⟩
      rw [hsame hphase c hc]
      exact hcontent
  | cleared | refused | otherCompleted | woken | timedOut =>
    exact iff_of_true ⟨hkept.inFlight, hkept.transmitted⟩ trivial
  | accepted helper call hphase =>
    refine iff_of_true ⟨?_, hkept.transmitted⟩ trivial
    intro c hc
    rcases List.mem_cons.mp hc with rfl | hc
    · exact h.writtenContent call (.inr hphase)
    · exact hkept.inFlight c hc
  | transmitted helper command c hc =>
    refine iff_of_true ⟨hkept.inFlight, ?_⟩ trivial
    intro t ht
    rcases List.mem_cons.mp ht with rfl | ht
    · exact hkept.inFlight c hc
    · exact hkept.transmitted t ht
  | completed helper command c hc hcommand =>
    refine iff_of_true ⟨?_, hkept.transmitted⟩ trivial
    exact fun c hc => hkept.inFlight c (List.mem_of_mem_filter hc)
  | released helper hphase =>
    rw [contentKept_release_iff hkept]
    exact ⟨fun hnone _ => hnone, fun hnone => hnone hphase⟩
  | downloaderInit topicGetStream topicGetStreamLength hphase =>
    exact iff_of_true (hkept.downloaderInit h hphase _ _) trivial

/-! ## Without time-outs -/

/-- Only the call that waits has a command in flight, and it has not been
    notified yet. -/
structure OneAtATime (σ : Publisher) : Prop where
  waiting : σ.inFlight ≠ [] → σ.phase = .waiting ∧ σ.notified = false
  cleared : ∀ call, σ.phase = .cleared call → σ.notified = false
  single : σ.inFlight.length ≤ 1

/-- A step that is no time-out and no late completion of another operation. -/
def InTime : PublishAction → Prop
  | .timeOut _ | .subscribeComplete => False
  | _ => True

instance (a : PublishAction) : Decidable (InTime a) := by
  cases a <;> unfold InTime <;> infer_instance

theorem OneAtATime.nil {σ : Publisher} (h : σ.OneAtATime) (hphase : σ.phase ≠ .waiting) :
    σ.inFlight = [] := by
  by_contra hne
  exact hphase (h.waiting hne).1

theorem OneAtATime.step {σ : Publisher} (h : σ.OneAtATime) {a : PublishAction} (ha : InTime a) :
    (σ.step a).OneAtATime := by
  have houtcome := σ.step_outcome a
  generalize σ.step a = σ' at houtcome ⊢
  cases houtcome with
  | ignored => exact h
  | written call hphase =>
    have hnil := h.nil (by simp [hphase])
    exact ⟨fun hne => absurd hnil hne, by simp, h.single⟩
  | cleared helper call hphase =>
    have hnil := h.nil (by simp [hphase])
    exact ⟨fun hne => absurd hnil hne, fun _ _ => rfl, h.single⟩
  | accepted helper call hphase =>
    have hnil := h.nil (by simp [hphase])
    exact ⟨fun _ => ⟨rfl, h.cleared call hphase⟩, by simp, by simp [hnil]⟩
  | refused helper call hphase =>
    have hnil := h.nil (by simp [hphase])
    exact ⟨fun hne => absurd hnil hne, by simp, h.single⟩
  | transmitted helper command c hc => exact ⟨h.waiting, h.cleared, h.single⟩
  | completed helper command c hc hcommand =>
    have hlist : σ.inFlight = [c] := by
      obtain ⟨c', hlist⟩ := List.length_eq_one_iff.mp
        (Nat.le_antisymm h.single (List.length_pos_of_mem hc))
      rw [hlist] at hc ⊢
      rw [List.mem_singleton.mp hc]
    have hwaiting := (h.waiting (by simp [hlist])).1
    have hnil : (σ.inFlight.filter fun c => c.command ≠ command) = [] := by
      simp [hlist, hcommand]
    refine ⟨fun hne => absurd hnil hne, ?_, (congrArg List.length hnil).trans_le (by simp)⟩
    intro call hcleared
    exact absurd (hwaiting.symm.trans hcleared) (by simp)
  | otherCompleted => exact absurd ha id
  | woken helper hphase hnotified =>
    refine ⟨?_, by simp, h.single⟩
    intro hne
    exact absurd (hnotified.symm.trans (h.waiting hne).2) (by simp)
  | timedOut helper hphase hnotified => exact absurd ha id
  | released helper hphase =>
    have hnil := h.nil (by simp [hphase])
    exact ⟨fun hne => absurd hnil hne, by simp, h.single⟩
  | downloaderInit topicGetStream topicGetStreamLength hphase =>
    exact ⟨h.waiting, h.cleared, h.single⟩

theorem OneAtATime.condition {σ : Publisher} (h : σ.OneAtATime) (a : PublishAction) :
    σ.Condition a := by
  cases a with
  | publish call =>
    intro hphase c hc
    rw [h.nil (by simp [hphase])] at hc
    exact absurd hc (by simp)
  | release helper =>
    intro hphase _
    exact h.nil (by simp [hphase])
  | _ => trivial

end Publisher

/-! ## Both tasks -/

/-- The helpers with their tasks. -/
abbrev Publishers := PublishHelper → Publisher

namespace Publishers

def boot : Publishers := fun _ => Publisher.boot

/-- One step, of the helper it belongs to. -/
def step (σ : Publishers) (a : PublishAction) : Publishers :=
  Function.update σ a.helper ((σ a.helper).step a)

def ContentKept (σ : Publishers) : Prop := ∀ helper, (σ helper).ContentKept

def Condition (σ : Publishers) (a : PublishAction) : Prop := (σ a.helper).Condition a

/-- A property of every helper, after a step. -/
theorem forall_step_iff {P : Publisher → Prop} {σ : Publishers} (h : ∀ helper, P (σ helper))
    (a : PublishAction) : (∀ helper, P (σ.step a helper)) ↔ P ((σ a.helper).step a) := by
  constructor
  · intro hall
    have hself := hall a.helper
    rwa [step, Function.update_self] at hself
  · intro hself helper
    by_cases hne : helper = a.helper
    · subst hne
      rwa [step, Function.update_self]
    · rw [step, Function.update_of_ne hne]
      exact h helper

theorem boot_contentKept : boot.ContentKept :=
  fun _ => ⟨fun _ hc => absurd hc List.not_mem_nil, fun _ ht => absurd ht List.not_mem_nil⟩

theorem step_contentKept_iff {σ : Publishers} (hinv : ∀ helper, (σ helper).Invariant)
    (hkept : σ.ContentKept) (a : PublishAction) : (σ.step a).ContentKept ↔ σ.Condition a := by
  unfold ContentKept
  rw [forall_step_iff hkept a]
  exact Publisher.step_contentKept_iff (hinv a.helper) (hkept a.helper) a

/-- In a run of both tasks and the agent, every command in flight keeps the topic
    and the payload of its call until it completes, and is transmitted with them,
    iff all steps meet the condition. -/
theorem contentKept_iff (as : List PublishAction) :
    (∀ pre, pre <+: as → (run step boot pre).ContentKept) ↔ Along step Condition boot as := by
  apply forall_prefix_iff_along_of_inv (I := fun σ : Publishers => ∀ helper, (σ helper).Invariant)
  · exact fun σ a h => (forall_step_iff h a).mpr ((h a.helper).step a)
  · exact fun σ a hinv hkept => step_contentKept_iff hinv hkept a
  · exact fun _ => Publisher.invariant_boot
  · exact boot_contentKept

/-- Calls that wait for their commands meet the condition. -/
theorem condition_of_noTimeOut {as : List PublishAction}
    (h : ∀ a ∈ as, Publisher.InTime a) : Along step Condition boot as := by
  have hin : Along step (fun _ a => Publisher.InTime a) boot as := along_of_forall h boot
  refine along_of_inv (I := fun σ : Publishers => ∀ helper, (σ helper).OneAtATime) ?_ ?_ ?_ hin
  · intro σ a hone ha
    exact (forall_step_iff hone a).mpr ((hone a.helper).step ha)
  · intro σ a hone _
    exact (hone a.helper).condition a
  · exact fun _ => ⟨by simp [boot, Publisher.boot], by simp [boot, Publisher.boot],
      by simp [boot, Publisher.boot]⟩

/-! ## A time-out -/

/-- The first publish of the OTA agent times out and is processed when the next
    one is enqueued. -/
def otaTimeOut : List PublishAction :=
  [.publish (.requestJobDocumentHandler (ascii "start-next") 10 (ascii "one") 3),
    .xTaskNotifyStateClear .prvMQTTPublish, .mqttAgentPublish .prvMQTTPublish true,
    .timeOut .prvMQTTPublish, .release .prvMQTTPublish,
    .publish (.sendStatusDetailsMessage (ascii "update") 6 (ascii "two") 3),
    .transmit .prvMQTTPublish 0]

/-- A result on the heap is freed before the agent processes the command. -/
def resultTimeOut : List PublishAction :=
  [.publish (.vMlMqttTask (ascii "ml") (ascii "yes")),
    .xTaskNotifyStateClear .prvMqttSendMessage, .mqttAgentPublish .prvMqttSendMessage true,
    .timeOut .prvMqttSendMessage, .release .prvMqttSendMessage,
    .transmit .prvMqttSendMessage 0]

/-- The first command goes out with the message of the second call; nothing is
    left of the freed result. -/
theorem not_contentKept_timeOut :
    (¬ ∀ pre, pre <+: otaTimeOut → (run step boot pre).ContentKept) ∧
      (run step boot otaTimeOut .prvMQTTPublish).transmitted =
        [⟨⟨ascii "start-next", ascii "one"⟩, some ⟨ascii "update", ascii "two"⟩⟩] ∧
      (¬ ∀ pre, pre <+: resultTimeOut → (run step boot pre).ContentKept) ∧
      (run step boot resultTimeOut .prvMqttSendMessage).transmitted =
        [⟨⟨ascii "ml", ascii "yes"⟩, none⟩] := by
  have hota : (run step boot otaTimeOut .prvMQTTPublish).transmitted =
      [⟨⟨ascii "start-next", ascii "one"⟩, some ⟨ascii "update", ascii "two"⟩⟩] := by decide
  have hresult : (run step boot resultTimeOut .prvMqttSendMessage).transmitted =
      [⟨⟨ascii "ml", ascii "yes"⟩, none⟩] := by decide
  refine ⟨fun h => ?_, hota, fun h => ?_, hresult⟩
  · have hkept := (h otaTimeOut List.prefix_rfl .prvMQTTPublish).transmitted
    rw [hota] at hkept
    exact absurd (hkept _ (List.mem_singleton_self _)) (by decide)
  · have hkept := (h resultTimeOut List.prefix_rfl .prvMqttSendMessage).transmitted
    rw [hresult] at hkept
    exact absurd (hkept _ (List.mem_singleton_self _)) (by decide)

end Publishers

end Corstone.Ota
