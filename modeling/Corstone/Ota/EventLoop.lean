import Corstone.Lib.Run
import Corstone.Ota.JobDocument

/-!
# The OTA tasks and the event queue

The system around `processOTAEvents`: the event queue of `ota_os_freertos.c`,
the agent's task, the MQTT callbacks that run in the task of the MQTT agent,
and the task that watches the connection. An action is a step of one of them;
a run is any list of actions.

The agent's task takes three steps for an event, because callbacks can run
between them: it receives it, processes it, and sends the event that follows
from it. Nobody but this task writes `otaAgentState`, so that it makes no
difference that `processOTAEvents` sets it here before, and in one case of the
source after, the send. In the same case (`OtaAgentEventCreateFile`, lines
1063–1066) the source also calls `vOtaActiveHook` behind the send; here the call
comes before it. Two accesses to one buffer at the same moment are not
modelled.

* `step_cases`: what one action can do. The invariants use only this.
* `run_agent_inv`: the invariant rule for what the agent's task alone writes.
-/

namespace Corstone.Ota

open Corstone.Lib

/-! ## States -/

/-- Where the agent's task is in `processOTAEvents`. -/
inductive OtaTask
  | idle
  | processing (event : OtaEventMsg)
  | sending (event : OtaEventMsg)
  deriving DecidableEq, Repr

/-- The event that the task holds. -/
def OtaTask.events : OtaTask → List OtaEventMsg
  | .idle => []
  | .processing event => [event]
  | .sending event => [event]

/-- The task after the `switch`. -/
def OtaTask.afterSwitch : Option OtaEventMsg → OtaTask
  | some event => .sending event
  | none => .idle

structure OtaSystem where
  agent : OtaAgent
  otaEventQueue : BoundedQueue OtaEventMsg maxMessages
  task : OtaTask
  /-- The transmitted block requests whose answers have not been delivered. -/
  awaitedBlocks : ℕ

namespace OtaSystem

/-- The system when `prvRunOTADemo` has sent the first event (line 1270). -/
def boot (L : Libraries) : OtaSystem where
  agent := .boot L
  otaEventQueue := BoundedQueue.empty.push .requestJobDocument
  task := .idle
  awaitedBlocks := 0

/-- The events that are queued or held by the agent's task. -/
def pending (σ : OtaSystem) : List OtaEventMsg := σ.task.events ++ σ.otaEventQueue.items

end OtaSystem

/-! ## Actions -/

inductive Action
  /-- `OtaReceiveEvent_FreeRTOS` in `processOTAEvents`. -/
  | receiveEvent
  /-- The `switch` of `processOTAEvents`. -/
  | processEvent (r : Results)
  /-- `OtaSendEvent_FreeRTOS( &nextEvent )`. -/
  | sendEvent
  /-- A message for `prvMqttJobCallback` or `prvMqttDefaultCallback`. -/
  | jobMessage (topic payload : Bytes)
  /-- A message for `prvMqttDataCallback`, and whether it is the answer to a
      block request. -/
  | dataMessage (payload : Bytes) (answer : Bool)
  /-- A turn of the loop of `prvRunOTADemo`. -/
  | otaDemoTask (connected : Bool)
  | otaAgentShutdown

/-- `OtaSendEvent_FreeRTOS`. -/
def otaSendEvent (σ : OtaSystem) (event : OtaEventMsg) : OtaSystem :=
  { σ with otaEventQueue := σ.otaEventQueue.push event }

/-- `OtaReceiveEvent_FreeRTOS` in the loop of `prvOTAAgentTask`. On an empty
    queue the receive times out and the `switch` takes its default case. -/
def receiveEvent (σ : OtaSystem) : OtaSystem :=
  if σ.task = .idle ∧ σ.agent.otaAgentState ≠ .stopped then
    match σ.otaEventQueue.items with
    | [] => σ
    | event :: _ =>
      { σ with otaEventQueue := σ.otaEventQueue.rest, task := .processing event }
  else σ

/-- The `switch` for an event. -/
def processEvent (L : Libraries) (r : Results) (σ : OtaSystem) (event : OtaEventMsg) :
    OtaSystem :=
  let (agent, nextEvent) := processOTAEvents L r σ.agent event
  { σ with
    agent := agent
    task := .afterSwitch nextEvent
    awaitedBlocks :=
      if event = .requestFileBlock ∧ r.mqtt = .transmitted then σ.awaitedBlocks + 1
      else σ.awaitedBlocks }

/-- The send of the next event, whose status nobody looks at. -/
def sendEvent (σ : OtaSystem) (event : OtaEventMsg) : OtaSystem :=
  { otaSendEvent σ event with
    agent := σ.agent.call (.otaSendEvent event (!decide σ.otaEventQueue.Full))
    task := .idle }

/-- `memcpy` of a message into `jobDocBuffer`. -/
def fillJobDocBuffer (s : OtaAgent) (payload : Bytes) : OtaAgent :=
  { s with
    jobDocBuffer :=
      { jobData := memcpy s.jobDocBuffer.jobData payload, jobDataLength := payload.length } }

/-- `prvMqttJobCallback` (lines 622–645). -/
def prvMqttJobCallback (L : Libraries) (σ : OtaSystem) (topic payload : Bytes) : OtaSystem :=
  if L.jobsIsStartNextAccepted topic then
    otaSendEvent { σ with agent := fillJobDocBuffer σ.agent payload } .receivedJobDocument
  else σ

/-- `memcpy` of a message into data buffer `i`. -/
def fillDataBuffer (s : OtaAgent) (i : ℕ) (payload : Bytes) : OtaAgent :=
  { s with
    dataBuffers := s.dataBuffers.modify i fun b =>
      { b with data := memcpy b.data payload, dataLength := payload.length } }

/-- `prvMqttDataCallback` (lines 664–698). A buffer that is too small, or whose
    event does not fit into the queue, is not given back. -/
def prvMqttDataCallback (σ : OtaSystem) (payload : Bytes) : OtaSystem :=
  match getOtaDataEventBuffer σ.agent with
  | (agent, some i) =>
    if payload.length ≤ dataBufferSize then
      otaSendEvent { σ with agent := fillDataBuffer agent i payload } (.receivedFileBlock i)
    else { σ with agent := agent }
  | (_, none) => σ

/-- The loop body of `prvRunOTADemo` (lines 1273–1293). -/
def otaDemoTask (σ : OtaSystem) (connected : Bool) : OtaSystem :=
  if !connected then otaSendEvent σ .suspend
  else if σ.agent.otaAgentState = .suspended then otaSendEvent σ .resume
  else σ

/-- One step of the system. -/
def step (L : Libraries) (σ : OtaSystem) : Action → OtaSystem
  | .receiveEvent => receiveEvent σ
  | .processEvent r =>
    match σ.task with
    | .processing event => processEvent L r σ event
    | _ => σ
  | .sendEvent =>
    match σ.task with
    | .sending event => sendEvent σ event
    | _ => σ
  | .jobMessage topic payload => prvMqttJobCallback L σ topic payload
  | .dataMessage payload answer =>
    let σ := prvMqttDataCallback σ payload
    if answer then { σ with awaitedBlocks := σ.awaitedBlocks - 1 } else σ
  | .otaDemoTask connected => otaDemoTask σ connected
  | .otaAgentShutdown => otaSendEvent σ .shutdown

/-! ## What a step can do -/

/-- The events that come from outside the agent's task. -/
def OtaEventMsg.External : OtaEventMsg → Prop
  | .receivedJobDocument | .receivedFileBlock _ | .suspend | .resume | .shutdown => True
  | _ => False

/-- A step that changes nothing the agent's task alone writes: the buffers of
    incoming messages, the queue, the receipt of an event. -/
structure Quiet (σ τ : OtaSystem) : Prop where
  agent : ∃ job data, τ.agent = { σ.agent with jobDocBuffer := job, dataBuffers := data }
  pending : ∀ event ∈ τ.pending, event ∈ σ.pending ∨ event.External
  sending : ∀ event, τ.task = .sending event ↔ σ.task = .sending event

theorem Quiet.refl (σ : OtaSystem) : Quiet σ σ where
  agent := ⟨_, _, rfl⟩
  pending _ h := Or.inl h
  sending _ := Iff.rfl

/-- The buffers of incoming messages may change. -/
theorem Quiet.buffers (σ : OtaSystem) (job : OtaJobEventData) (data : List OtaDataEvent) :
    Quiet σ { σ with agent := { σ.agent with jobDocBuffer := job, dataBuffers := data } } where
  agent := ⟨job, data, rfl⟩
  pending _ h := Or.inl h
  sending _ := Iff.rfl

/-- An event from outside reaches the queue. -/
theorem Quiet.otaSendEvent {σ τ : OtaSystem} (h : Quiet σ τ) {event : OtaEventMsg}
    (hevent : event.External) : Quiet σ (otaSendEvent τ event) where
  agent := h.agent
  pending e he := by
    rcases List.mem_append.mp he with he | he
    · exact h.pending e (List.mem_append_left _ he)
    · rcases BoundedQueue.mem_push he with he | rfl
      · exact h.pending e (List.mem_append_right _ he)
      · exact Or.inr hevent
  sending := h.sending

theorem quiet_receiveEvent (σ : OtaSystem) : Quiet σ (receiveEvent σ) := by
  unfold receiveEvent
  split_ifs with h
  · cases hq : σ.otaEventQueue.items with
    | nil => exact .refl σ
    | cons event rest =>
      refine ⟨⟨_, _, rfl⟩, ?_, by simp [h.1]⟩
      intro e he
      left
      simpa [OtaSystem.pending, OtaTask.events, h.1, hq] using he
  · exact .refl σ

theorem quiet_prvMqttJobCallback (L : Libraries) (σ : OtaSystem) (topic payload : Bytes) :
    Quiet σ (prvMqttJobCallback L σ topic payload) := by
  unfold prvMqttJobCallback
  split_ifs
  · exact (Quiet.buffers σ _ _).otaSendEvent trivial
  · exact .refl σ

theorem getOtaDataEventBuffer_frame (s : OtaAgent) :
    ∃ data, (getOtaDataEventBuffer s).1 = { s with dataBuffers := data } := by
  unfold getOtaDataEventBuffer
  split
  · exact ⟨_, rfl⟩
  · exact ⟨_, rfl⟩

theorem quiet_prvMqttDataCallback (σ : OtaSystem) (payload : Bytes) :
    Quiet σ (prvMqttDataCallback σ payload) := by
  unfold prvMqttDataCallback
  obtain ⟨data, hdata⟩ := getOtaDataEventBuffer_frame σ.agent
  rcases hbuffer : getOtaDataEventBuffer σ.agent with ⟨agent, index⟩
  rw [hbuffer] at hdata
  obtain rfl : agent = _ := hdata
  cases index with
  | none => exact .refl σ
  | some i =>
    dsimp only
    split_ifs
    · exact (Quiet.buffers σ _ _).otaSendEvent trivial
    · exact Quiet.buffers σ _ _

theorem quiet_otaDemoTask (σ : OtaSystem) (connected : Bool) :
    Quiet σ (otaDemoTask σ connected) := by
  unfold otaDemoTask
  split_ifs
  · exact (Quiet.refl σ).otaSendEvent trivial
  · exact (Quiet.refl σ).otaSendEvent trivial
  · exact .refl σ

/-- The effects of the actions: a quiet step, or one of the two steps in which
    the agent's task works on an event. -/
inductive StepCases (L : Libraries) (σ : OtaSystem) : Action → OtaSystem → Prop
  | quiet {a : Action} {τ : OtaSystem} (h : Quiet σ τ) : StepCases L σ a τ
  | process {event : OtaEventMsg} (r : Results) (h : σ.task = .processing event) :
    StepCases L σ (.processEvent r) (processEvent L r σ event)
  | send {event : OtaEventMsg} (h : σ.task = .sending event) :
    StepCases L σ .sendEvent (sendEvent σ event)

/-- **What one action can do.** -/
theorem step_cases (L : Libraries) (σ : OtaSystem) (a : Action) :
    StepCases L σ a (step L σ a) := by
  cases a with
  | receiveEvent => exact .quiet (quiet_receiveEvent σ)
  | processEvent r =>
    cases h : σ.task with
    | processing event =>
      simp only [step, h]
      exact .process r h
    | idle =>
      simp only [step, h]
      exact .quiet (.refl σ)
    | sending event =>
      simp only [step, h]
      exact .quiet (.refl σ)
  | sendEvent =>
    cases h : σ.task with
    | sending event =>
      simp only [step, h]
      exact .send h
    | idle =>
      simp only [step, h]
      exact .quiet (.refl σ)
    | processing event =>
      simp only [step, h]
      exact .quiet (.refl σ)
  | jobMessage topic payload => exact .quiet (quiet_prvMqttJobCallback L σ topic payload)
  | dataMessage payload answer =>
    have h := quiet_prvMqttDataCallback σ payload
    cases answer with
    | false => exact .quiet h
    | true => exact .quiet ⟨h.agent, h.pending, h.sending⟩
  | otaDemoTask connected => exact .quiet (quiet_otaDemoTask σ connected)
  | otaAgentShutdown => exact .quiet ((Quiet.refl σ).otaSendEvent trivial)

/-! ## Events of the agent's task -/

section Pending

variable {L : Libraries} {r : Results} {σ : OtaSystem} {event e : OtaEventMsg}

theorem mem_pending_of_processing (h : σ.task = .processing event) : event ∈ σ.pending := by
  simp [OtaSystem.pending, OtaTask.events, h]

theorem mem_pending_of_sending (h : σ.task = .sending event) : event ∈ σ.pending := by
  simp [OtaSystem.pending, OtaTask.events, h]

/-- After the `switch`, an event was queued before or follows from it. -/
theorem mem_pending_processEvent (he : e ∈ (processEvent L r σ event).pending) :
    e ∈ σ.pending ∨ (processOTAEvents L r σ.agent event).2 = some e := by
  rcases List.mem_append.mp he with he | he
  · right
    change e ∈ (OtaTask.afterSwitch (processOTAEvents L r σ.agent event).2).events at he
    cases hnext : (processOTAEvents L r σ.agent event).2 with
    | none => simp [hnext, OtaTask.afterSwitch, OtaTask.events] at he
    | some next =>
      simp only [hnext, OtaTask.afterSwitch, OtaTask.events, List.mem_singleton] at he
      rw [he]
  · exact Or.inl (List.mem_append_right _ he)

/-- A send adds no event to those the task holds or has queued. -/
theorem mem_pending_sendEvent (h : σ.task = .sending event)
    (he : e ∈ (sendEvent σ event).pending) : e ∈ σ.pending := by
  rcases List.mem_append.mp he with he | he
  · simp [sendEvent, OtaTask.events] at he
  · rcases BoundedQueue.mem_push he with he | rfl
    · exact List.mem_append_right _ he
    · exact mem_pending_of_sending h

theorem sending_processEvent :
    (processEvent L r σ event).task = .sending e ↔
      (processOTAEvents L r σ.agent event).2 = some e := by
  change OtaTask.afterSwitch (processOTAEvents L r σ.agent event).2 = .sending e ↔ _
  cases (processOTAEvents L r σ.agent event).2 with
  | none => simp [OtaTask.afterSwitch]
  | some next => simp [OtaTask.afterSwitch]

theorem receiveEvent_pending (σ : OtaSystem) : (receiveEvent σ).pending = σ.pending := by
  unfold receiveEvent
  split_ifs with h
  · cases hq : σ.otaEventQueue.items with
    | nil => rfl
    | cons event rest => simp [OtaSystem.pending, OtaTask.events, h.1, hq]
  · rfl

/-- A send loses no event that is already there. -/
theorem otaSendEvent_pending_subset (σ : OtaSystem) (event : OtaEventMsg) :
    ∀ e ∈ σ.pending, e ∈ (otaSendEvent σ event).pending := by
  intro e he
  rcases List.mem_append.mp he with he | he
  · exact List.mem_append_left _ he
  · exact List.mem_append_right _ (BoundedQueue.mem_push_of_mem event he)

theorem not_sending_sendEvent : (sendEvent σ event).task ≠ .sending e := by
  simp [sendEvent]

end Pending

/-! ## Counts of events from outside -/

/-- The agent's task sends itself no event of the others. -/
theorem processOTAEvents_next_internal {L : Libraries} {r : Results} {s : OtaAgent}
    {event e : OtaEventMsg} (he : e.External) : (processOTAEvents L r s event).2 ≠ some e := by
  intro hnext
  cases event with
  | receivedJobDocument =>
    rcases processOTAEvents_receivedJobDocument L r s with hdrop | ⟨p, -, heq⟩
    · simp [hdrop] at hnext
    · rw [heq] at hnext
      cases hresult : p.2 with
      | fileCreated =>
        obtain rfl : .requestFileBlock = e := by simpa [jobDocumentProcessed, hresult] using hnext
        exact he
      | _ => simp [jobDocumentProcessed, hresult] at hnext
  | receivedFileBlock i =>
    rcases processOTAEvents_receivedFileBlock L r s i with heq | ⟨-, -, heq⟩
    · simp [heq] at hnext
    · rw [heq, receivedFileBlock_eq] at hnext
      dsimp only at hnext
      split_ifs at hnext
      · exact (Option.some.inj hnext ▸ he : OtaEventMsg.External .closeFile)
      · exact (Option.some.inj hnext ▸ he : OtaEventMsg.External .requestFileBlock)
  | closeFile =>
    simp only [processOTAEvents] at hnext
    split_ifs at hnext
    exact (Option.some.inj hnext ▸ he : OtaEventMsg.External .activateImage)
  | activateImage =>
    simp only [processOTAEvents] at hnext
    split_ifs at hnext
    exact (Option.some.inj hnext ▸ he : OtaEventMsg.External .requestJobDocument)
  | resume =>
    obtain rfl : .requestJobDocument = e := by simpa [processOTAEvents] using hnext
    exact he
  | _ => simp [processOTAEvents] at hnext

/-- The task is not sending an event of the others. -/
def SendsInternal (σ : OtaSystem) : Prop := ∀ e, σ.task = .sending e → ¬ e.External

theorem sendsInternal_step (L : Libraries) (σ : OtaSystem) (a : Action) (h : SendsInternal σ) :
    SendsInternal (step L σ a) := by
  intro e
  have hstep := step_cases L σ a
  generalize step L σ a = τ at hstep ⊢
  cases hstep with
  | quiet hquiet => exact fun htask => h e ((hquiet.sending e).mp htask)
  | process r hevent =>
    exact fun htask he => processOTAEvents_next_internal he (sending_processEvent.mp htask)
  | send hevent => exact fun htask => absurd htask not_sending_sendEvent

theorem sendsInternal_run (L : Libraries) (as : List Action) :
    SendsInternal (run (step L) (.boot L) as) :=
  run_inv (sendsInternal_step L) (fun e htask => by simp [OtaSystem.boot] at htask) as

section Counts

variable {L : Libraries} {r : Results} {σ : OtaSystem} {event e : OtaEventMsg}

theorem count_otaSendEvent (h : ¬ σ.otaEventQueue.Full) :
    (otaSendEvent σ event).pending.count e = σ.pending.count e + if event = e then 1 else 0 := by
  simp only [OtaSystem.pending, otaSendEvent, BoundedQueue.items_push_of_not_full h,
    List.count_append, List.count_singleton, beq_iff_eq]
  exact (Nat.add_assoc _ _ _).symm

theorem count_otaSendEvent_of_full (h : σ.otaEventQueue.Full) :
    (otaSendEvent σ event).pending.count e = σ.pending.count e := by
  simp only [OtaSystem.pending, otaSendEvent, BoundedQueue.push_of_full h]

theorem count_otaSendEvent_of_ne (h : event ≠ e) :
    (otaSendEvent σ event).pending.count e = σ.pending.count e := by
  by_cases hfull : σ.otaEventQueue.Full
  · exact count_otaSendEvent_of_full hfull
  · rw [count_otaSendEvent hfull, if_neg h, Nat.add_zero]

/-- The `switch` takes the event it processes from the pending ones. -/
theorem count_processEvent (htask : σ.task = .processing event) (he : e.External) :
    (processEvent L r σ event).pending.count e + (if event = e then 1 else 0) =
      σ.pending.count e := by
  have hnext : (OtaTask.afterSwitch (processOTAEvents L r σ.agent event).2).events.count e = 0 := by
    have hne := @processOTAEvents_next_internal L r σ.agent event e he
    cases hsome : (processOTAEvents L r σ.agent event).2 with
    | none => rfl
    | some next =>
      rw [hsome] at hne
      refine List.count_eq_zero.mpr fun hmem => hne ?_
      rw [List.mem_singleton.mp hmem]
  have hafter : (processEvent L r σ event).pending.count e = σ.otaEventQueue.items.count e := by
    show List.count e ((OtaTask.afterSwitch (processOTAEvents L r σ.agent event).2).events ++
      σ.otaEventQueue.items) = _
    rw [List.count_append, hnext, Nat.zero_add]
  have hbefore : σ.pending.count e =
      (if event = e then 1 else 0) + σ.otaEventQueue.items.count e := by
    simp only [OtaSystem.pending, htask, OtaTask.events, List.count_append, List.count_singleton,
      beq_iff_eq]
  rw [hafter, hbefore, Nat.add_comm]

/-- The send of the agent's own event leaves the others. -/
theorem count_sendEvent (htask : σ.task = .sending event) (h : SendsInternal σ)
    (he : e.External) : (sendEvent σ event).pending.count e = σ.pending.count e := by
  have hne : event ≠ e := by
    rintro rfl
    exact h event htask he
  have hbefore : σ.pending.count e = σ.otaEventQueue.items.count e := by
    simp [OtaSystem.pending, htask, OtaTask.events, hne]
  have hafter : (sendEvent σ event).pending.count e =
      (otaSendEvent { σ with task := .idle } event).pending.count e := rfl
  rw [hafter, count_otaSendEvent_of_ne hne, hbefore]
  rfl

theorem count_receiveEvent : (receiveEvent σ).pending.count e = σ.pending.count e := by
  rw [receiveEvent_pending]

/-- A data message queues nothing but a file block. -/
theorem count_prvMqttDataCallback (payload : Bytes) (he : ∀ i, e ≠ .receivedFileBlock i) :
    (prvMqttDataCallback σ payload).pending.count e = σ.pending.count e := by
  unfold prvMqttDataCallback
  split
  · split_ifs
    · exact count_otaSendEvent_of_ne (he _).symm
    · rfl
  · rfl

theorem count_otaDemoTask (connected : Bool) (hsuspend : e ≠ .suspend) (hresume : e ≠ .resume) :
    (otaDemoTask σ connected).pending.count e = σ.pending.count e := by
  unfold otaDemoTask
  split_ifs
  · exact count_otaSendEvent_of_ne hsuspend.symm
  · exact count_otaSendEvent_of_ne hresume.symm
  · rfl

end Counts

/-! ## Invariants of the agent -/

/-- What a step makes of the agent: other buffers, a send, or what `processOTAEvents` makes of
    it. -/
theorem step_agent_cases {L : Libraries} {P : OtaAgent → Prop} (σ : OtaSystem) (a : Action)
    (hbuffers : ∀ job data, P { σ.agent with jobDocBuffer := job, dataBuffers := data })
    (hsend : ∀ event sent, P (σ.agent.call (.otaSendEvent event sent)))
    (hprocess : ∀ r event, a = .processEvent r → σ.task = .processing event →
      P (processOTAEvents L r σ.agent event).1) :
    P (step L σ a).agent := by
  have hstep := step_cases L σ a
  generalize step L σ a = τ at hstep ⊢
  cases hstep with
  | quiet hquiet =>
    obtain ⟨job, data, hagent⟩ := hquiet.agent
    rw [hagent]
    exact hbuffers job data
  | process r hevent => exact hprocess r _ rfl hevent
  | send hevent => exact hsend _ _

section AgentInvariant

variable {L : Libraries} {I : OtaAgent → Prop}
  (hbuffers : ∀ s job data, I s → I { s with jobDocBuffer := job, dataBuffers := data })
  (hsend : ∀ s event sent, I s → I (s.call (.otaSendEvent event sent)))
  (hprocess : ∀ r s event, I s → I (processOTAEvents L r s event).1)
include hbuffers hsend hprocess

/-- What the buffers, the sends and `processOTAEvents` keep, every step keeps. -/
theorem step_agent_inv (σ : OtaSystem) (a : Action) (h : I σ.agent) : I (step L σ a).agent := by
  apply step_agent_cases σ a
  · intro job data
    exact hbuffers _ job data h
  · intro event sent
    exact hsend _ event sent h
  · intro r event _ _
    exact hprocess r _ event h

/-- The invariant rule for the agent. -/
theorem run_agent_inv {σ : OtaSystem} (h : I σ.agent) (as : List Action) :
    I (run (step L) σ as).agent :=
  run_inv (I := fun σ : OtaSystem => I σ.agent) (step_agent_inv hbuffers hsend hprocess) h as

end AgentInvariant

end Corstone.Ota
