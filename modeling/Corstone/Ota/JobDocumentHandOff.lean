import Corstone.Ota.JsonDevice

/-!
# The hand-off of job documents

`prvMqttJobCallback` copies every message into the one `jobDocBuffer` and queues
an event that points to it. `HandOff` runs the system together with the payloads
of the messages whose events are pending.

* `handedOff_of_condition`: every job document event is processed with the
  payload of its message, and no message overruns the buffer, in every run in
  which the messages fit into the buffer and none arrives while an event for
  another payload is pending.
* `not_handedOff_twoMessages`: a second message arrives before the first one is
  processed.
-/

namespace Corstone.Ota

open Corstone.Lib

/-- The system, and the payloads of the pending `ReceivedJobDocument` events,
    the oldest first. -/
structure HandOff where
  system : OtaSystem
  documents : List Bytes

namespace HandOff

def boot (L : Libraries) : HandOff := ⟨.boot L, []⟩

/-- The payloads after a step: the message that gets its event into the queue
    is added, the event that is processed is done. -/
def nextDocuments (L : Libraries) (t : HandOff) : Action → List Bytes
  | .jobMessage topic payload =>
    if L.jobsIsStartNextAccepted topic = true ∧ ¬ t.system.otaEventQueue.Full then
      t.documents ++ [payload]
    else t.documents
  | .processEvent _ =>
    if t.system.task = .processing .receivedJobDocument then t.documents.tail else t.documents
  | _ => t.documents

/-- One step of the system. -/
def step (L : Libraries) (t : HandOff) (a : Action) : HandOff :=
  ⟨Ota.step L t.system a, t.nextDocuments L a⟩

end HandOff

/-- The run is one of the system. -/
theorem handOff_system (L : Libraries) (t : HandOff) (as : List Action) :
    (run (HandOff.step L) t as).system = run (step L) t.system as := by
  induction as generalizing t with
  | nil => rfl
  | cons a as ih => exact ih (t.step L a)

/-- A job document event that is being processed finds the payload of its
    message, and no message has been written behind the buffer. -/
structure HandedOff (t : HandOff) : Prop where
  payload : t.system.task = .processing .receivedJobDocument →
    t.documents.head? = some t.system.agent.jobDocument ∧
      t.system.agent.jobDocBuffer.jobDataLength = t.system.agent.jobDocument.length
  inside : t.system.agent.jobDocBuffer.jobData.length = jobDocSize

/-- A message fits into the buffer, and every pending event is one for the same
    payload. -/
def HandOffCondition (L : Libraries) (t : HandOff) : Action → Prop
  | .jobMessage topic payload =>
    L.jobsIsStartNextAccepted topic = true →
      payload.length ≤ jobDocSize ∧ ∀ document ∈ t.documents, document = payload
  | _ => True

instance (L : Libraries) (t : HandOff) (a : Action) : Decidable (HandOffCondition L t a) :=
  match a with
  | .jobMessage topic payload =>
    inferInstanceAs (Decidable (L.jobsIsStartNextAccepted topic = true →
      payload.length ≤ jobDocSize ∧ ∀ document ∈ t.documents, document = payload))
  | .receiveEvent | .processEvent _ | .sendEvent | .dataMessage _ _ | .otaDemoTask _
  | .otaAgentShutdown => isTrue trivial

/-! ## The buffer -/

section Buffer

variable (L : Libraries) (r : Results) (s : OtaAgent)

theorem newJobConverted_jobDocBuffer :
    (newJobConverted L r s).1.jobDocBuffer = s.jobDocBuffer := by
  unfold newJobConverted convertSignatureToDER
  dsimp only
  split <;> rfl

theorem otaPalCreateFileForRx_jobDocBuffer :
    (otaPalCreateFileForRx r s).1.jobDocBuffer = s.jobDocBuffer := by
  obtain ⟨_, _, _, h⟩ := otaPalCreateFileForRx_frame r s
  rw [h]

/-- The agent's task only reads the buffer. -/
theorem processOTAEvents_jobDocBuffer (event : OtaEventMsg) :
    (processOTAEvents L r s event).1.jobDocBuffer = s.jobDocBuffer := by
  cases event with
  | receivedJobDocument =>
    rcases processOTAEvents_receivedJobDocument L r s with hdrop | ⟨p, hout, heq⟩
    · rw [hdrop]
    · have hprocessed : (jobDocumentProcessed p.1 p.2).1.jobDocBuffer = p.1.jobDocBuffer := by
        cases p.2 <;> rfl
      rw [heq, hprocessed]
      cases hout with
      | signatureFailed => exact newJobConverted_jobDocBuffer L r s
      | createFailed =>
        exact (otaPalCreateFileForRx_jobDocBuffer r _).trans (newJobConverted_jobDocBuffer L r s)
      | fileCreated =>
        exact (otaPalCreateFileForRx_jobDocBuffer r _).trans (newJobConverted_jobDocBuffer L r s)
      | _ => rfl
  | receivedFileBlock i =>
    rcases processOTAEvents_receivedFileBlock L r s i with heq | ⟨-, -, heq⟩
    · rw [heq]
      rfl
    · rw [heq, receivedFileBlock_eq]
      rfl
  | closeFile =>
    simp only [processOTAEvents, otaPalCloseFile]
    split_ifs <;> rfl
  | activateImage =>
    rcases processOTAEvents_activateImage L r s with heq | heq
    · rw [heq]
      rfl
    · rw [heq]
      rfl
  | _ => rfl

end Buffer

/-- A message that has just been copied is in the buffer. -/
theorem jobDocument_fillJobDocBuffer (s : OtaAgent) (payload : Bytes) :
    (fillJobDocBuffer s payload).jobDocument = payload := by
  unfold OtaAgent.jobDocument fillJobDocBuffer memcpy
  exact List.take_left

/-- A message that fits leaves the buffer as long as it is. -/
theorem length_fillJobDocBuffer {s : OtaAgent}
    (hlength : s.jobDocBuffer.jobData.length = jobDocSize)
    {payload : Bytes} (h : payload.length ≤ jobDocSize) :
    (fillJobDocBuffer s payload).jobDocBuffer.jobData.length = jobDocSize := by
  show (memcpy s.jobDocBuffer.jobData payload).length = jobDocSize
  rw [(length_memcpy_eq_iff _ _).mpr (hlength ▸ h), hlength]

/-! ## The invariant -/

/-- Every pending event would be processed with the payload of its message. -/
structure HandOffInvariant (t : HandOff) : Prop where
  documents : ∀ document ∈ t.documents, document = t.system.agent.jobDocument
  length : t.system.agent.jobDocBuffer.jobDataLength = t.system.agent.jobDocument.length
  count : t.documents.length = t.system.pending.count .receivedJobDocument
  inside : t.system.agent.jobDocBuffer.jobData.length = jobDocSize
  internal : SendsInternal t.system

section Invariant

variable {L : Libraries} {t : HandOff}

theorem HandOffInvariant.handedOff (h : HandOffInvariant t) : HandedOff t where
  payload htask := by
    refine ⟨?_, h.length⟩
    have hcount : t.documents.length ≠ 0 := by
      rw [h.count]
      exact (List.count_pos_iff.mpr (mem_pending_of_processing htask)).ne'
    cases hdocuments : t.documents with
    | nil => simp [hdocuments] at hcount
    | cons document rest =>
      rw [List.head?_cons, h.documents document (by simp [hdocuments])]
  inside := h.inside

/-- A step that leaves the buffer alone, and the account of the payloads. -/
theorem HandOffInvariant.congr {u : HandOff} (h : HandOffInvariant t)
    (hdocuments : ∀ document ∈ u.documents, document ∈ t.documents)
    (hbuffer : u.system.agent.jobDocBuffer = t.system.agent.jobDocBuffer)
    (hcount : u.documents.length = u.system.pending.count .receivedJobDocument)
    (hinternal : SendsInternal u.system) : HandOffInvariant u := by
  have hdocument : u.system.agent.jobDocument = t.system.agent.jobDocument := by
    unfold OtaAgent.jobDocument
    rw [hbuffer]
  refine ⟨?_, ?_, hcount, ?_, hinternal⟩
  · intro document hmem
    rw [hdocument]
    exact h.documents document (hdocuments document hmem)
  · rw [hbuffer, hdocument]
    exact h.length
  · rw [hbuffer]
    exact h.inside

/-- A message that is copied into the buffer. -/
theorem HandOffInvariant.jobMessage (h : HandOffInvariant t) {topic payload : Bytes}
    (haccepted : L.jobsIsStartNextAccepted topic = true)
    (hcond : HandOffCondition L t (.jobMessage topic payload)) :
    HandOffInvariant (t.step L (.jobMessage topic payload)) := by
  obtain ⟨hsize, hsame⟩ := hcond haccepted
  have hsystem : (t.step L (.jobMessage topic payload)).system =
      otaSendEvent { t.system with agent := fillJobDocBuffer t.system.agent payload }
        .receivedJobDocument := if_pos haccepted
  have hdocument := jobDocument_fillJobDocBuffer t.system.agent payload
  have hinternal := sendsInternal_step L t.system (.jobMessage topic payload) h.internal
  refine ⟨?_, ?_, ?_, ?_, hinternal⟩
  · intro document hmem
    rw [hsystem]
    show document = (fillJobDocBuffer t.system.agent payload).jobDocument
    rw [hdocument]
    have hcases : document ∈ t.documents ∨ document = payload := by
      unfold HandOff.step HandOff.nextDocuments at hmem
      dsimp only at hmem
      split_ifs at hmem
      · simpa using hmem
      · exact Or.inl hmem
    exact hcases.elim (hsame document) id
  · rw [hsystem]
    show payload.length = (fillJobDocBuffer t.system.agent payload).jobDocument.length
    rw [hdocument]
  · rw [hsystem]
    have hcount := h.count
    by_cases hfull : t.system.otaEventQueue.Full
    · have hdocuments : (t.step L (.jobMessage topic payload)).documents = t.documents :=
        if_neg fun hroom => hroom.2 hfull
      rw [hdocuments, hcount]
      exact (count_otaSendEvent_of_full hfull).symm
    · have hdocuments : (t.step L (.jobMessage topic payload)).documents =
          t.documents ++ [payload] := if_pos ⟨haccepted, hfull⟩
      have hqueued := @count_otaSendEvent
        { t.system with agent := fillJobDocBuffer t.system.agent payload } .receivedJobDocument
        .receivedJobDocument hfull
      rw [hdocuments, List.length_append, hcount, hqueued, if_pos rfl]
      rfl
  · rw [hsystem]
    exact length_fillJobDocBuffer h.inside hsize

/-- A step that meets the condition keeps the invariant. -/
theorem HandOffInvariant.step (h : HandOffInvariant t) (a : Action)
    (hcond : HandOffCondition L t a) : HandOffInvariant (t.step L a) := by
  have hinternal := sendsInternal_step L t.system a h.internal
  have hself : ∀ document ∈ t.documents, document ∈ t.documents := fun _ hmem => hmem
  cases a with
  | receiveEvent =>
    refine h.congr hself ?_ (h.count.trans count_receiveEvent.symm) hinternal
    show (receiveEvent t.system).agent.jobDocBuffer = _
    unfold receiveEvent
    split_ifs
    · split <;> rfl
    · rfl
  | processEvent r =>
    cases htask : t.system.task with
    | processing event =>
      have hsystem : (t.step L (.processEvent r)).system = processEvent L r t.system event := by
        simp only [HandOff.step, Ota.step, htask]
      have hprocessed := @count_processEvent L r t.system event .receivedJobDocument htask trivial
      have hcount := h.count
      refine h.congr ?_ ?_ ?_ hinternal
      · intro document hmem
        unfold HandOff.step HandOff.nextDocuments at hmem
        dsimp only at hmem
        split_ifs at hmem
        · exact List.mem_of_mem_tail hmem
        · exact hmem
      · rw [hsystem]
        exact processOTAEvents_jobDocBuffer L r t.system.agent event
      · rw [hsystem]
        by_cases hevent : event = .receivedJobDocument
        · have hdocuments : (t.step L (.processEvent r)).documents = t.documents.tail :=
            if_pos (by rw [htask, hevent])
          rw [if_pos hevent] at hprocessed
          rw [hdocuments, List.length_tail]
          omega
        · have hdocuments : (t.step L (.processEvent r)).documents = t.documents :=
            if_neg (by rw [htask]; simpa using hevent)
          rw [if_neg hevent] at hprocessed
          rw [hdocuments]
          omega
    | _ =>
      have hstep : t.step L (.processEvent r) = t := by
        simp only [HandOff.step, HandOff.nextDocuments, Ota.step, htask]
        simp
      rw [hstep]
      exact h
  | sendEvent =>
    cases htask : t.system.task with
    | sending event =>
      have hsystem : (t.step L .sendEvent).system = sendEvent t.system event := by
        simp only [HandOff.step, Ota.step, htask]
      refine h.congr hself ?_ ?_ hinternal
      · rw [hsystem]
        rfl
      · have hsent := @count_sendEvent t.system event .receivedJobDocument htask h.internal trivial
        rw [hsystem, hsent]
        exact h.count
    | _ =>
      have hstep : t.step L .sendEvent = t := by
        simp only [HandOff.step, HandOff.nextDocuments, Ota.step, htask]
      rw [hstep]
      exact h
  | jobMessage topic payload =>
    by_cases haccepted : L.jobsIsStartNextAccepted topic = true
    · exact h.jobMessage haccepted hcond
    · have hstep : t.step L (.jobMessage topic payload) = t := by
        simp [HandOff.step, HandOff.nextDocuments, Ota.step, prvMqttJobCallback, haccepted]
      rw [hstep]
      exact h
  | dataMessage payload answer =>
    have hbuffer : (prvMqttDataCallback t.system payload).agent.jobDocBuffer =
        t.system.agent.jobDocBuffer := by
      unfold prvMqttDataCallback
      obtain ⟨data, hdata⟩ := getOtaDataEventBuffer_frame t.system.agent
      rcases hget : getOtaDataEventBuffer t.system.agent with ⟨agent, index⟩
      rw [hget] at hdata
      obtain rfl : agent = _ := hdata
      cases index with
      | none => rfl
      | some i =>
        dsimp only
        split_ifs <;> rfl
    have hcount := h.count.trans
      (@count_prvMqttDataCallback t.system .receivedJobDocument payload (by simp)).symm
    cases answer with
    | true => exact h.congr hself hbuffer hcount hinternal
    | false => exact h.congr hself hbuffer hcount hinternal
  | otaDemoTask connected =>
    refine h.congr hself ?_ ?_ hinternal
    · show (otaDemoTask t.system connected).agent.jobDocBuffer = _
      unfold otaDemoTask
      split_ifs <;> rfl
    · exact h.count.trans (count_otaDemoTask connected (by simp) (by simp)).symm
  | otaAgentShutdown =>
    exact h.congr hself rfl (h.count.trans (count_otaSendEvent_of_ne (by simp)).symm) hinternal

theorem handOffInvariant_boot (L : Libraries) : HandOffInvariant (.boot L) where
  documents _ hmem := absurd hmem List.not_mem_nil
  length := rfl
  count := rfl
  inside := List.length_replicate
  internal := sendsInternal_run L []

end Invariant

/-! ## Runs -/

/-- **The hand-off.** In a run whose messages meet the condition, every job
    document event is processed with the payload of its message, and nothing is
    written behind the buffer. -/
theorem handedOff_of_condition (L : Libraries) (as : List Action)
    (h : Along (HandOff.step L) (HandOffCondition L) (.boot L) as) :
    ∀ pre, pre <+: as → HandedOff (run (HandOff.step L) (.boot L) pre) := by
  rintro pre ⟨post, rfl⟩
  rw [along_append] at h
  have hinv : HandOffInvariant (run (HandOff.step L) (.boot L) pre) :=
    Along.inv (fun _ a hinv hcond => hinv.step a hcond) (handOffInvariant_boot L) h.1
  exact hinv.handedOff

/-- The documents of two jobs; what happens between them is open. -/
def twoDocuments (between : List Action) : List Action :=
  [.receiveEvent, .processEvent {}, .jobMessage startNextAcceptedTopic (ascii "A")] ++ between ++
    [.jobMessage startNextAcceptedTopic (ascii "B"), .receiveEvent]

set_option maxRecDepth 20000 in
/-- The second document comes when the first one has been processed. -/
theorem handedOff_inTurn :
    HandedOff (run (HandOff.step jsonDevice) (.boot jsonDevice)
      (twoDocuments [.receiveEvent, .processEvent {}])) :=
  handedOff_of_condition jsonDevice (twoDocuments [.receiveEvent, .processEvent {}]) (by decide) _
    (List.prefix_refl _)

set_option maxRecDepth 20000 in
/-- The second document comes at once: the event of the first one finds it. -/
theorem not_handedOff_twoMessages :
    ¬ HandedOff (run (HandOff.step jsonDevice) (.boot jsonDevice) (twoDocuments [])) := by
  intro h
  exact absurd h.payload (by decide)

end Corstone.Ota
