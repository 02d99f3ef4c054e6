import Corstone.Ota.JsonDevice

/-!
# Data buffers

A data buffer is taken by `prvMqttDataCallback` and given back when the event
that refers to it has been processed. Between the two exactly one event that is
queued or held by the agent's task refers to the buffer. A message that is too
long for the buffer, or whose event does not fit into the queue, keeps its
buffer without an event.

* `buffersAccounted_iff`: the buffers in use are those the events refer to, in
  all states of a run, iff every message that gets a buffer gets its event.
* `BuffersAccounted.not_pending`, `BuffersAccounted.isSome`: no buffer is handed
  out twice, and without events every buffer is free.
* `not_buffersAccounted_queueFull`: a message arrives when the queue is full.
-/

namespace Corstone.Ota

open Corstone.Lib

/-- `bufferUsed` of data buffer `i`. -/
def OtaAgent.bufferUsed (s : OtaAgent) (i : ℕ) : Bool :=
  (s.dataBuffers[i]?.map OtaDataEvent.bufferUsed).getD false

/-- The number of events that refer to data buffer `i`. -/
def OtaSystem.references (σ : OtaSystem) (i : ℕ) : ℕ := σ.pending.count (.receivedFileBlock i)

/-- One event refers to each buffer in use, none to the others. -/
def BuffersAccounted (σ : OtaSystem) : Prop :=
  ∀ i, σ.references i = if σ.agent.bufferUsed i then 1 else 0

/-- A message that gets a buffer fits into it, and its event into the queue. -/
def BufferCondition (σ : OtaSystem) : Action → Prop
  | .dataMessage payload _ =>
    (getOtaDataEventBuffer σ.agent).2 ≠ none →
      payload.length ≤ dataBufferSize ∧ ¬ σ.otaEventQueue.Full
  | _ => True

/-! ## Buffers -/

section Buffers

variable {s t : OtaAgent} {i j : ℕ}

theorem bufferUsed_congr (h : t.dataBuffers = s.dataBuffers) (i : ℕ) :
    t.bufferUsed i = s.bufferUsed i := by
  unfold OtaAgent.bufferUsed
  rw [h]

theorem bufferUsed_free : (freeOtaDataEventBuffer s i).bufferUsed j =
    if i = j then false else s.bufferUsed j := by
  unfold OtaAgent.bufferUsed freeOtaDataEventBuffer
  rw [List.getElem?_modify]
  split_ifs with h
  · cases s.dataBuffers[j]? with
    | none => rfl
    | some b => rfl
  · simp

theorem bufferUsed_fill (payload : Bytes) :
    (fillDataBuffer s i payload).bufferUsed j = s.bufferUsed j := by
  unfold OtaAgent.bufferUsed fillDataBuffer
  rw [List.getElem?_modify]
  split_ifs with h
  · cases s.dataBuffers[j]? with
    | none => rfl
    | some b => rfl
  · simp

/-- The buffer that is handed out was free and is in use now. -/
theorem getOtaDataEventBuffer_some (h : (getOtaDataEventBuffer s).2 = some i) :
    s.bufferUsed i = false ∧
      ∀ j, (getOtaDataEventBuffer s).1.bufferUsed j = if i = j then true else s.bufferUsed j := by
  unfold getOtaDataEventBuffer at h ⊢
  cases hfind : s.dataBuffers.findIdx? fun b => b.bufferUsed == false with
  | none =>
    rw [hfind] at h
    exact absurd h (Option.some_ne_none i).symm
  | some k =>
    rw [hfind] at h
    obtain rfl : k = i := Option.some.inj h
    obtain ⟨hlt, hfree, -⟩ := List.findIdx?_eq_some_iff_getElem.mp hfind
    have hget : s.dataBuffers[k]? = some s.dataBuffers[k] := List.getElem?_eq_getElem hlt
    constructor
    · unfold OtaAgent.bufferUsed
      rw [hget]
      simpa using hfree
    · intro j
      unfold OtaAgent.bufferUsed
      dsimp only
      rw [List.getElem?_modify]
      split_ifs with hj
      · subst hj
        rw [hget]
        rfl
      · simp

/-- A free buffer is handed out. -/
theorem getOtaDataEventBuffer_isSome (hlength : 0 < s.dataBuffers.length)
    (h : s.bufferUsed 0 = false) : (getOtaDataEventBuffer s).2 ≠ none := by
  unfold getOtaDataEventBuffer
  cases hfind : s.dataBuffers.findIdx? fun b => b.bufferUsed == false with
  | some k => simp
  | none =>
    have hused := List.findIdx?_eq_none_iff.mp hfind s.dataBuffers[0] (List.getElem_mem hlength)
    unfold OtaAgent.bufferUsed at h
    rw [List.getElem?_eq_getElem hlength] at h
    simp_all

end Buffers

/-! ## Events -/

section Events

variable {L : Libraries} {r : Results} {s : OtaAgent} {event : OtaEventMsg}

/-- Only a file block touches the buffers. -/
theorem processOTAEvents_dataBuffers (h : ∀ i, event ≠ .receivedFileBlock i) :
    (processOTAEvents L r s event).1.dataBuffers = s.dataBuffers := by
  cases event with
  | receivedFileBlock i => exact absurd rfl (h i)
  | receivedJobDocument =>
    rcases processOTAEvents_receivedJobDocument L r s with hdrop | ⟨p, hout, heq⟩
    · rw [hdrop]
    · have hprocessed : (jobDocumentProcessed p.1 p.2).1.dataBuffers = p.1.dataBuffers := by
        cases p.2 <;> rfl
      rw [heq, hprocessed]
      cases hout with
      | createFailed => simp
      | fileCreated => simp
      | _ => simp
  | closeFile =>
    simp only [processOTAEvents, otaPalCloseFile]
    split_ifs <;> rfl
  | activateImage =>
    rcases processOTAEvents_activateImage L r s with heq | heq
    · rw [heq]
      rfl
    · rw [heq]
      rfl
  | _ => rfl

/-- A file block that has been processed has given its buffer back. -/
theorem bufferUsed_receivedFileBlock (i j : ℕ) :
    (processOTAEvents L r s (.receivedFileBlock i)).1.bufferUsed j =
      if i = j then false else s.bufferUsed j := by
  rcases processOTAEvents_receivedFileBlock L r s i with heq | ⟨-, -, heq⟩
  · rw [heq, bufferUsed_free]
  · rw [heq, receivedFileBlock_eq, bufferUsed_free]
    rfl

end Events

/-! ## Steps -/

section Steps

variable {L : Libraries} {r : Results} {σ τ : OtaSystem} {event : OtaEventMsg}

/-- A step that leaves the buffers and the references alone. -/
theorem BuffersAccounted.congr (h : BuffersAccounted σ)
    (hused : ∀ i, τ.agent.bufferUsed i = σ.agent.bufferUsed i)
    (hreferences : ∀ i, τ.references i = σ.references i) : BuffersAccounted τ := by
  intro i
  rw [hused, hreferences]
  exact h i

/-- A processed event has given its buffer back. -/
theorem buffersAccounted_processEvent (h : BuffersAccounted σ)
    (htask : σ.task = .processing event) :
    BuffersAccounted (processEvent L r σ event) := by
  intro i
  have hreferences : (processEvent L r σ event).references i +
      (if event = .receivedFileBlock i then 1 else 0) = σ.references i :=
    count_processEvent htask trivial
  have hcount := h i
  rw [← hreferences] at hcount
  show _ = if (processOTAEvents L r σ.agent event).1.bufferUsed i then 1 else 0
  cases event with
  | receivedFileBlock k =>
    rw [bufferUsed_receivedFileBlock]
    by_cases hik : k = i
    · subst hik
      rw [if_pos rfl] at hcount
      rw [if_pos rfl, if_neg Bool.false_ne_true]
      split_ifs at hcount
      omega
    · have hne : (OtaEventMsg.receivedFileBlock k) ≠ .receivedFileBlock i := by simpa using hik
      rw [if_neg hne, Nat.add_zero] at hcount
      rw [if_neg hik]
      exact hcount
  | _ =>
    rw [bufferUsed_congr (processOTAEvents_dataBuffers (by simp))]
    simpa using hcount

/-- A message keeps the account iff its buffer gets its event. -/
theorem buffersAccounted_prvMqttDataCallback_iff (h : BuffersAccounted σ) (payload : Bytes) :
    BuffersAccounted (prvMqttDataCallback σ payload) ↔
      ((getOtaDataEventBuffer σ.agent).2 ≠ none →
        payload.length ≤ dataBufferSize ∧ ¬ σ.otaEventQueue.Full) := by
  unfold prvMqttDataCallback
  rcases hget : getOtaDataEventBuffer σ.agent with ⟨agent, index⟩
  cases index with
  | none => exact iff_of_true h fun hsome => absurd rfl hsome
  | some i =>
    obtain ⟨hfree, hused⟩ := @getOtaDataEventBuffer_some σ.agent i (by rw [hget])
    rw [hget] at hused
    dsimp only at hused ⊢
    have hzero : σ.references i = 0 := by
      have hcount := h i
      rwa [hfree] at hcount
    -- the buffer is in use now, so that the account is right iff an event refers to it
    have hkept : ∀ τ : OtaSystem, (∀ j, τ.agent.bufferUsed j = agent.bufferUsed j) →
        τ.references i = 0 → ¬ BuffersAccounted τ := by
      intro τ hτ hnone haccounted
      have hcount := haccounted i
      rw [hτ, hused, hnone] at hcount
      simp at hcount
    by_cases hsize : payload.length ≤ dataBufferSize
    · rw [if_pos hsize]
      by_cases hfull : σ.otaEventQueue.Full
      · refine iff_of_false (hkept _ (fun j => bufferUsed_fill payload) ?_) ?_
        · exact (count_otaSendEvent_of_full hfull).trans hzero
        · exact fun hcond => (hcond (Option.some_ne_none i)).2 hfull
      · refine iff_of_true (fun j => ?_) fun _ => ⟨hsize, hfull⟩
        have hreferences : (otaSendEvent { σ with agent := fillDataBuffer agent i payload }
            (.receivedFileBlock i)).references j =
              σ.references j +
                if OtaEventMsg.receivedFileBlock i = .receivedFileBlock j then 1 else 0 :=
          count_otaSendEvent hfull
        have hbuffer : (otaSendEvent { σ with agent := fillDataBuffer agent i payload }
            (.receivedFileBlock i)).agent.bufferUsed j =
              if i = j then true else σ.agent.bufferUsed j :=
          (bufferUsed_fill payload).trans (hused j)
        rw [hreferences, hbuffer]
        by_cases hij : i = j
        · subst hij
          simp [hzero]
        · simpa [hij] using h j
    · rw [if_neg hsize]
      refine iff_of_false (hkept _ (fun j => rfl) hzero) fun hcond => ?_
      exact hsize (hcond (Option.some_ne_none i)).1

/-- **What one step does to the account.** -/
theorem buffersAccounted_step_iff (h : BuffersAccounted σ) (hnot : SendsInternal σ) (a : Action) :
    BuffersAccounted (step L σ a) ↔ BufferCondition σ a := by
  cases a with
  | receiveEvent =>
    refine iff_of_true (h.congr ?_ ?_) trivial
    · intro i
      show (receiveEvent σ).agent.bufferUsed i = _
      unfold receiveEvent
      split_ifs
      · split <;> rfl
      · rfl
    · exact fun i => count_receiveEvent
  | processEvent r =>
    cases htask : σ.task with
    | processing event =>
      have hstep : step L σ (.processEvent r) = processEvent L r σ event := by
        simp only [step, htask]
      rw [hstep]
      exact iff_of_true (buffersAccounted_processEvent h htask) trivial
    | _ =>
      have hstep : step L σ (.processEvent r) = σ := by simp only [step, htask]
      rw [hstep]
      exact iff_of_true h trivial
  | sendEvent =>
    cases htask : σ.task with
    | sending event =>
      have hstep : step L σ .sendEvent = sendEvent σ event := by simp only [step, htask]
      rw [hstep]
      exact iff_of_true (h.congr (fun i => rfl) fun i => count_sendEvent htask hnot trivial) trivial
    | _ =>
      have hstep : step L σ .sendEvent = σ := by simp only [step, htask]
      rw [hstep]
      exact iff_of_true h trivial
  | jobMessage topic payload =>
    refine iff_of_true (h.congr ?_ ?_) trivial
    · intro i
      show (prvMqttJobCallback L σ topic payload).agent.bufferUsed i = _
      unfold prvMqttJobCallback
      split_ifs <;> rfl
    · intro i
      show (prvMqttJobCallback L σ topic payload).references i = _
      unfold prvMqttJobCallback
      split_ifs
      · exact count_otaSendEvent_of_ne (by simp)
      · rfl
  | dataMessage payload answer =>
    have hcallback := buffersAccounted_prvMqttDataCallback_iff h payload
    cases answer with
    | true => exact hcallback
    | false => exact hcallback
  | otaDemoTask connected =>
    refine iff_of_true (h.congr ?_ ?_) trivial
    · intro i
      show (otaDemoTask σ connected).agent.bufferUsed i = _
      unfold otaDemoTask
      split_ifs <;> rfl
    · exact fun i => count_otaDemoTask connected (by simp) (by simp)
  | otaAgentShutdown =>
    exact iff_of_true (h.congr (fun i => rfl) fun i => count_otaSendEvent_of_ne (by simp)) trivial

/-- No buffer is handed out twice. -/
theorem BuffersAccounted.not_pending (h : BuffersAccounted σ) {i : ℕ}
    (hget : (getOtaDataEventBuffer σ.agent).2 = some i) : .receivedFileBlock i ∉ σ.pending := by
  have hcount := h i
  rw [(getOtaDataEventBuffer_some hget).1] at hcount
  exact List.count_eq_zero.mp hcount

/-- When no file block is pending, a buffer is free. -/
theorem BuffersAccounted.isSome (h : BuffersAccounted σ)
    (hlength : 0 < σ.agent.dataBuffers.length)
    (hpending : ∀ i, .receivedFileBlock i ∉ σ.pending) :
    (getOtaDataEventBuffer σ.agent).2 ≠ none := by
  refine getOtaDataEventBuffer_isSome hlength ?_
  have hcount := h 0
  have hzero : σ.references 0 = 0 := List.count_eq_zero.mpr (hpending 0)
  rw [hzero] at hcount
  by_contra hused
  simp [hused] at hcount

end Steps

/-! ## Runs -/

theorem buffersAccounted_boot (L : Libraries) : BuffersAccounted (.boot L) := by
  intro i
  have hreferences : (OtaSystem.boot L).references i = 0 := rfl
  have hused : (OtaSystem.boot L).agent.bufferUsed i = false := by
    unfold OtaAgent.bufferUsed
    cases hget : (OtaSystem.boot L).agent.dataBuffers[i]? with
    | none => rfl
    | some b =>
      have hmem : b ∈ List.replicate maxNumOtaDataBuffers _ := List.mem_of_getElem? hget
      rw [List.eq_of_mem_replicate hmem]
      rfl
  rw [hreferences, hused]
  rfl

/-- **Buffer accounting.** The buffers in use are those of the pending file
    blocks in all states of a run iff each message that gets a buffer gets its
    event. -/
theorem buffersAccounted_iff (L : Libraries) (as : List Action) :
    (∀ pre, pre <+: as → BuffersAccounted (run (step L) (.boot L) pre)) ↔
      Along (step L) BufferCondition (.boot L) as :=
  forall_prefix_iff_along_of_inv (fun σ a h => sendsInternal_step L σ a h)
    (fun _ a hsends h => buffersAccounted_step_iff h hsends a) (sendsInternal_run L [])
    (buffersAccounted_boot L) as

/-- The connection is down until the queue is full; then a message arrives. -/
def queueFull : List Action :=
  List.replicate 19 (.otaDemoTask false) ++ [.dataMessage (ascii "block") false]

set_option maxRecDepth 20000 in
/-- The buffer of the message is in use, and no event refers to it. -/
theorem not_buffersAccounted_queueFull :
    ¬ BuffersAccounted (run (step jsonDevice) (.boot jsonDevice) queueFull) := by
  intro h
  exact absurd (h 0) (by decide)

end Corstone.Ota
