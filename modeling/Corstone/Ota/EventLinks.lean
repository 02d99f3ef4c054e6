import Corstone.Ota.EventCalls

/-!
# Links between events

An activity of the agent goes on as long as it has a link: one of its events is
queued or held by the agent's task, or the answer to a block request is to come.
Every link is made from the one before it. The activity is given by the agents
it is about (`Active`) and by its events (`links`), among them the file blocks.

* `linked_step_iff`: what the tasks and callbacks around `processOTAEvents` do
  to the links. The `switch` itself is left open.
-/

namespace Corstone.Ota

open Corstone.Lib

/-! ## Links -/

namespace OtaSystem

/-- The message gets into the queue: there is a free buffer, which is large
    enough, and room for the event. -/
def Delivers (σ : OtaSystem) (payload : Bytes) : Prop :=
  (getOtaDataEventBuffer σ.agent).2 ≠ none ∧ payload.length ≤ dataBufferSize ∧
    ¬ σ.otaEventQueue.Full

variable (links : OtaEventMsg → Bool) (Active : OtaAgent → Prop) (σ : OtaSystem)

/-- An event of the activity is queued or held by the task. -/
def HasEvent : Prop := ∃ event ∈ σ.pending, links event = true

/-- The links behind the event that the task holds. -/
def HasOtherLink : Prop :=
  (∃ event ∈ σ.otaEventQueue.items, links event = true) ∨ 0 < σ.awaitedBlocks

/-- The activity has a link. -/
def HasLink : Prop := σ.HasEvent links ∨ 0 < σ.awaitedBlocks

/-- An activity that is on has a link. -/
def Linked : Prop := Active σ.agent → σ.HasLink links

instance : Decidable (σ.HasEvent links) :=
  inferInstanceAs (Decidable (∃ event ∈ σ.pending, links event = true))
instance : Decidable (σ.HasOtherLink links) := inferInstanceAs (Decidable (_ ∨ _))
instance : Decidable (σ.HasLink links) := inferInstanceAs (Decidable (_ ∨ _))
instance [DecidablePred Active] : Decidable (σ.Linked links Active) :=
  inferInstanceAs (Decidable (_ → _))

end OtaSystem

/-- The action does not break the last link: an event of the activity fits into
    the queue, and the answer to a block request is delivered. `Keeps` is what
    is asked of the `switch`. -/
def LinkCondition (links : OtaEventMsg → Bool) (Active : OtaAgent → Prop)
    (Keeps : Results → OtaSystem → OtaEventMsg → Prop) (σ : OtaSystem) : Action → Prop
  | .sendEvent =>
    ∀ event, σ.task = .sending event → links event = true → σ.otaEventQueue.Full →
      Active σ.agent → σ.HasOtherLink links
  | .dataMessage payload true =>
    ¬ σ.Delivers payload → Active σ.agent → σ.HasEvent links ∨ 1 < σ.awaitedBlocks
  | .processEvent r => ∀ event, σ.task = .processing event → Keeps r σ event
  | _ => True

section Links

variable {L : Libraries} {r : Results} {links : OtaEventMsg → Bool} {Active : OtaAgent → Prop}
  {σ τ : OtaSystem} {event : OtaEventMsg} {payload : Bytes}

theorem hasLink_iff (σ : OtaSystem) :
    σ.HasLink links ↔ (∃ e ∈ σ.task.events, links e = true) ∨ σ.HasOtherLink links := by
  unfold OtaSystem.HasLink OtaSystem.HasEvent OtaSystem.HasOtherLink OtaSystem.pending
  simp only [List.mem_append, or_and_right, exists_or, or_assoc]

/-- The links of a task that holds an event. -/
theorem hasLink_iff_of_task (h : σ.task.events = [event]) :
    σ.HasLink links ↔ links event = true ∨ σ.HasOtherLink links := by
  simp [hasLink_iff, h]

/-! ## The callbacks -/

/-- A message that is delivered is in hand. -/
theorem prvMqttDataCallback_delivers (hlinks : ∀ i, links (.receivedFileBlock i) = true)
    (h : σ.Delivers payload) : (prvMqttDataCallback σ payload).HasEvent links := by
  obtain ⟨hbuffer, hsize, hroom⟩ := h
  unfold prvMqttDataCallback
  rcases hget : getOtaDataEventBuffer σ.agent with ⟨agent, index⟩
  rw [hget] at hbuffer
  cases index with
  | none => exact absurd rfl hbuffer
  | some i =>
    dsimp only
    rw [if_pos hsize]
    exact ⟨.receivedFileBlock i, List.mem_append_right _ (BoundedQueue.mem_push_self hroom _),
      hlinks i⟩

/-- A message that is not delivered changes no event. -/
theorem prvMqttDataCallback_pending (h : ¬ σ.Delivers payload) :
    (prvMqttDataCallback σ payload).pending = σ.pending := by
  unfold prvMqttDataCallback
  rcases hget : getOtaDataEventBuffer σ.agent with ⟨agent, index⟩
  cases index with
  | none => rfl
  | some i =>
    dsimp only
    split_ifs with hsize
    · have hfull : σ.otaEventQueue.Full := by
        by_contra hroom
        exact h ⟨by rw [hget]; simp, hsize, hroom⟩
      simp only [OtaSystem.pending, otaSendEvent, BoundedQueue.push_of_full hfull]
    · rfl

theorem prvMqttDataCallback_awaitedBlocks (σ : OtaSystem) (payload : Bytes) :
    (prvMqttDataCallback σ payload).awaitedBlocks = σ.awaitedBlocks := by
  unfold prvMqttDataCallback
  split
  · split_ifs <;> rfl
  · rfl

theorem prvMqttDataCallback_pending_subset (σ : OtaSystem) (payload : Bytes) :
    ∀ e ∈ σ.pending, e ∈ (prvMqttDataCallback σ payload).pending := by
  unfold prvMqttDataCallback
  split
  · split_ifs
    · exact otaSendEvent_pending_subset _ _
    · exact fun _ he => he
  · exact fun _ he => he

/-- A step that loses no event and no answer. -/
theorem linked_of_subset (h : σ.Linked links Active)
    (hactive : Active τ.agent → Active σ.agent) (hpending : ∀ e ∈ σ.pending, e ∈ τ.pending)
    (hawaited : τ.awaitedBlocks = σ.awaitedBlocks) : τ.Linked links Active := by
  intro hτ
  rcases h (hactive hτ) with ⟨e, he, hlinks⟩ | hanswer
  · exact Or.inl ⟨e, hpending e he, hlinks⟩
  · exact Or.inr (hawaited ▸ hanswer)

/-- The answer to a block request keeps the activity linked iff it is delivered
    or is not the last link. -/
theorem linked_answer_iff (hlinks : ∀ i, links (.receivedFileBlock i) = true)
    (hactive : Active (prvMqttDataCallback σ payload).agent ↔ Active σ.agent) :
    (step L σ (.dataMessage payload true)).Linked links Active ↔
      (¬ σ.Delivers payload → Active σ.agent → σ.HasEvent links ∨ 1 < σ.awaitedBlocks) := by
  have hawaited : (step L σ (.dataMessage payload true)).awaitedBlocks = σ.awaitedBlocks - 1 := by
    rw [← prvMqttDataCallback_awaitedBlocks σ payload]
    rfl
  have hpending : (step L σ (.dataMessage payload true)).pending =
      (prvMqttDataCallback σ payload).pending := rfl
  change (Active (prvMqttDataCallback σ payload).agent → _ ∨ _) ↔ _
  rw [hactive, hawaited]
  by_cases hdelivers : σ.Delivers payload
  · have hinHand := prvMqttDataCallback_delivers hlinks hdelivers
    exact iff_of_true (fun _ => Or.inl hinHand) (fun hnot => absurd hdelivers hnot)
  · have hinHand : (step L σ (.dataMessage payload true)).HasEvent links ↔ σ.HasEvent links := by
      unfold OtaSystem.HasEvent
      rw [hpending, prvMqttDataCallback_pending hdelivers]
    rw [hinHand, Nat.sub_pos_iff_lt]
    exact ⟨fun hkeeps _ => hkeeps, fun hkeeps => hkeeps hdelivers⟩

/-! ## The agent's task -/

/-- The send of an event keeps the activity linked iff it is not the last link,
    or fits into the queue. -/
theorem linked_sendEvent_iff (h : σ.Linked links Active) (htask : σ.task = .sending event)
    (hactive : Active (sendEvent σ event).agent ↔ Active σ.agent) :
    (sendEvent σ event).Linked links Active ↔
      (links event = true → σ.otaEventQueue.Full → Active σ.agent → σ.HasOtherLink links) := by
  have hbefore : σ.HasLink links ↔ links event = true ∨ σ.HasOtherLink links :=
    hasLink_iff_of_task (by rw [htask]; rfl)
  have hafter : (sendEvent σ event).HasLink links ↔ (sendEvent σ event).HasOtherLink links := by
    simp [hasLink_iff, sendEvent, OtaTask.events]
  unfold OtaSystem.Linked at h ⊢
  rw [hbefore] at h
  rw [hactive, hafter]
  by_cases hfull : σ.otaEventQueue.Full
  · have hother : (sendEvent σ event).HasOtherLink links ↔ σ.HasOtherLink links := by
      simp only [OtaSystem.HasOtherLink, sendEvent, otaSendEvent, BoundedQueue.push_of_full hfull]
    rw [hother]
    constructor
    · exact fun hlink _ _ => hlink
    · intro hlink hnow
      rcases h hnow with hevent | hlinked
      · exact hlink hevent hfull hnow
      · exact hlinked
  · have hother : (sendEvent σ event).HasOtherLink links ↔
        σ.HasOtherLink links ∨ links event = true := by
      simp only [OtaSystem.HasOtherLink, sendEvent, otaSendEvent,
        BoundedQueue.items_push_of_not_full hfull, List.mem_append, List.mem_singleton,
        or_and_right, exists_or, exists_eq_left]
      exact or_right_comm
    rw [hother]
    refine iff_of_true (fun hnow => (h hnow).symm) fun _ hnow => absurd hnow hfull

/-- The links after the `switch`, unless it was for a block request. -/
theorem hasLink_processEvent (hevent : event ≠ .requestFileBlock) :
    (processEvent L r σ event).HasLink links ↔
      (∃ e, (processOTAEvents L r σ.agent event).2 = some e ∧ links e = true) ∨
        σ.HasOtherLink links := by
  have hawaited : (processEvent L r σ event).awaitedBlocks = σ.awaitedBlocks :=
    if_neg fun h => hevent h.1
  have hother : (processEvent L r σ event).HasOtherLink links ↔ σ.HasOtherLink links := by
    unfold OtaSystem.HasOtherLink
    rw [hawaited]
    rfl
  rw [hasLink_iff, hother]
  refine or_congr_left ?_
  show (∃ e ∈ (OtaTask.afterSwitch (processOTAEvents L r σ.agent event).2).events, _) ↔ _
  cases (processOTAEvents L r σ.agent event).2 with
  | none => simp [OtaTask.afterSwitch, OtaTask.events]
  | some next => simp [OtaTask.afterSwitch, OtaTask.events]

/-- The links after a block request: its answer, if it has gone out. -/
theorem hasLink_requestFileBlock :
    (processEvent L r σ .requestFileBlock).HasLink links ↔
      (r.mqtt ≠ .transmitted → σ.HasOtherLink links) := by
  have hrequested : (processEvent L r σ .requestFileBlock).HasLink links ↔
      (processEvent L r σ .requestFileBlock).HasOtherLink links := by
    simp [hasLink_iff, processEvent, processOTAEvents, OtaTask.afterSwitch, OtaTask.events]
  rw [hrequested]
  by_cases hsent : r.mqtt = .transmitted
  · have hawaited : (processEvent L r σ .requestFileBlock).awaitedBlocks = σ.awaitedBlocks + 1 :=
      if_pos ⟨rfl, hsent⟩
    refine iff_of_true (Or.inr ?_) fun hfailed => absurd hsent hfailed
    rw [hawaited]
    exact Nat.succ_pos _
  · have hawaited : (processEvent L r σ .requestFileBlock).awaitedBlocks = σ.awaitedBlocks :=
      if_neg fun h => hsent h.2
    have hother : (processEvent L r σ .requestFileBlock).HasOtherLink links ↔
        σ.HasOtherLink links := by
      unfold OtaSystem.HasOtherLink
      rw [hawaited]
      rfl
    rw [hother]
    exact ⟨fun hlink _ => hlink, fun hlink => hlink hsent⟩

/-- An event outside the activity leaves the links alone. -/
theorem linked_processEvent_of_imp (h : σ.Linked links Active)
    (htask : σ.task = .processing event) (hlinks : links event = false)
    (hevent : event ≠ .requestFileBlock)
    (hactive : Active (processOTAEvents L r σ.agent event).1 → Active σ.agent) :
    (processEvent L r σ event).Linked links Active := by
  intro hnow
  have hbefore : σ.HasLink links ↔ links event = true ∨ σ.HasOtherLink links :=
    hasLink_iff_of_task (by rw [htask]; rfl)
  rw [hasLink_processEvent hevent]
  rcases hbefore.mp (h (hactive hnow)) with hthis | hlink
  · exact absurd (hthis.symm.trans hlinks) Bool.noConfusion
  · exact Or.inr hlink

/-- The `switch` sends the next event of the activity. -/
theorem linked_processEvent_of_next {next : OtaEventMsg} (hlinks : links next = true)
    (hnext : (processOTAEvents L r σ.agent event).2 = some next)
    (hevent : event ≠ .requestFileBlock) : (processEvent L r σ event).Linked links Active :=
  fun _ => (hasLink_processEvent hevent).mpr (Or.inl ⟨next, hnext, hlinks⟩)

/-- The `switch` sends no event of the activity. -/
theorem linked_processEvent_iff_other (hevent : event ≠ .requestFileBlock)
    (hnext : ∀ e, (processOTAEvents L r σ.agent event).2 = some e → links e = false) :
    (processEvent L r σ event).Linked links Active ↔
      (Active (processOTAEvents L r σ.agent event).1 → σ.HasOtherLink links) := by
  have hnot : ¬ ∃ e, (processOTAEvents L r σ.agent event).2 = some e ∧ links e = true := by
    rintro ⟨e, he, hlinks⟩
    simp [hnext e he] at hlinks
  unfold OtaSystem.Linked
  rw [hasLink_processEvent hevent, or_iff_right hnot]
  exact Iff.rfl

end Links

/-! ## Steps -/

section Steps

variable {L : Libraries} {links : OtaEventMsg → Bool} {Active : OtaAgent → Prop}
  {Keeps : Results → OtaSystem → OtaEventMsg → Prop} {σ : OtaSystem}

/-- **What one step does to the links.** The activity does not depend on the
    buffers and not on the sends, file blocks are among its events, and `Keeps`
    is exact for the `switch`. -/
theorem linked_step_iff (hlinks : ∀ i, links (.receivedFileBlock i) = true)
    (hbuffers : ∀ s job data,
      Active { s with jobDocBuffer := job, dataBuffers := data } ↔ Active s)
    (hsend : ∀ s event sent, Active (s.call (.otaSendEvent event sent)) ↔ Active s)
    (hprocess : ∀ r event, σ.task = .processing event →
      ((processEvent L r σ event).Linked links Active ↔ Keeps r σ event))
    (h : σ.Linked links Active) (a : Action) :
    (step L σ a).Linked links Active ↔ LinkCondition links Active Keeps σ a := by
  have hquiet : ∀ τ : OtaSystem, (∃ job data,
      τ.agent = { σ.agent with jobDocBuffer := job, dataBuffers := data }) →
      (Active τ.agent ↔ Active σ.agent) := by
    rintro τ ⟨job, data, hagent⟩
    rw [hagent]
    exact hbuffers _ _ _
  cases a with
  | receiveEvent =>
    refine iff_of_true (linked_of_subset h (hquiet _ (quiet_receiveEvent σ).agent).mp ?_ ?_) trivial
    · exact fun e he => (receiveEvent_pending σ).symm ▸ he
    · show (receiveEvent σ).awaitedBlocks = _
      unfold receiveEvent
      split_ifs
      · split <;> rfl
      · rfl
  | processEvent r =>
    unfold LinkCondition
    cases htask : σ.task with
    | processing event =>
      rw [step_processEvent htask, hprocess r event htask]
      simp
    | _ =>
      have hstep : step L σ (.processEvent r) = σ := by simp only [step, htask]
      rw [hstep]
      exact iff_of_true h (by simp)
  | sendEvent =>
    unfold LinkCondition
    cases htask : σ.task with
    | sending event =>
      have hstep : step L σ .sendEvent = sendEvent σ event := by simp only [step, htask]
      rw [hstep, linked_sendEvent_iff h htask (hsend _ _ _)]
      simp
    | _ =>
      have hstep : step L σ .sendEvent = σ := by simp only [step, htask]
      rw [hstep]
      exact iff_of_true h (by simp)
  | jobMessage topic payload =>
    refine iff_of_true (linked_of_subset h
      (hquiet _ (quiet_prvMqttJobCallback L σ topic payload).agent).mp ?_ ?_) trivial
    · show ∀ e ∈ σ.pending, e ∈ (prvMqttJobCallback L σ topic payload).pending
      unfold prvMqttJobCallback
      split_ifs
      · exact otaSendEvent_pending_subset { σ with agent := fillJobDocBuffer σ.agent payload } _
      · exact fun _ he => he
    · show (prvMqttJobCallback L σ topic payload).awaitedBlocks = _
      unfold prvMqttJobCallback
      split_ifs <;> rfl
  | dataMessage payload answer =>
    have hactive := hquiet _ (quiet_prvMqttDataCallback σ payload).agent
    cases answer with
    | true => exact linked_answer_iff hlinks hactive
    | false =>
      exact iff_of_true (linked_of_subset h hactive.mp
        (prvMqttDataCallback_pending_subset σ payload)
        (prvMqttDataCallback_awaitedBlocks σ payload)) trivial
  | otaDemoTask connected =>
    refine iff_of_true (linked_of_subset h (hquiet _ (quiet_otaDemoTask σ connected).agent).mp
      ?_ ?_) trivial
    · show ∀ e ∈ σ.pending, e ∈ (otaDemoTask σ connected).pending
      unfold otaDemoTask
      split_ifs
      · exact otaSendEvent_pending_subset σ _
      · exact otaSendEvent_pending_subset σ _
      · exact fun _ he => he
    · show (otaDemoTask σ connected).awaitedBlocks = _
      unfold otaDemoTask
      split_ifs <;> rfl
  | otaAgentShutdown =>
    exact iff_of_true (linked_of_subset h id (otaSendEvent_pending_subset σ _) rfl) trivial

end Steps

end Corstone.Ota
