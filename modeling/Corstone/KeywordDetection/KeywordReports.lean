import Corstone.Lib.BoundedQueue
import Corstone.Lib.Run

/-!
# The reports of keywords

Models of `prvSetMlProcessingState`, `prvMqttSendMessage` and `vMlMqttTask`
(`keyword_detection/ml_interface.cc`, lines 275–307, 160–211 and 1094–1112) on the queue that `main`
creates with 20 places. A state that does not fit into the queue is recorded as if it had been sent,
and so it is not sent again. A state whose publish fails has left the queue and is only logged.

* `reported_iff`: the state that is recorded is the last one that has been put into the queue, and
  what is published ends on the last one that has been detected, all along a run iff every state
  that is to be sent finds room in the queue and every publish succeeds.
* `lost_report`: a keyword that finds the queue full, and that is not published when it is detected
  again.
* `lost_publish`: a keyword whose publish fails.
-/

namespace Corstone.KeywordDetection

open Corstone.Lib

/-- `ml_processing_state_t`. -/
inductive MlProcessingState
  | silence | unknown | heardYes | heardNo | heardUp | heardDown | heardLeft | heardRight
  | heardOn | heardOff | heardGo | heardStop
  deriving DecidableEq

/-- What `prvMqttSendMessage` finds. -/
inductive PublishOutcome
  /-- `MQTTAgent_Publish` returns an error. -/
  | refused
  /-- No notification comes within `appMQTT_TIMEOUT_MS`. -/
  | timedOut
  /-- The command has been completed, and whether `xReturnStatus` is `MQTTSuccess`. -/
  | completed (success : Bool)
  deriving DecidableEq

/-- The recorded state, the queue, and what has been sent and published. -/
structure KeywordReports where
  /-- `ml_processing_state`. -/
  mlProcessingState : MlProcessingState := .silence
  xMlMqttQueue : Option (BoundedQueue MlProcessingState 20) := none
  /-- The states that have been put into the queue, oldest first. -/
  sent : List MlProcessingState := []
  /-- The states that `prvMqttSendMessage` has published with success, oldest first. -/
  published : List MlProcessingState := []
  /-- The last state of an inference that has found a queue. -/
  lastDetected : Option MlProcessingState := none

inductive ReportAction
  /-- An inference with its result. -/
  | result (newState : MlProcessingState)
  /-- `main` creates the queue, and whether it is created. -/
  | createQueue (created : Bool)
  /-- `vMlMqttTask` receives a state, and what becomes of its publish. -/
  | publish (outcome : PublishOutcome)
  deriving DecidableEq

namespace KeywordReports

/-- `xQueueSendToBack` without a waiting time. -/
def xQueueSendToBack (q : BoundedQueue MlProcessingState 20) (newState : MlProcessingState)
    (s : KeywordReports) : KeywordReports :=
  if q.Full then s
  else { s with xMlMqttQueue := some (q.push newState), sent := s.sent ++ [newState] }

/-- `prvSetMlProcessingState` (lines 275–307). -/
def prvSetMlProcessingState (newState : MlProcessingState) (s : KeywordReports) :
    KeywordReports :=
  if newState ≠ s.mlProcessingState then
    match s.xMlMqttQueue with
    | none => s
    | some q => { s.xQueueSendToBack q newState with mlProcessingState := newState }
  else s

/-- The caller in `prvProcessAudio` (lines 710–717). -/
def result (newState : MlProcessingState) (s : KeywordReports) : KeywordReports :=
  let detected := if s.xMlMqttQueue.isSome then some newState else s.lastDetected
  { s.prvSetMlProcessingState newState with lastDetected := detected }

/-- The creation of the queue in `main`. -/
def createQueue (created : Bool) (s : KeywordReports) : KeywordReports :=
  if s.xMlMqttQueue.isNone ∧ created = true then
    { s with xMlMqttQueue := some BoundedQueue.empty }
  else s

/-- `prvMqttSendMessage` (lines 160–211): a failure is logged. -/
def prvMqttSendMessage (state : MlProcessingState) (outcome : PublishOutcome)
    (s : KeywordReports) : KeywordReports :=
  match outcome with
  | .completed true => { s with published := s.published ++ [state] }
  | .completed false | .refused | .timedOut => s

/-- `vMlMqttTask` (lines 1094–1112). -/
def vMlMqttTask (outcome : PublishOutcome) (s : KeywordReports) : KeywordReports :=
  match s.xMlMqttQueue with
  | none => s
  | some q =>
    match q.items with
    | [] => s
    | state :: _ => { s with xMlMqttQueue := some q.rest }.prvMqttSendMessage state outcome

/-- What is in the queue. -/
def queued (s : KeywordReports) : List MlProcessingState :=
  (s.xMlMqttQueue.map BoundedQueue.items).getD []

/-- The last state that has been put into the queue, at first silence. -/
def lastSent (s : KeywordReports) : MlProcessingState := s.sent.getLastD .silence

/-- One step. -/
def step (s : KeywordReports) : ReportAction → KeywordReports
  | .result newState => s.result newState
  | .createQueue created => s.createQueue created
  | .publish outcome => s.vMlMqttTask outcome

/-- No change of the keyword is lost. -/
structure Reported (s : KeywordReports) : Prop where
  recorded : s.mlProcessingState = s.lastSent
  /-- What has been sent is published in its order, and the rest is in the queue. -/
  inOrder : s.published ++ s.queued = s.sent
  /-- The next inference with a state that has not been reported reports it. -/
  reports : ∀ q newState, s.xMlMqttQueue = some q → ¬ q.Full → newState ≠ s.lastSent →
    (step s (.result newState)).sent = s.sent ++ [newState]
  /-- The last state that has been detected has been sent, and what is published ends on it. -/
  latest : s.lastDetected.getD .silence = s.lastSent
  ends : s.queued = [] → s.published.getLastD .silence = s.lastDetected.getD .silence

/-- A state that differs from the recorded one finds room in the queue, if there is one, and the
    publish of what is received from the queue succeeds. -/
def ReportCondition (s : KeywordReports) : ReportAction → Prop
  | .result newState =>
    newState ≠ s.mlProcessingState → ∀ q ∈ s.xMlMqttQueue, ¬ q.Full
  | .createQueue _ => True
  | .publish outcome => s.queued ≠ [] → outcome = .completed true

variable {s : KeywordReports} {q : BoundedQueue MlProcessingState 20}
  {newState : MlProcessingState}

/-! ## The steps -/

/-- The recorded state is detected again. -/
theorem result_of_eq (h : newState = s.mlProcessingState) :
    s.result newState = { s with
      lastDetected := if s.xMlMqttQueue.isSome then some newState else s.lastDetected } := by
  unfold result prvSetMlProcessingState
  rw [if_neg (not_not.mpr h)]

/-- There is no queue yet. -/
theorem result_of_none (h : s.xMlMqttQueue = none) : s.result newState = s := by
  have hsame : s.prvSetMlProcessingState newState = s := by
    unfold prvSetMlProcessingState
    rw [h]
    exact ite_self s
  have hseen : (if s.xMlMqttQueue.isSome then some newState else s.lastDetected) =
      s.lastDetected := by
    rw [h]
    rfl
  unfold result
  rw [hsame, hseen]

/-- A new state finds room. -/
theorem result_of_room (hne : newState ≠ s.mlProcessingState) (hq : s.xMlMqttQueue = some q)
    (hroom : ¬ q.Full) :
    s.result newState = { s with
      mlProcessingState := newState
      xMlMqttQueue := some (q.push newState)
      sent := s.sent ++ [newState]
      lastDetected := some newState } := by
  unfold result prvSetMlProcessingState xQueueSendToBack
  rw [if_pos hne, hq]
  simp [hroom]

/-- A new state finds the queue full: it is recorded only. -/
theorem result_of_full (hne : newState ≠ s.mlProcessingState) (hq : s.xMlMqttQueue = some q)
    (hfull : q.Full) :
    s.result newState = { s with
      mlProcessingState := newState
      lastDetected := some newState } := by
  unfold result prvSetMlProcessingState xQueueSendToBack
  rw [if_pos hne, hq]
  simp [hfull, hq]

/-- What follows from the recorded state, the order and the last detection. -/
theorem reported_of (hrecorded : s.mlProcessingState = s.lastSent)
    (horder : s.published ++ s.queued = s.sent)
    (hlatest : s.lastDetected.getD .silence = s.lastSent) : Reported s := by
  refine ⟨hrecorded, horder, ?_, hlatest, ?_⟩
  · intro q newState hq hroom hne
    rw [← hrecorded] at hne
    show (s.result newState).sent = _
    rw [result_of_room hne hq hroom]
  · intro hempty
    rw [hempty, List.append_nil] at horder
    rw [hlatest, horder]
    rfl

theorem reported_result (h : Reported s) (hroom : ReportCondition s (.result newState)) :
    Reported (s.result newState) := by
  by_cases heq : newState = s.mlProcessingState
  · rw [result_of_eq heq]
    refine reported_of h.recorded h.inOrder ?_
    show (if s.xMlMqttQueue.isSome then some newState else s.lastDetected).getD .silence =
      s.lastSent
    by_cases hqueue : s.xMlMqttQueue.isSome
    · rw [if_pos hqueue]
      exact heq.trans h.recorded
    · rw [if_neg hqueue]
      exact h.latest
  cases hq : s.xMlMqttQueue with
  | none => rwa [result_of_none hq]
  | some q =>
    have hnotFull : ¬ q.Full := hroom heq q hq
    have hlast : (s.sent ++ [newState]).getLastD .silence = newState := by simp
    rw [result_of_room heq hq hnotFull]
    refine reported_of hlast.symm ?_ hlast.symm
    show s.published ++ (q.push newState).items = s.sent ++ [newState]
    rw [BoundedQueue.items_push_of_not_full hnotFull, ← List.append_assoc]
    congr 1
    have horder := h.inOrder
    unfold queued at horder
    rwa [hq] at horder

theorem reported_createQueue (h : Reported s) (created : Bool) :
    Reported (s.createQueue created) := by
  unfold createQueue
  by_cases hcreate : s.xMlMqttQueue.isNone ∧ created = true
  · rw [if_pos hcreate]
    refine reported_of h.recorded ?_ h.latest
    have horder := h.inOrder
    unfold queued at horder
    rw [Option.isNone_iff_eq_none.mp hcreate.1] at horder
    exact horder
  · rwa [if_neg hcreate]

/-- There is nothing to publish. -/
theorem vMlMqttTask_of_empty (h : s.queued = []) (outcome : PublishOutcome) :
    s.vMlMqttTask outcome = s := by
  unfold vMlMqttTask
  cases hq : s.xMlMqttQueue with
  | none => rfl
  | some q =>
    have hitems : q.items = [] := by
      unfold queued at h
      rwa [hq] at h
    simp only [hitems]

/-- A state leaves the queue, whatever becomes of it. -/
theorem vMlMqttTask_of_cons {state : MlProcessingState} {rest : List MlProcessingState}
    (h : s.queued = state :: rest) (outcome : PublishOutcome) :
    (s.vMlMqttTask outcome).queued = rest ∧ (s.vMlMqttTask outcome).sent = s.sent ∧
      (s.vMlMqttTask outcome).mlProcessingState = s.mlProcessingState ∧
      (s.vMlMqttTask outcome).lastDetected = s.lastDetected ∧
      (s.vMlMqttTask outcome).published =
        s.published ++ if outcome = .completed true then [state] else [] := by
  unfold queued at h
  cases hq : s.xMlMqttQueue with
  | none =>
    rw [hq] at h
    exact absurd h.symm (List.cons_ne_nil state rest)
  | some q =>
    have hitems : q.items = state :: rest := by rwa [hq] at h
    have hrest : q.rest.items = rest := by
      show q.items.tail = rest
      rw [hitems]
      rfl
    unfold vMlMqttTask
    rw [hq]
    simp only [hitems]
    cases outcome with
    | completed success =>
      cases success <;> exact ⟨hrest, rfl, rfl, rfl, by simp [prvMqttSendMessage]⟩
    | refused => exact ⟨hrest, rfl, rfl, rfl, by simp [prvMqttSendMessage]⟩
    | timedOut => exact ⟨hrest, rfl, rfl, rfl, by simp [prvMqttSendMessage]⟩

/-- What is received stays in its place iff its publish succeeds. -/
theorem reported_vMlMqttTask_iff (h : Reported s) (outcome : PublishOutcome) :
    Reported (s.vMlMqttTask outcome) ↔ ReportCondition s (.publish outcome) := by
  have horder := h.inOrder
  cases hqueued : s.queued with
  | nil =>
    rw [vMlMqttTask_of_empty hqueued]
    exact iff_of_true h fun hne => absurd hqueued hne
  | cons state rest =>
    obtain ⟨hrest, hsent, hrecorded, hlast, hpublished⟩ := vMlMqttTask_of_cons hqueued outcome
    rw [hqueued] at horder
    constructor
    · intro hnext _
      by_contra hfailed
      have hnextOrder := hnext.inOrder
      rw [hpublished, hrest, hsent, if_neg hfailed, ← horder] at hnextOrder
      have hlength := congrArg List.length hnextOrder
      simp only [List.length_append, List.length_cons, List.length_nil] at hlength
      omega
    · intro hsucceeds
      have houtcome : outcome = .completed true := by
        apply hsucceeds
        rw [hqueued]
        exact List.cons_ne_nil state rest
      have hlastSent : (s.vMlMqttTask outcome).lastSent = s.lastSent := by
        unfold lastSent
        rw [hsent]
      apply reported_of
      · rw [hrecorded, hlastSent]
        exact h.recorded
      · rw [hpublished, hrest, hsent, if_pos houtcome, ← horder, List.append_assoc]
        rfl
      · rw [hlast, hlastSent]
        exact h.latest

/-- A step keeps all changes exactly if the state finds room and its publish succeeds. A full queue
    leaves a recorded state that has not been sent. -/
theorem reported_step_iff (h : Reported s) (a : ReportAction) :
    Reported (step s a) ↔ ReportCondition s a := by
  cases a with
  | result newState =>
    constructor
    · intro hnext hne q hq hfull
      have hrecorded : (s.result newState).mlProcessingState = (s.result newState).lastSent :=
        hnext.recorded
      rw [result_of_full hne hq hfull] at hrecorded
      exact hne (hrecorded.trans h.recorded.symm)
    · exact reported_result h
  | createQueue created => exact iff_of_true (reported_createQueue h created) trivial
  | publish outcome => exact reported_vMlMqttTask_iff h outcome

/-- In every state of a run, no change of the keyword is lost iff every result of the run that
    differs from the recorded state finds room in the queue, once there is one, and every publish of
    the run succeeds. -/
theorem reported_iff (as : List ReportAction) :
    (∀ pre, pre <+: as → Reported (run step {} pre)) ↔ Along step ReportCondition {} as :=
  forall_prefix_iff_along (J := Reported) (fun _ a h => reported_step_iff h a)
    (reported_of rfl rfl rfl) as

/-- Twenty changes fill the queue, and the next one is lost: it is not published when it is detected
    again, with all places free. -/
theorem lost_report :
    let fill := (List.replicate 10 [ReportAction.result .heardYes, .result .heardNo]).flatten
    let s := run step {} (.createQueue true :: fill ++ .result .heardGo ::
      List.replicate 20 (.publish (.completed true)) ++
        [.result .heardGo, .publish (.completed true)])
    s.queued = [] ∧ s.lastDetected = some .heardGo ∧ s.mlProcessingState = .heardGo ∧
      s.lastSent = .heardNo ∧ s.published.getLast? = some .heardNo := by
  decide +kernel

/-- A keyword whose publish is refused: it is recorded, and not published when it is detected
    again. -/
theorem lost_publish :
    let s := run step {} [.createQueue true, .result .heardYes, .publish (.completed true),
      .result .heardGo, .publish .refused, .result .heardGo, .publish (.completed true)]
    s.queued = [] ∧ s.lastDetected = some .heardGo ∧ s.lastSent = .heardGo ∧
      s.published = [.heardYes] := by
  decide

end KeywordReports
end Corstone.KeywordDetection
