import Corstone.Lib.History
import Corstone.Lib.Run
import Corstone.MqttAgent.SubscriptionManager

/-!
# The MQTT agent's task

Models of `prvMQTTAgentTask`, `prvMQTTConnect` and `prvHandleResubscribe`
(`mqtt_agent_task.c`). A turn of the loop up to `MQTTAgent_CommandLoop` is one
step; the subscription list changes between the steps, by the callbacks that run
in the command loop and by other tasks.

The session is to be resumed after a reconnect, but the loop sets
`cleanSession` before every connect, so that the branch that subscribes again is
never taken.

* `prvMQTTConnect_clean`: what a connect with a clean session does.
* `resubscribed_iff`: the filters are subscribed again after every connect of a
  run iff no connect without a session finds a filter in the list.
* `not_resubscribed_reconnect`: a filter is registered, and the connection drops.
-/

namespace Corstone.MqttAgent

open Corstone.Lib

variable {Addr Callback : Type}

/-! ## The task -/

/-- `MQTTSubscribeInfo_t` without the quality of service, which is always 1. -/
structure MQTTSubscribeInfo (Addr : Type) where
  pTopicFilter : Addr
  topicFilterLength : UInt16
  deriving DecidableEq

/-- The entry of `xSubInfo` for an element. -/
def SubscriptionElement.subscribeInfo (e : SubscriptionElement Addr Callback) :
    MQTTSubscribeInfo Addr :=
  ⟨e.pcSubscriptionFilterString, e.usFilterStringLength⟩

/-- What the task does to the outside. -/
inductive TaskCall (Addr : Type)
  | mqttAgentCancelAll
  /-- `MQTT_Connect`: the session-present flag if it succeeds. -/
  | mqttConnect (cleanSession : Bool) (sessionPresent : Option Bool)
  | mqttAgentResumeSession (sessionPresent : Bool) (success : Bool)
  | mqttAgentSubscribe (subscribeInfo : List (MQTTSubscribeInfo Addr)) (success : Bool)
  /-- `MQTTAgent_CommandLoop` is entered with this flag of the connect and these
      filters in the list. -/
  | mqttAgentCommandLoop (sessionPresent : Bool) (filters : List (MQTTSubscribeInfo Addr))
  deriving DecidableEq

/-- Where the task is. -/
inductive TaskPhase
  | connecting | commandLoop | terminated
  deriving DecidableEq, Repr

structure AgentTask (Addr Callback : Type) where
  xGlobalSubscriptionList : SubscriptionList Addr Callback
  /-- `xConnectInfo.cleanSession`. -/
  cleanSession : Bool
  phase : TaskPhase
  log : List (TaskCall Addr)

namespace AgentTask

/-- The task before its loop. -/
def init : AgentTask Addr Callback where
  xGlobalSubscriptionList := emptySubscriptionList
  cleanSession := false
  phase := .connecting
  log := []

/-- The task after one more call. -/
def call (σ : AgentTask Addr Callback) (c : TaskCall Addr) : AgentTask Addr Callback :=
  { σ with log := c :: σ.log }

/-- The filters in the list. -/
def filters (σ : AgentTask Addr Callback) : List (MQTTSubscribeInfo Addr) :=
  (occupied σ.xGlobalSubscriptionList).map SubscriptionElement.subscribeInfo

end AgentTask

/-- The results of one turn of the loop. -/
structure ConnectResults where
  /-- `prvSocketConnect`. -/
  socket : Bool := true
  /-- `MQTT_Connect`: the session-present flag if it succeeds. -/
  sessionPresent : Option Bool := some false
  resumeSession : Bool := true
  subscribe : Bool := true

/-- `prvHandleResubscribe` (lines 486–546). -/
def prvHandleResubscribe (r : ConnectResults) (σ : AgentTask Addr Callback) :
    AgentTask Addr Callback × Bool :=
  if σ.filters.length > 0 then (σ.call (.mqttAgentSubscribe σ.filters r.subscribe), r.subscribe)
  else (σ, true)

/-- `prvMQTTConnect` (lines 548–607): the flag if it succeeds. -/
def prvMQTTConnect (r : ConnectResults) (σ : AgentTask Addr Callback) :
    AgentTask Addr Callback × Option Bool :=
  let σ := σ.call .mqttAgentCancelAll
  let σ := σ.call (.mqttConnect σ.cleanSession r.sessionPresent)
  match r.sessionPresent with
  | none => (σ, none)
  | some sessionPresent =>
    if σ.cleanSession = false then
      let σ := σ.call (.mqttAgentResumeSession sessionPresent r.resumeSession)
      if r.resumeSession ∧ sessionPresent = false then
        let (σ, result) := prvHandleResubscribe r σ
        (σ, if result then some sessionPresent else none)
      else (σ, if r.resumeSession then some sessionPresent else none)
    else ({ σ with cleanSession := false }, some sessionPresent)

/-- A turn of the loop of `prvMQTTAgentTask` (lines 668–727) up to the command
    loop, or to the next turn. -/
def connectTurn (r : ConnectResults) (σ : AgentTask Addr Callback) : AgentTask Addr Callback :=
  if r.socket then
    match prvMQTTConnect r { σ with cleanSession := true } with
    | (σ, some sessionPresent) =>
      { σ.call (.mqttAgentCommandLoop sessionPresent σ.filters) with phase := .commandLoop }
    | (σ, none) => σ
  else σ

inductive Action (Addr Callback : Type)
  /-- A turn of the loop up to the command loop. -/
  | connect (r : ConnectResults)
  /-- `MQTTAgent_CommandLoop` returns; it succeeds when the application
      disconnects or terminates it. -/
  | commandLoopReturns (success : Bool)
  | addSubscription (mem : Memory Addr) (pcTopicFilterString : Addr) (usTopicFilterLength : UInt16)
      (pxIncomingPublishCallback : Callback)
  | removeSubscription (mem : Memory Addr) (pcTopicFilterString : Addr)
      (usTopicFilterLength : UInt16)

variable [DecidableEq Callback]

/-- One step of the task or of those who change the list. -/
def step (σ : AgentTask Addr Callback) : Action Addr Callback → AgentTask Addr Callback
  | .connect r => if σ.phase = .connecting then connectTurn r σ else σ
  | .commandLoopReturns success =>
    if σ.phase = .commandLoop then
      { σ with phase := if success then .terminated else .connecting }
    else σ
  | .addSubscription mem pcTopicFilterString usTopicFilterLength pxIncomingPublishCallback =>
    { σ with
      xGlobalSubscriptionList :=
        (addSubscription mem σ.xGlobalSubscriptionList pcTopicFilterString usTopicFilterLength
          pxIncomingPublishCallback).1 }
  | .removeSubscription mem pcTopicFilterString usTopicFilterLength =>
    { σ with
      xGlobalSubscriptionList :=
        (removeSubscription mem σ.xGlobalSubscriptionList pcTopicFilterString
          usTopicFilterLength).1 }

/-! ## Resubscription -/

/-- The call is `MQTT_Connect`. -/
def TaskCall.connects : TaskCall Addr → Bool
  | .mqttConnect _ _ => true
  | _ => false

/-- The filters that the call submits to the broker. -/
def TaskCall.submits : TaskCall Addr → List (MQTTSubscribeInfo Addr)
  | .mqttAgentSubscribe subscribeInfo true => subscribeInfo
  | _ => []

/-- When the command loop is entered after a connect without a session, every
    filter of the list has been submitted since that connect. -/
def Resubscribed (log : List (TaskCall Addr)) : TaskCall Addr → Prop
  | .mqttAgentCommandLoop false filters =>
    ∀ filter ∈ filters, ∃ c ∈ since TaskCall.connects log, filter ∈ c.submits
  | _ => True

/-- A connect that succeeds without a session finds no filter in the list. -/
def ConnectCondition (σ : AgentTask Addr Callback) : Action Addr Callback → Prop
  | .connect r =>
    σ.phase = .connecting → r.socket = true → r.sessionPresent = some false → σ.filters = []
  | _ => True

section Connect

variable {r : ConnectResults} {σ : AgentTask Addr Callback}

omit [DecidableEq Callback] in
/-- A connect with a clean session succeeds or fails, and nothing else. -/
theorem prvMQTTConnect_clean (hclean : σ.cleanSession = true) :
    prvMQTTConnect r σ =
      ({ σ with
          cleanSession := r.sessionPresent.isNone
          log := .mqttConnect true r.sessionPresent :: .mqttAgentCancelAll :: σ.log },
        r.sessionPresent) := by
  unfold prvMQTTConnect
  cases hpresent : r.sessionPresent with
  | none => simp [AgentTask.call, hclean]
  | some sessionPresent => simp [AgentTask.call, hclean]

omit [DecidableEq Callback] in
/-- A turn of the loop keeps the property iff it meets the condition. -/
theorem always_connectTurn_iff :
    Always Resubscribed (connectTurn r σ).log ↔
      Always Resubscribed σ.log ∧
        (r.socket = true → r.sessionPresent = some false → σ.filters = []) := by
  unfold connectTurn
  by_cases hsocket : r.socket = true
  · rw [if_pos hsocket, prvMQTTConnect_clean rfl]
    cases hpresent : r.sessionPresent with
    | none => simp [Resubscribed]
    | some sessionPresent =>
      cases sessionPresent with
      | true => simp [AgentTask.call, Resubscribed]
      | false =>
        have hsubmitted : ∀ filter : MQTTSubscribeInfo Addr,
            ¬ ∃ c ∈ since TaskCall.connects
              (.mqttConnect true (some false) :: .mqttAgentCancelAll :: σ.log),
              filter ∈ c.submits := by
          rintro filter ⟨c, hc, -⟩
          rw [since_cons_of_pos _ _ rfl] at hc
          exact absurd hc List.not_mem_nil
        have hcommandLoop : Resubscribed
            (.mqttConnect true (some false) :: .mqttAgentCancelAll :: σ.log)
            (.mqttAgentCommandLoop false σ.filters) ↔ σ.filters = [] := by
          constructor
          · intro h
            exact List.eq_nil_iff_forall_not_mem.mpr fun filter hfilter =>
              hsubmitted filter (h filter hfilter)
          · intro h filter hfilter
            rw [h] at hfilter
            exact absurd hfilter List.not_mem_nil
        show Resubscribed _ (.mqttAgentCommandLoop false σ.filters) ∧
          Resubscribed _ (.mqttConnect true (some false)) ∧
          Resubscribed _ .mqttAgentCancelAll ∧ Always Resubscribed σ.log ↔ _
        rw [hcommandLoop]
        simp only [Resubscribed, true_and, hsocket, forall_const]
        exact and_comm
  · rw [if_neg hsocket]
    simp [hsocket]

end Connect

/-- A step keeps the property iff it meets the condition. -/
theorem step_resubscribed_iff (σ : AgentTask Addr Callback) (a : Action Addr Callback) :
    Always Resubscribed (step σ a).log ↔
      Always Resubscribed σ.log ∧ ConnectCondition σ a := by
  cases a with
  | connect r =>
    by_cases hphase : σ.phase = .connecting
    · have hstep : step σ (.connect r) = connectTurn r σ := if_pos hphase
      rw [hstep, always_connectTurn_iff]
      simp [ConnectCondition, hphase]
    · have hstep : step σ (.connect r) = σ := if_neg hphase
      rw [hstep]
      simp [ConnectCondition, hphase]
  | commandLoopReturns success =>
    have hlog : (step σ (.commandLoopReturns success)).log = σ.log := by
      unfold step
      split_ifs <;> rfl
    rw [hlog]
    exact (and_iff_left trivial).symm
  | addSubscription => exact (and_iff_left trivial).symm
  | removeSubscription => exact (and_iff_left trivial).symm

/-- **Resubscription.** In a run, every connect without a session subscribes the
    filters of the list again iff it finds none. -/
theorem resubscribed_iff (as : List (Action Addr Callback)) :
    Always Resubscribed (run step .init as).log ↔ Along step ConnectCondition .init as := by
  rw [run_iff_along (J := fun σ : AgentTask Addr Callback => Always Resubscribed σ.log)
    step_resubscribed_iff]
  exact and_iff_right trivial

/-- A filter of one byte at address 0 is registered, the connection drops, and
    the broker accepts the next connect without a session. -/
def reconnect : List (Action ℕ Unit) :=
  [.connect {}, .addSubscription (fun _ => [97]) 0 1 (), .commandLoopReturns false, .connect {}]

instance (log : List (TaskCall ℕ)) (c : TaskCall ℕ) : Decidable (Resubscribed log c) := by
  unfold Resubscribed
  split <;> infer_instance

/-- The filter is not subscribed again. -/
theorem not_resubscribed_reconnect : ¬ Always Resubscribed (run step .init reconnect).log := by
  decide

end Corstone.MqttAgent
