import Corstone.MqttAgent.AgentTask

/-!
# Sessions and retries of the MQTT agent

Model of `prvMQTTAgentTask` with `prvMQTTConnect` and `prvSocketDisconnect`
(`mqtt_agent_task.c`, lines 652–778, 548–607 and 357–371): the event bits and
the retries. A turn of the loop is one step. The backoff algorithm is a
parameter; its parameters are initialised once, before the loop.

* `turn_noSocket`, `turn_refused`, `turn_session`: the turns of a running task.
* `agentTask_turn`: the turns are those of the task with its subscriptions.
* `connected_iff`: what `EVENT_MASK_MQTT_CONNECTED` means when a call begins; `calls_turn`: the
  calls that each turn makes.
* `Widened.turn`: the window has been doubled once for every failed attempt.
* `restarts_iff`: the delays depend on the failures since the last connect alone
  iff no attempt fails with a window that earlier failures have widened.
* `not_restarts_afterSession`: a failure, a session, and a failure.
-/

namespace Corstone.MqttAgent.SessionLoop

open Corstone.Lib

/-! ## The backoff algorithm -/

/-- The backoff algorithm without a limit of attempts, as it is documented. -/
structure BackoffAlgorithm where
  Context : Type
  initializeParams : (backOffBase maxBackOff : UInt16) → Context
  /-- `BackoffAlgorithm_GetNextBackoff`: the delay if it succeeds. -/
  getNextBackoff : Context → UInt32 → Context × Option UInt16
  /-- The largest delay of the next call. -/
  window : Context → UInt16
  maximum : Context → UInt16
  /-- The delay for a window and a random number. -/
  draw : UInt16 → UInt32 → UInt16
  window_initializeParams : ∀ backOffBase maxBackOff,
    window (initializeParams backOffBase maxBackOff) = backOffBase
  maximum_initializeParams : ∀ backOffBase maxBackOff,
    maximum (initializeParams backOffBase maxBackOff) = maxBackOff
  getNextBackoff_delay : ∀ c random, (getNextBackoff c random).2 = some (draw (window c) random)
  window_getNextBackoff : ∀ c random,
    (window (getNextBackoff c random).1).toNat = min (2 * (window c).toNat) (maximum c).toNat
  maximum_getNextBackoff : ∀ c random, maximum (getNextBackoff c random).1 = maximum c
  draw_le : ∀ w random, draw w random ≤ w
  exists_draw : ∀ w delay, delay ≤ w → ∃ random, draw w random = delay

/-- Different windows have different delays. -/
theorem BackoffAlgorithm.draw_injective (B : BackoffAlgorithm) : Function.Injective B.draw := by
  intro w w' h
  have hle : ∀ v v', B.draw v = B.draw v' → v ≤ v' := by
    intro v v' hdraw
    obtain ⟨random, hrandom⟩ := B.exists_draw v v UInt16.le_rfl
    rw [← hrandom, hdraw]
    exact B.draw_le v' random
  exact UInt16.le_antisymm (hle w w' h) (hle w' w h.symm)

/-- `RETRY_BACKOFF_BASE_MS`. -/
def retryBackoffBaseMs : UInt16 := 10

/-- `RETRY_MAX_BACKOFF_DELAY_MS`. -/
def retryMaxBackoffDelayMs (deviceAdvisor : Bool) : UInt16 := if deviceAdvisor then 10000 else 20000

/-- What is added to the delay (lines 694–696). -/
def extraDelayMs (deviceAdvisor : Bool) : UInt16 := if deviceAdvisor then 8000 else 0

/-! ## The task -/

/-- What the task calls. -/
inductive SessionCall
  | prvSocketConnect (success : Bool)
  | mqttAgentCancelAll
  /-- `MQTT_Connect`: the session-present flag if it succeeds. -/
  | mqttConnect (sessionPresent : Option Bool)
  | mqttAgentResumeSession (sessionPresent success : Bool)
  | prvHandleResubscribe (success : Bool)
  | mqttAgentCommandLoop (success : Bool)
  | transportDisconnect (success : Bool)
  | vTaskDelay (ms : UInt16)
  deriving DecidableEq

/-- The task between two turns. -/
structure Session (B : BackoffAlgorithm) where
  /-- `xConnectInfo.cleanSession`. -/
  cleanSession : Bool
  /-- `EVENT_MASK_MQTT_INIT`. -/
  mqttInit : Bool
  /-- `EVENT_MASK_MQTT_CONNECTED`. -/
  mqttConnected : Bool
  xReconnectParams : B.Context
  usNextRetryBackOff : UInt16
  /-- The loop has not been left. -/
  running : Bool
  /-- The calls, each with `EVENT_MASK_MQTT_CONNECTED` when it begins. -/
  log : List (SessionCall × Bool)

/-- The results of one turn. -/
structure TurnResults extends ConnectResults where
  /-- `MQTTAgent_CommandLoop` returns `MQTTSuccess`. -/
  commandLoop : Bool := false
  /-- `Transport_Disconnect`. -/
  disconnect : Bool := true
  /-- `prvGetRandomNumber`. -/
  random : UInt32 := 0

variable {B : BackoffAlgorithm}

namespace Session

/-- The task after one more call. -/
def call (s : Session B) (c : SessionCall) : Session B :=
  { s with log := (c, s.mqttConnected) :: s.log }

/-- The calls alone. -/
def calls (s : Session B) : List SessionCall := s.log.map Prod.fst

end Session

/-- The task when it enters the loop, after `prvMQTTInit` (lines 654–680). -/
def enterLoop (B : BackoffAlgorithm) (deviceAdvisor : Bool) : Session B where
  cleanSession := false
  mqttInit := true
  mqttConnected := false
  xReconnectParams :=
    B.initializeParams retryBackoffBaseMs (retryMaxBackoffDelayMs deviceAdvisor)
  usNextRetryBackOff := 0
  running := true
  log := []

/-- `prvSocketDisconnect`. -/
def prvSocketDisconnect (disconnect : Bool) (s : Session B) : Session B :=
  let s := s.call (.transportDisconnect disconnect)
  if disconnect then { s with mqttConnected := false } else s

/-- `prvMQTTConnect`. -/
def prvMQTTConnect (r : TurnResults) (s : Session B) : Session B × Bool :=
  let s := s.call .mqttAgentCancelAll
  let s := s.call (.mqttConnect r.sessionPresent)
  match r.sessionPresent with
  | none => (s, false)
  | some sessionPresent =>
    if s.cleanSession = false then
      let s := s.call (.mqttAgentResumeSession sessionPresent r.resumeSession)
      if r.resumeSession ∧ sessionPresent = false then
        (s.call (.prvHandleResubscribe r.subscribe), r.subscribe)
      else (s, r.resumeSession)
    else ({ s with cleanSession := false, mqttConnected := true }, true)

/-- What follows a failed attempt (lines 689–709 and 725–744). -/
def retry (deviceAdvisor : Bool) (random : UInt32) (s : Session B) : Session B :=
  match B.getNextBackoff s.xReconnectParams random with
  | (xReconnectParams, some usNextRetryBackOff) =>
    let usNextRetryBackOff := usNextRetryBackOff + extraDelayMs deviceAdvisor
    { s with
      xReconnectParams := xReconnectParams
      usNextRetryBackOff := usNextRetryBackOff }.call (.vTaskDelay usNextRetryBackOff)
  | (xReconnectParams, none) => { s with xReconnectParams := xReconnectParams }

/-- One turn of the loop (lines 682–770), and what follows the loop when it is left
    (line 772). -/
def turn (deviceAdvisor : Bool) (s : Session B) (r : TurnResults) : Session B :=
  if s.running = false then s
  else
    let s := s.call (.prvSocketConnect r.socket)
    if r.socket = false then retry deviceAdvisor r.random s
    else
      match prvMQTTConnect r { s with cleanSession := true } with
      | (s, false) => retry deviceAdvisor r.random (prvSocketDisconnect r.disconnect s)
      | (s, true) =>
        let s := s.call (.mqttAgentCommandLoop r.commandLoop)
        let s := { s with mqttConnected := false }
        let s := s.call .mqttAgentCancelAll
        if r.commandLoop then { s with mqttInit := false, mqttConnected := false, running := false }
        else prvSocketDisconnect r.disconnect s

/-! ## The purpose -/

namespace SessionCall

/-- The call is `MQTT_Connect`. -/
def connects : SessionCall → Bool
  | .mqttConnect _ => true
  | _ => false

/-- The call ends a session: `MQTTAgent_CommandLoop`, once it has returned, or a
    disconnect that succeeds. -/
def ends : SessionCall → Bool
  | .mqttAgentCommandLoop _ => true
  | .transportDisconnect success => success
  | _ => false

/-- The call is an `MQTT_Connect` that succeeds. -/
def succeeds : SessionCall → Bool
  | .mqttConnect sessionPresent => sessionPresent.isSome
  | _ => false

/-- The call makes an attempt to connect fail. -/
def fails : SessionCall → Bool
  | .prvSocketConnect success => !success
  | .mqttConnect sessionPresent => sessionPresent.isNone
  | _ => false

end SessionCall

/-- The most recent `MQTT_Connect` has succeeded, and the session has not ended
    since. -/
def SessionUp (past : List SessionCall) : Prop :=
  (∃ c, past.find? SessionCall.connects = some c ∧ c.succeeds = true) ∧
    ∀ c ∈ since SessionCall.connects past, c.ends = false

/-- When a call begins, `EVENT_MASK_MQTT_CONNECTED` is set iff there is a session. -/
def Meant (past : List (SessionCall × Bool)) : SessionCall × Bool → Prop
  | (_, mqttConnected) => mqttConnected = true ↔ SessionUp (past.map Prod.fst)

/-- The failed attempts since the last `MQTT_Connect` that has succeeded. -/
def failuresSince (past : List SessionCall) : ℕ :=
  (since SessionCall.succeeds past).countP SessionCall.fails

/-- All failed attempts. -/
def failures (past : List SessionCall) : ℕ := past.countP SessionCall.fails

/-- The turn makes an attempt that fails. -/
def Fails (s : Session B) (r : TurnResults) : Prop :=
  s.running = true ∧ (r.socket = false ∨ r.sessionPresent = none)

/-- The window after so many failures. -/
def windowAfter (deviceAdvisor : Bool) (k : ℕ) : UInt16 :=
  .ofNat (min (retryBackoffBaseMs.toNat * 2 ^ k) (retryMaxBackoffDelayMs deviceAdvisor).toNat)

/-- After a failed attempt the task waits for a delay that is drawn from the window
    for the failures since the last connect, for every random number. -/
def Restarts (deviceAdvisor : Bool) (s : Session B) (r : TurnResults) : Prop :=
  Fails s r → ∀ random, (turn deviceAdvisor s { r with random := random }).calls.head? =
    some (.vTaskDelay (B.draw (windowAfter deviceAdvisor (failuresSince s.calls)) random +
      extraDelayMs deviceAdvisor))

/-- An attempt that fails finds no failures before the last connect, or those since
    have widened the window to its maximum. -/
def RestartCondition (deviceAdvisor : Bool) (s : Session B) (r : TurnResults) : Prop :=
  Fails s r → failures s.calls = failuresSince s.calls ∨
    (retryMaxBackoffDelayMs deviceAdvisor).toNat ≤
      retryBackoffBaseMs.toNat * 2 ^ failuresSince s.calls

/-! ## Turns -/

section Turn

variable {deviceAdvisor : Bool} {s : Session B} {r : TurnResults}

/-- A connect with a clean session. -/
theorem prvMQTTConnect_clean (hclean : s.cleanSession = true) :
    prvMQTTConnect r s =
      ({ s with
          cleanSession := r.sessionPresent.isNone
          mqttConnected := s.mqttConnected || r.sessionPresent.isSome
          log := (.mqttConnect r.sessionPresent, s.mqttConnected) ::
            (.mqttAgentCancelAll, s.mqttConnected) :: s.log },
        r.sessionPresent.isSome) := by
  unfold prvMQTTConnect
  cases hpresent : r.sessionPresent with
  | none => simp [Session.call, hclean]
  | some sessionPresent => simp [Session.call, hclean]

theorem retry_eq (random : UInt32) :
    retry deviceAdvisor random s =
      { s with
        xReconnectParams := (B.getNextBackoff s.xReconnectParams random).1
        usNextRetryBackOff :=
          B.draw (B.window s.xReconnectParams) random + extraDelayMs deviceAdvisor
        log := (.vTaskDelay (B.draw (B.window s.xReconnectParams) random +
          extraDelayMs deviceAdvisor), s.mqttConnected) :: s.log } := by
  have hdelay := B.getNextBackoff_delay s.xReconnectParams random
  unfold retry
  rw [← Prod.mk.eta (p := B.getNextBackoff s.xReconnectParams random), hdelay]
  rfl

/-- A turn that finds no socket. -/
theorem turn_noSocket (hrunning : s.running = true) (hsocket : r.socket = false) :
    turn deviceAdvisor s r = retry deviceAdvisor r.random (s.call (.prvSocketConnect false)) := by
  unfold turn
  rw [if_neg (by rw [hrunning]; decide), hsocket, if_pos rfl]

/-- A turn up to the end of the connect. -/
def connecting (s : Session B) (sessionPresent : Option Bool) : Session B :=
  { s with
    cleanSession := sessionPresent.isNone
    mqttConnected := s.mqttConnected || sessionPresent.isSome
    log := (.mqttConnect sessionPresent, s.mqttConnected) ::
      (.mqttAgentCancelAll, s.mqttConnected) :: (.prvSocketConnect true, s.mqttConnected) :: s.log }

/-- A turn whose connect fails. -/
theorem turn_refused (hrunning : s.running = true) (hsocket : r.socket = true)
    (hpresent : r.sessionPresent = none) :
    turn deviceAdvisor s r =
      retry deviceAdvisor r.random (prvSocketDisconnect r.disconnect (connecting s none)) := by
  unfold turn
  rw [if_neg (by rw [hrunning]; decide), hsocket, if_neg (by decide), prvMQTTConnect_clean rfl,
    hpresent]
  rfl

/-- The command loop has returned, and the commands are cancelled. -/
def commandLoopReturned (s : Session B) (commandLoop : Bool) : Session B :=
  { s with
    mqttConnected := false
    log := (.mqttAgentCancelAll, false) ::
      (.mqttAgentCommandLoop commandLoop, s.mqttConnected) :: s.log }

/-- A turn with a session. -/
theorem turn_session (hrunning : s.running = true) (hsocket : r.socket = true)
    {sessionPresent : Bool} (hpresent : r.sessionPresent = some sessionPresent) :
    turn deviceAdvisor s r =
      let s := commandLoopReturned (connecting s (some sessionPresent)) r.commandLoop
      if r.commandLoop then { s with mqttInit := false, running := false }
      else prvSocketDisconnect r.disconnect s := by
  unfold turn
  rw [if_neg (by rw [hrunning]; decide), hsocket, if_neg (by decide), prvMQTTConnect_clean rfl,
    hpresent]
  rfl

/-- The task with its subscriptions takes the same turn. -/
theorem agentTask_turn {Addr Callback : Type} [DecidableEq Callback] (deviceAdvisor : Bool)
    {σ : AgentTask Addr Callback} (hphase : σ.phase = .connecting) (hrunning : s.running = true)
    (hclean : σ.cleanSession = s.cleanSession) (r : TurnResults) :
    let σ' := step (step σ (.connect r.toConnectResults)) (.commandLoopReturns r.commandLoop)
    σ'.cleanSession = (turn deviceAdvisor s r).cleanSession ∧
      σ'.phase = if (turn deviceAdvisor s r).running then .connecting else .terminated := by
  have hconnect : step σ (.connect r.toConnectResults) = connectTurn r.toConnectResults σ :=
    if_pos hphase
  dsimp only
  rw [hconnect]
  unfold connectTurn
  by_cases hsocket : r.socket = true
  · rw [if_pos hsocket, MqttAgent.prvMQTTConnect_clean rfl]
    cases hpresent : r.sessionPresent with
    | none =>
      rw [turn_refused hrunning hsocket hpresent, retry_eq]
      cases r.disconnect with
      | _ => simp [step, hphase, prvSocketDisconnect, connecting, Session.call, hrunning]
    | some sessionPresent =>
      rw [turn_session hrunning hsocket hpresent]
      cases r.commandLoop with
      | true => exact ⟨rfl, rfl⟩
      | false =>
        cases r.disconnect with
        | _ =>
          simp [step, AgentTask.call, prvSocketDisconnect, connecting, commandLoopReturned,
            Session.call, hrunning]
  · rw [if_neg hsocket, turn_noSocket hrunning (eq_false_of_ne_true hsocket), retry_eq]
    simp [step, hphase, Session.call, hrunning, hclean]

end Turn

/-! ## The flag -/

section Flag

variable {c : SessionCall} {past : List SessionCall}

theorem sessionUp_cons (hconnects : c.connects = false) :
    SessionUp (c :: past) ↔ SessionUp past ∧ c.ends = false := by
  unfold SessionUp
  rw [List.find?_cons_of_neg (by rw [hconnects]; decide), since_cons_of_neg _ _ hconnects,
    List.forall_mem_cons]
  tauto

theorem sessionUp_mqttConnect (sessionPresent : Option Bool) :
    SessionUp (.mqttConnect sessionPresent :: past) ↔ sessionPresent.isSome = true := by
  unfold SessionUp
  rw [List.find?_cons_of_pos rfl, since_cons_of_pos _ _ rfl]
  simp [SessionCall.succeeds]

/-- At every call the flag has meant that there is a session, and so it does now. -/
def Tracks (log : List (SessionCall × Bool)) (mqttConnected : Bool) : Prop :=
  Always Meant log ∧ (mqttConnected = true ↔ SessionUp (log.map Prod.fst))

variable {log : List (SessionCall × Bool)} {mqttConnected : Bool}

/-- A call that neither begins nor ends a session. -/
theorem Tracks.cons (h : Tracks log mqttConnected) (hconnects : c.connects = false)
    (hends : c.ends = false) : Tracks ((c, mqttConnected) :: log) mqttConnected := by
  refine ⟨⟨h.2, h.1⟩, ?_⟩
  rw [List.map_cons, sessionUp_cons hconnects, and_iff_left hends]
  exact h.2

/-- A call that ends a session, when the flag is cleared behind it. -/
theorem Tracks.cons_ends (h : Tracks log mqttConnected) (hconnects : c.connects = false)
    (hends : c.ends = true) : Tracks ((c, mqttConnected) :: log) false := by
  refine ⟨⟨h.2, h.1⟩, ?_⟩
  rw [List.map_cons, sessionUp_cons hconnects, hends]
  simp

/-- `MQTT_Connect` without a session before it. -/
theorem Tracks.cons_mqttConnect (h : Tracks log false) (sessionPresent : Option Bool) :
    Tracks ((.mqttConnect sessionPresent, false) :: log) sessionPresent.isSome := by
  refine ⟨⟨h.2, h.1⟩, ?_⟩
  rw [List.map_cons, sessionUp_mqttConnect]

/-- Between the turns there is no session. -/
def Down (s : Session B) : Prop := Tracks s.log false ∧ s.mqttConnected = false

variable {s : Session B}

theorem Down.call (h : Down s) (hconnects : c.connects = false) (hends : c.ends = false) :
    Down (s.call c) := by
  refine ⟨?_, h.2⟩
  unfold Session.call
  rw [h.2]
  exact h.1.cons hconnects hends

theorem Down.retry (h : Down s) (deviceAdvisor : Bool) (random : UInt32) :
    Down (retry deviceAdvisor random s) := by
  rw [retry_eq]
  exact h.call (c := .vTaskDelay _) rfl rfl

theorem Down.prvSocketDisconnect (h : Down s) (disconnect : Bool) :
    Down (prvSocketDisconnect disconnect s) := by
  unfold SessionLoop.prvSocketDisconnect
  cases disconnect with
  | false => exact h.call rfl rfl
  | true =>
    refine ⟨?_, rfl⟩
    show Tracks ((.transportDisconnect true, s.mqttConnected) :: s.log) false
    rw [h.2]
    exact h.1.cons_ends rfl rfl

theorem Down.connecting (h : Down s) (sessionPresent : Option Bool) :
    Tracks (connecting s sessionPresent).log (connecting s sessionPresent).mqttConnected := by
  unfold SessionLoop.connecting
  rw [h.2, Bool.false_or]
  exact ((h.1.cons rfl rfl).cons rfl rfl).cons_mqttConnect sessionPresent

/-- **The step lemma**: at every call of a turn the flag means what it should. -/
theorem Down.turn (h : Down s) (deviceAdvisor : Bool) (r : TurnResults) :
    Down (turn deviceAdvisor s r) := by
  by_cases hrunning : s.running = true
  · by_cases hsocket : r.socket = true
    · cases hpresent : r.sessionPresent with
      | none =>
        rw [turn_refused hrunning hsocket hpresent]
        have hrefused : Down (SessionLoop.connecting s none) := by
          have hflag : (SessionLoop.connecting s none).mqttConnected = false := by
            show (s.mqttConnected || false) = false
            rw [h.2]
            rfl
          refine ⟨?_, hflag⟩
          rw [← hflag]
          exact h.connecting none
        exact (hrefused.prvSocketDisconnect r.disconnect).retry deviceAdvisor r.random
      | some sessionPresent =>
        rw [turn_session hrunning hsocket hpresent]
        have hreturned : Down (commandLoopReturned
            (SessionLoop.connecting s (some sessionPresent)) r.commandLoop) := by
          refine ⟨?_, rfl⟩
          have hloop := (h.connecting (some sessionPresent)).cons_ends
            (c := .mqttAgentCommandLoop r.commandLoop) rfl rfl
          exact hloop.cons (c := .mqttAgentCancelAll) rfl rfl
        dsimp only
        split_ifs
        · exact hreturned
        · exact hreturned.prvSocketDisconnect r.disconnect
    · rw [turn_noSocket hrunning (eq_false_of_ne_true hsocket)]
      exact (h.call rfl rfl).retry deviceAdvisor r.random
  · unfold SessionLoop.turn
    rwa [if_pos (eq_false_of_ne_true hrunning)]

end Flag

/-- **The flag.** In every run of the task, when a call begins
    `EVENT_MASK_MQTT_CONNECTED` is set iff the most recent `MQTT_Connect` has
    succeeded and the session has not ended since. -/
theorem connected_iff (B : BackoffAlgorithm) (deviceAdvisor : Bool) (rs : List TurnResults) :
    Always Meant (run (turn deviceAdvisor) (enterLoop B deviceAdvisor) rs).log := by
  have hdown : Down (enterLoop B deviceAdvisor) := by
    refine ⟨⟨trivial, ?_⟩, rfl⟩
    simp [enterLoop, SessionUp]
  have hrun := run_inv (fun _ r hs => hs.turn deviceAdvisor r) hdown rs
  exact hrun.1.1

section Calls

variable (deviceAdvisor : Bool) (s : Session B) (r : TurnResults)

/-- The calls of a turn, the latest first. -/
def turnCalls : List SessionCall :=
  let delay := SessionCall.vTaskDelay
    (B.draw (B.window s.xReconnectParams) r.random + extraDelayMs deviceAdvisor)
  if r.socket = false then [delay, .prvSocketConnect false]
  else
    match r.sessionPresent with
    | none =>
      [delay, .transportDisconnect r.disconnect, .mqttConnect none, .mqttAgentCancelAll,
        .prvSocketConnect true]
    | some sessionPresent =>
      (if r.commandLoop then [] else [.transportDisconnect r.disconnect]) ++
        [.mqttAgentCancelAll, .mqttAgentCommandLoop r.commandLoop,
          .mqttConnect (some sessionPresent), .mqttAgentCancelAll, .prvSocketConnect true]

variable {s r}

/-- A turn of a running task makes these calls, so that the history grows with every turn. -/
theorem calls_turn (hrunning : s.running = true) :
    (turn deviceAdvisor s r).calls = turnCalls deviceAdvisor s r ++ s.calls := by
  unfold turnCalls
  by_cases hsocket : r.socket = false
  · rw [turn_noSocket hrunning hsocket, retry_eq, if_pos hsocket]
    rfl
  · rw [if_neg hsocket]
    cases hpresent : r.sessionPresent with
    | none =>
      rw [turn_refused hrunning (eq_true_of_ne_false hsocket) hpresent, retry_eq]
      cases r.disconnect <;> rfl
    | some sessionPresent =>
      rw [turn_session hrunning (eq_true_of_ne_false hsocket) hpresent]
      cases r.commandLoop with
      | true => rfl
      | false => cases r.disconnect <;> rfl

end Calls

/-! ## The delays -/

section Delays

variable {deviceAdvisor : Bool} {s : Session B} {r : TurnResults}

theorem failures_cons (c : SessionCall) (past : List SessionCall) :
    failures (c :: past) = failures past + if c.fails then 1 else 0 := List.countP_cons

/-- A disconnect counts as no failure. -/
theorem failures_prvSocketDisconnect (disconnect : Bool) (s : Session B) :
    failures (prvSocketDisconnect disconnect s).calls = failures s.calls := by
  have hcalls : (prvSocketDisconnect disconnect s).calls =
      .transportDisconnect disconnect :: s.calls := by
    cases disconnect <;> rfl
  rw [hcalls, failures_cons]
  rfl

theorem xReconnectParams_prvSocketDisconnect (disconnect : Bool) (s : Session B) :
    (prvSocketDisconnect disconnect s).xReconnectParams = s.xReconnectParams := by
  cases disconnect <;> rfl

/-- What follows a failure waits once. -/
theorem failures_retry (random : UInt32) (s : Session B) :
    failures (retry deviceAdvisor random s).calls = failures s.calls := by
  rw [retry_eq]
  exact failures_cons _ _

/-- A turn that fails waits once, and counts once. -/
theorem turn_fails (deviceAdvisor : Bool) (hfails : Fails s r) :
    (turn deviceAdvisor s r).xReconnectParams =
        (B.getNextBackoff s.xReconnectParams r.random).1 ∧
      failures (turn deviceAdvisor s r).calls = failures s.calls + 1 ∧
      (turn deviceAdvisor s r).calls.head? = some (.vTaskDelay
        (B.draw (B.window s.xReconnectParams) r.random + extraDelayMs deviceAdvisor)) := by
  obtain ⟨hrunning, hreason⟩ := hfails
  by_cases hsocket : r.socket = false
  · rw [turn_noSocket hrunning hsocket, failures_retry, retry_eq]
    exact ⟨rfl, failures_cons _ _, rfl⟩
  · have hpresent : r.sessionPresent = none := hreason.resolve_left hsocket
    rw [turn_refused hrunning (eq_true_of_ne_false hsocket) hpresent, failures_retry,
      failures_prvSocketDisconnect, retry_eq]
    dsimp only
    rw [xReconnectParams_prvSocketDisconnect]
    refine ⟨rfl, ?_, rfl⟩
    show failures (.mqttConnect none :: .mqttAgentCancelAll :: .prvSocketConnect true ::
      s.calls) = _
    rw [failures_cons, failures_cons, failures_cons]
    rfl

/-- A turn that does not fail leaves the backoff alone. -/
theorem turn_not_fails (deviceAdvisor : Bool) (hfails : ¬ Fails s r) :
    (turn deviceAdvisor s r).xReconnectParams = s.xReconnectParams ∧
      failures (turn deviceAdvisor s r).calls = failures s.calls := by
  by_cases hrunning : s.running = true
  · have hsocket : r.socket = true := by
      by_contra hsocket
      exact hfails ⟨hrunning, Or.inl (eq_false_of_ne_true hsocket)⟩
    obtain ⟨sessionPresent, hpresent⟩ := Option.ne_none_iff_exists'.mp fun hpresent =>
      hfails ⟨hrunning, Or.inr hpresent⟩
    have hcalls : failures (commandLoopReturned (connecting s (some sessionPresent))
        r.commandLoop).calls = failures s.calls := by
      show failures (.mqttAgentCancelAll :: .mqttAgentCommandLoop r.commandLoop ::
        .mqttConnect (some sessionPresent) :: .mqttAgentCancelAll :: .prvSocketConnect true ::
          s.calls) = _
      rw [failures_cons, failures_cons, failures_cons, failures_cons, failures_cons]
      rfl
    rw [turn_session hrunning hsocket hpresent]
    dsimp only
    split_ifs
    · exact ⟨rfl, hcalls⟩
    · rw [xReconnectParams_prvSocketDisconnect, failures_prvSocketDisconnect]
      exact ⟨rfl, hcalls⟩
  · unfold turn
    rw [if_pos (eq_false_of_ne_true hrunning)]
    exact ⟨rfl, rfl⟩

/-- The window has been doubled for every failed attempt. -/
structure Widened (deviceAdvisor : Bool) (s : Session B) : Prop where
  maximum : B.maximum s.xReconnectParams = retryMaxBackoffDelayMs deviceAdvisor
  window : (B.window s.xReconnectParams).toNat =
    min (retryBackoffBaseMs.toNat * 2 ^ failures s.calls)
      (retryMaxBackoffDelayMs deviceAdvisor).toNat

theorem Widened.turn (h : Widened deviceAdvisor s) (r : TurnResults) :
    Widened deviceAdvisor (turn deviceAdvisor s r) := by
  by_cases hfails : Fails s r
  · obtain ⟨hparams, hcount, -⟩ := turn_fails deviceAdvisor hfails
    constructor
    · rw [hparams, B.maximum_getNextBackoff, h.maximum]
    · rw [hparams, B.window_getNextBackoff, h.maximum, h.window, hcount, pow_succ, ← mul_assoc]
      omega
  · obtain ⟨hparams, hcount⟩ := turn_not_fails deviceAdvisor hfails
    constructor
    · rw [hparams, h.maximum]
    · rw [hparams, hcount, h.window]

/-- The number of failures since the last connect is at most that of all. -/
theorem failuresSince_le (past : List SessionCall) : failuresSince past ≤ failures past :=
  (List.takeWhile_sublist _).countP_le

theorem toNat_windowAfter (k : ℕ) :
    (windowAfter deviceAdvisor k).toNat =
      min (retryBackoffBaseMs.toNat * 2 ^ k) (retryMaxBackoffDelayMs deviceAdvisor).toNat := by
  have hmax := (retryMaxBackoffDelayMs deviceAdvisor).toNat_lt
  unfold windowAfter
  rw [UInt16.toNat_ofNat']
  omega

/-- Two numbers of doublings that end at the same window. -/
theorem min_doubled_eq_iff {base m k n : ℕ} (hbase : 0 < base) (hkn : k ≤ n) :
    min (base * 2 ^ n) m = min (base * 2 ^ k) m ↔ n = k ∨ m ≤ base * 2 ^ k := by
  have hmono : base * 2 ^ k ≤ base * 2 ^ n :=
    Nat.mul_le_mul_left base (Nat.pow_le_pow_right (by decide) hkn)
  constructor
  · intro h
    by_contra! hnot
    have hlt : base * 2 ^ k < base * 2 ^ n := by
      refine Nat.mul_lt_mul_of_pos_left (Nat.pow_lt_pow_right (by decide) ?_) hbase
      omega
    omega
  · rintro (rfl | hmax)
    · rfl
    · omega

/-- The window of an attempt is that for the failures since the last connect iff the
    attempt meets the condition. -/
theorem Widened.condition_iff (h : Widened deviceAdvisor s) (r : TurnResults) :
    Restarts deviceAdvisor s r ↔ RestartCondition deviceAdvisor s r := by
  unfold Restarts RestartCondition
  refine imp_congr_right fun hfails => ?_
  have hdelay : ∀ random, (SessionLoop.turn deviceAdvisor s
      { r with random := random }).calls.head? = some (.vTaskDelay
        (B.draw (B.window s.xReconnectParams) random + extraDelayMs deviceAdvisor)) := fun random =>
    (turn_fails (r := { r with random := random }) deviceAdvisor hfails).2.2
  have hwindow : (∀ random, (SessionLoop.turn deviceAdvisor s
      { r with random := random }).calls.head? = some (.vTaskDelay
        (B.draw (windowAfter deviceAdvisor (failuresSince s.calls)) random +
          extraDelayMs deviceAdvisor))) ↔
      B.window s.xReconnectParams = windowAfter deviceAdvisor (failuresSince s.calls) := by
    constructor
    · intro hall
      refine B.draw_injective (funext fun random => ?_)
      have heq := (hdelay random).symm.trans (hall random)
      exact UInt16.add_left_inj _ |>.mp (SessionCall.vTaskDelay.inj (Option.some.inj heq))
    · intro heq random
      rw [hdelay, heq]
  rw [hwindow, ← UInt16.toNat_inj, h.window, toNat_windowAfter]
  exact min_doubled_eq_iff (by decide) (failuresSince_le _)

end Delays

/-- **The delays.** In a run, every delay depends on the failures since the last
    connect alone iff every attempt that fails finds no failures before that connect,
    or those since have widened the window to its maximum. -/
theorem restarts_iff (B : BackoffAlgorithm) (deviceAdvisor : Bool) (rs : List TurnResults) :
    Along (turn deviceAdvisor) (Restarts deviceAdvisor) (enterLoop B deviceAdvisor) rs ↔
      Along (turn deviceAdvisor) (RestartCondition deviceAdvisor)
        (enterLoop B deviceAdvisor) rs := by
  have hwidened : Widened deviceAdvisor (enterLoop B deviceAdvisor) := by
    constructor
    · exact B.maximum_initializeParams _ _
    · show (B.window (B.initializeParams _ _)).toNat = _
      rw [B.window_initializeParams]
      cases deviceAdvisor <;> rfl
  exact along_congr (I := Widened deviceAdvisor) (fun _ r hs _ => hs.turn r)
    (fun _ r hs => hs.condition_iff r) hwidened rs

/-- `nextJitterMax` and `maxBackoffDelay`; a delay is a remainder of the random
    number. -/
def jitter : BackoffAlgorithm where
  Context := UInt16 × UInt16
  initializeParams backOffBase maxBackOff := (backOffBase, maxBackOff)
  getNextBackoff c random :=
    ((.ofNat (min (2 * c.1.toNat) c.2.toNat), c.2), some (.ofNat (random.toNat % (c.1.toNat + 1))))
  window := Prod.fst
  maximum := Prod.snd
  draw w random := .ofNat (random.toNat % (w.toNat + 1))
  window_initializeParams _ _ := rfl
  maximum_initializeParams _ _ := rfl
  getNextBackoff_delay _ _ := rfl
  window_getNextBackoff c _ := by
    have hmax := c.2.toNat_lt
    rw [UInt16.toNat_ofNat']
    omega
  maximum_getNextBackoff _ _ := rfl
  draw_le w random := by
    have hw := w.toNat_lt
    have hmod : random.toNat % (w.toNat + 1) < w.toNat + 1 := Nat.mod_lt _ (Nat.succ_pos _)
    rw [UInt16.le_iff_toNat_le, UInt16.toNat_ofNat']
    omega
  exists_draw w delay hle := by
    have hw := delay.toNat_lt
    have hdelay := UInt16.le_iff_toNat_le.mp hle
    refine ⟨.ofNat delay.toNat, ?_⟩
    rw [← UInt16.toNat_inj, UInt16.toNat_ofNat', UInt32.toNat_ofNat',
      Nat.mod_eq_of_lt (a := delay.toNat) (by omega),
      Nat.mod_eq_of_lt (a := delay.toNat) (by omega), Nat.mod_eq_of_lt (by omega)]

/-- A failure, a session that drops, and a failure. -/
def failureAfterSession : List TurnResults := [{ socket := false }, {}, { socket := false }]

/-- The delay after the second failure is drawn from 0 to 20 ms. -/
theorem not_restarts_afterSession :
    ¬ Along (turn false) (Restarts false) (enterLoop jitter false) failureAfterSession := by
  rintro ⟨-, -, h, -⟩
  exact absurd (h ⟨rfl, Or.inl rfl⟩ 20) (by decide)

end Corstone.MqttAgent.SessionLoop
