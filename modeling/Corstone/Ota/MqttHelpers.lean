import Corstone.Lib.History
import Corstone.Lib.Run

/-!
# The calls of the MQTT helpers

`prvMQTTPublish`, `prvMQTTSubscribe` and `prvMQTTUnsubscribe`
(`mqtt_helpers.c`) enqueue a command and wait for one notification. Every
completion callback writes the static context of its operation and notifies the
task, whichever command it belongs to. The caller takes what it finds in the
context; nothing tells it whose completion has woken it.

A call that times out leaves its command in flight, and the later calls may meet
the completion of that command.

* `step_ownSoFar_iff`: when a step attributes a completion to another call.
* `statusesOwn_iff`: the exact condition on the runs.
* `not_statusesOwn_lateSubscribe`: the late completion of a SUBSCRIBE makes a
  PUBLISH that fails return success.
-/

namespace Corstone.Ota

open Corstone.Lib

/-! ## The operations -/

/-- `MQTTStatus_t`, as far as the helpers name its values. -/
inductive MQTTStatus
  | success | sendFailed | recvFailed
  | other (code : ℕ)
  deriving DecidableEq, Repr

/-- `OtaMqttStatus_t` (`mqtt_helpers.h`, lines 17–23). -/
inductive OtaMqttStatus
  | success | publishFailed | subscribeFailed | unsubscribeFailed
  deriving DecidableEq, Repr

/-- The operations, each with a static command context. -/
inductive MqttOperation
  | publish | subscribe | unsubscribe
  deriving DecidableEq, Repr

namespace MqttOperation

/-- `mqttStatus` of a call whose wait has timed out. -/
def timeOutStatus : MqttOperation → MQTTStatus
  | publish => .sendFailed
  | subscribe | unsubscribe => .recvFailed

/-- What the operation returns if `mqttStatus` is no success. -/
def failed : MqttOperation → OtaMqttStatus
  | publish => .publishFailed
  | subscribe => .subscribeFailed
  | unsubscribe => .unsubscribeFailed

/-- `otaRet`. -/
def otaRet (op : MqttOperation) (mqttStatus : MQTTStatus) : OtaMqttStatus :=
  if mqttStatus = .success then .success else op.failed

theorem otaRet_timeOutStatus (op : MqttOperation) : op.otaRet op.timeOutStatus = op.failed := by
  cases op <;> rfl

end MqttOperation

/-! ## The system -/

/-- Where the task is. A command is named by the number of commands accepted
    before it. -/
inductive HelperPhase
  | idle
  /-- The context is written, the notification not cleared yet. -/
  | prepared (op : MqttOperation)
  /-- After `xTaskNotifyStateClear`. -/
  | cleared (op : MqttOperation)
  /-- In `xTaskNotifyWait`, for the command `command`. -/
  | waiting (command : ℕ) (op : MqttOperation)
  deriving DecidableEq, Repr

/-- What holds of the call that waits, if there is one. -/
def HelperPhase.IfWaiting (phase : HelperPhase) (P : ℕ → MqttOperation → Prop) : Prop :=
  match phase with
  | .waiting command op => P command op
  | _ => True

instance (phase : HelperPhase) (P : ℕ → MqttOperation → Prop)
    [∀ command op, Decidable (P command op)] : Decidable (phase.IfWaiting P) :=
  match phase with
  | .waiting command op => inferInstanceAs (Decidable (P command op))
  | .idle | .prepared _ | .cleared _ => isTrue trivial

/-- What happens in a run. -/
inductive HelperEvent
  | completed (command : ℕ) (op : MqttOperation) (returnCode : MQTTStatus)
  /-- The call of the command `command` returns after a notification. -/
  | returned (command : ℕ) (op : MqttOperation) (otaRet : OtaMqttStatus)
  | timedOut (command : ℕ) (op : MqttOperation) (otaRet : OtaMqttStatus)
  /-- The agent has not accepted the command. -/
  | refused (op : MqttOperation) (otaRet : OtaMqttStatus)
  deriving DecidableEq, Repr

/-- The static contexts, the notification of the task, and the accepted commands
    that have not completed. -/
structure MqttHelpers where
  /-- `xReturnStatus` of the context of each operation. -/
  xReturnStatus : MqttOperation → MQTTStatus
  notified : Bool
  phase : HelperPhase
  inFlight : ℕ → Option MqttOperation
  nextCommand : ℕ
  /-- Newest first. -/
  events : List HelperEvent

/-- The steps of the task and of the agent. -/
inductive HelperAction
  /-- The task calls an operation, up to `xTaskNotifyStateClear`. -/
  | call (op : MqttOperation)
  | xTaskNotifyStateClear
  /-- `MQTTAgent_Publish`, `MQTTAgent_Subscribe` or `MQTTAgent_Unsubscribe`. -/
  | enqueue (mqttStatus : MQTTStatus)
  /-- The completion callback of a command. -/
  | complete (command : ℕ) (returnCode : MQTTStatus)
  /-- `xTaskNotifyWait` returns `pdTRUE`. -/
  | wake
  /-- `xTaskNotifyWait` returns `pdFALSE`. -/
  | timeOut
  deriving DecidableEq, Repr

namespace MqttHelpers

/-- The static contexts are zero. -/
def boot : MqttHelpers where
  xReturnStatus := fun _ => .success
  notified := false
  phase := .idle
  inFlight := fun _ => none
  nextCommand := 0
  events := []

/-- `prvMQTTSubscribe` alone resets its context. -/
def prepare (σ : MqttHelpers) : MqttOperation → MqttHelpers
  | .subscribe =>
    { σ with
      xReturnStatus := Function.update σ.xReturnStatus .subscribe .sendFailed
      phase := .prepared .subscribe }
  | op => { σ with phase := .prepared op }

/-- The completion callback (lines 42–89) of the command `command`, which is an `op`. -/
def completed (σ : MqttHelpers) (command : ℕ) (op : MqttOperation) (returnCode : MQTTStatus) :
    MqttHelpers :=
  { σ with
    xReturnStatus := Function.update σ.xReturnStatus op returnCode
    notified := true
    inFlight := Function.update σ.inFlight command none
    events := .completed command op returnCode :: σ.events }

/-- One step. -/
def step (σ : MqttHelpers) : HelperAction → MqttHelpers
  | .call op =>
    match σ.phase with
    | .idle => σ.prepare op
    | _ => σ
  | .xTaskNotifyStateClear =>
    match σ.phase with
    | .prepared op => { σ with notified := false, phase := .cleared op }
    | _ => σ
  | .enqueue mqttStatus =>
    match σ.phase with
    | .cleared op =>
      if mqttStatus = .success then
        { σ with
          phase := .waiting σ.nextCommand op
          inFlight := Function.update σ.inFlight σ.nextCommand (some op)
          nextCommand := σ.nextCommand + 1 }
      else { σ with phase := .idle, events := .refused op (op.otaRet mqttStatus) :: σ.events }
    | _ => σ
  | .complete command returnCode =>
    match σ.inFlight command with
    | some op => σ.completed command op returnCode
    | none => σ
  | .wake =>
    match σ.phase with
    | .waiting command op =>
      if σ.notified then
        { σ with
          notified := false
          phase := .idle
          events := .returned command op (op.otaRet (σ.xReturnStatus op)) :: σ.events }
      else σ
    | _ => σ
  | .timeOut =>
    match σ.phase with
    | .waiting command op =>
      if σ.notified then σ
      else
        { σ with
          phase := .idle
          events := .timedOut command op (op.otaRet op.timeOutStatus) :: σ.events }
    | _ => σ

/-! ## The property -/

/-- The latest completion of an operation: the command and its return code. -/
def latestCompletion (op : MqttOperation) : List HelperEvent → Option (ℕ × MQTTStatus)
  | [] => none
  | .completed command op' returnCode :: l =>
    if op' = op then some (command, returnCode) else latestCompletion op l
  | _ :: l => latestCompletion op l

/-- A call that times out fails. The status of any other accepted call is the
    return code of its own command, and the completion of this command is the one
    it is taken from. -/
def StatusOwn (l : List HelperEvent) : HelperEvent → Prop
  | .returned command op otaRet =>
    (latestCompletion op l).map (Prod.map id op.otaRet) = some (command, otaRet)
  | .timedOut _ op otaRet => otaRet = op.failed
  | .completed .. | .refused .. => True

instance (l : List HelperEvent) (e : HelperEvent) : Decidable (StatusOwn l e) := by
  cases e <;> unfold StatusOwn <;> infer_instance

/-- Every call that is woken returns the return code of its own command, every
    other accepted one fails. -/
def StatusesOwn (σ : MqttHelpers) : Prop := Always StatusOwn σ.events

instance (σ : MqttHelpers) : Decidable σ.StatusesOwn :=
  inferInstanceAs (Decidable (Always StatusOwn σ.events))

/-- A call is not woken while its own command is in flight. Once this command has
    completed, no other command of the operation completes before the call has
    returned. -/
def Condition (σ : MqttHelpers) : HelperAction → Prop
  | .wake => σ.phase.IfWaiting fun command _ => σ.notified = true → σ.inFlight command = none
  | .complete other _ =>
    σ.phase.IfWaiting fun command op => σ.inFlight command = none → σ.inFlight other ≠ some op
  | _ => True

instance (σ : MqttHelpers) (a : HelperAction) : Decidable (σ.Condition a) := by
  cases a <;> unfold Condition <;> infer_instance

/-! ## Invariants -/

section LatestCompletion

variable {op : MqttOperation} {l : List HelperEvent}

/-- An event that is no completion of the operation. -/
theorem latestCompletion_cons_of_ne {e : HelperEvent}
    (h : ∀ command returnCode, e ≠ .completed command op returnCode) :
    latestCompletion op (e :: l) = latestCompletion op l := by
  cases e with
  | completed command op' returnCode =>
    have hne : op' ≠ op := by
      rintro rfl
      exact h command returnCode rfl
    simp [latestCompletion, hne]
  | returned | timedOut | refused => rfl

/-- The latest completion is an event of the history. -/
theorem mem_of_latestCompletion {command : ℕ} {returnCode : MQTTStatus}
    (h : latestCompletion op l = some (command, returnCode)) :
    .completed command op returnCode ∈ l := by
  induction l with
  | nil => exact absurd h (by simp [latestCompletion])
  | cons e l ih =>
    by_cases he : ∃ command' returnCode', e = .completed command' op returnCode'
    · obtain ⟨command', returnCode', rfl⟩ := he
      simp only [latestCompletion, if_pos, Option.some.injEq, Prod.mk.injEq] at h
      simp [h.1, h.2]
    · rw [latestCompletion_cons_of_ne (by simpa using he)] at h
      exact List.mem_cons_of_mem e (ih h)

end LatestCompletion

/-- The task waits for a command that it has enqueued. Once this command has
    completed, the task is notified and the context holds the return code of the
    latest completion of the operation. -/
structure Waits (σ : MqttHelpers) (command : ℕ) (op : MqttOperation) : Prop where
  accepted : command < σ.nextCommand
  own : σ.inFlight command ≠ none → σ.inFlight command = some op
  notified : σ.inFlight command = none → σ.notified = true
  context : σ.inFlight command = none →
    ∃ latest, latestCompletion op σ.events = some (latest, σ.xReturnStatus op)

structure Invariant (σ : MqttHelpers) : Prop where
  /-- Commands have the numbers below `nextCommand`. -/
  fresh : ∀ command, σ.nextCommand ≤ command → σ.inFlight command = none
  /-- A command completes once. -/
  completedOnce : ∀ command op returnCode, .completed command op returnCode ∈ σ.events →
    command < σ.nextCommand ∧ σ.inFlight command = none
  waits : ∀ command op, σ.phase = .waiting command op → σ.Waits command op

theorem invariant_boot : boot.Invariant where
  fresh _ _ := rfl
  completedOnce _ _ _ h := absurd h (List.not_mem_nil)
  waits _ _ h := by simp [boot] at h

/-! ## The steps -/

/-- What a step does. A step without an effect meets the condition. -/
inductive Outcome (σ : MqttHelpers) : HelperAction → MqttHelpers → Prop
  | ignored (a : HelperAction) : σ.Condition a → Outcome σ a σ
  | called (op : MqttOperation) : σ.phase = .idle → Outcome σ (.call op) (σ.prepare op)
  | cleared (op : MqttOperation) : σ.phase = .prepared op →
      Outcome σ .xTaskNotifyStateClear { σ with notified := false, phase := .cleared op }
  | accepted (op : MqttOperation) : σ.phase = .cleared op →
      Outcome σ (.enqueue .success)
        { σ with
          phase := .waiting σ.nextCommand op
          inFlight := Function.update σ.inFlight σ.nextCommand (some op)
          nextCommand := σ.nextCommand + 1 }
  | refused (op : MqttOperation) (mqttStatus : MQTTStatus) : σ.phase = .cleared op →
      Outcome σ (.enqueue mqttStatus)
        { σ with phase := .idle, events := .refused op (op.otaRet mqttStatus) :: σ.events }
  | completed (command : ℕ) (op : MqttOperation) (returnCode : MQTTStatus) :
      σ.inFlight command = some op →
      Outcome σ (.complete command returnCode) (σ.completed command op returnCode)
  | woken (command : ℕ) (op : MqttOperation) : σ.phase = .waiting command op →
      σ.notified = true →
      Outcome σ .wake
        { σ with
          notified := false
          phase := .idle
          events := .returned command op (op.otaRet (σ.xReturnStatus op)) :: σ.events }
  | timedOut (command : ℕ) (op : MqttOperation) : σ.phase = .waiting command op →
      σ.notified = false →
      Outcome σ .timeOut
        { σ with
          phase := .idle
          events := .timedOut command op (op.otaRet op.timeOutStatus) :: σ.events }

theorem step_outcome (σ : MqttHelpers) (a : HelperAction) : σ.Outcome a (σ.step a) := by
  cases a with
  | call op =>
    cases hphase : σ.phase with
    | idle =>
      simp only [step, hphase]
      exact .called op hphase
    | prepared | cleared | waiting =>
      simp only [step, hphase]
      exact .ignored _ trivial
  | xTaskNotifyStateClear =>
    cases hphase : σ.phase with
    | prepared op =>
      simp only [step, hphase]
      exact .cleared op hphase
    | idle | cleared | waiting =>
      simp only [step, hphase]
      exact .ignored _ trivial
  | enqueue mqttStatus =>
    cases hphase : σ.phase with
    | cleared op =>
      simp only [step, hphase]
      split_ifs with hstatus
      · subst hstatus
        exact .accepted op hphase
      · exact .refused op mqttStatus hphase
    | idle | prepared | waiting =>
      simp only [step, hphase]
      exact .ignored _ trivial
  | complete command returnCode =>
    cases hflight : σ.inFlight command with
    | some op =>
      simp only [step, hflight]
      exact .completed command op returnCode hflight
    | none =>
      simp only [step, hflight]
      refine .ignored _ ?_
      cases hphase : σ.phase with
      | waiting own op => simp [Condition, HelperPhase.IfWaiting, hphase, hflight]
      | idle | prepared | cleared => simp [Condition, HelperPhase.IfWaiting, hphase]
  | wake =>
    cases hphase : σ.phase with
    | waiting command op =>
      simp only [step, hphase]
      split_ifs with hnotified
      · exact .woken command op hphase hnotified
      · exact .ignored _ (by simp [Condition, HelperPhase.IfWaiting, hphase, hnotified])
    | idle | prepared | cleared =>
      simp only [step, hphase]
      exact .ignored _ (by simp [Condition, HelperPhase.IfWaiting, hphase])
  | timeOut =>
    cases hphase : σ.phase with
    | waiting command op =>
      simp only [step, hphase]
      split_ifs with hnotified
      · exact .ignored _ trivial
      · exact .timedOut command op hphase (by simpa using hnotified)
    | idle | prepared | cleared =>
      simp only [step, hphase]
      exact .ignored _ trivial

@[simp] theorem prepare_phase (σ : MqttHelpers) (op : MqttOperation) :
    (σ.prepare op).phase = .prepared op := by cases op <;> rfl

@[simp] theorem prepare_events (σ : MqttHelpers) (op : MqttOperation) :
    (σ.prepare op).events = σ.events := by cases op <;> rfl

@[simp] theorem prepare_inFlight (σ : MqttHelpers) (op : MqttOperation) :
    (σ.prepare op).inFlight = σ.inFlight := by cases op <;> rfl

@[simp] theorem prepare_nextCommand (σ : MqttHelpers) (op : MqttOperation) :
    (σ.prepare op).nextCommand = σ.nextCommand := by cases op <;> rfl

/-- Events that are no completions keep the account of the completions. -/
theorem Invariant.of_events {σ σ' : MqttHelpers} (h : σ.Invariant)
    (hevents : ∀ command op returnCode, .completed command op returnCode ∈ σ'.events →
      .completed command op returnCode ∈ σ.events)
    (hflight : σ'.inFlight = σ.inFlight) (hnext : σ'.nextCommand = σ.nextCommand)
    (hphase : ∀ command op, σ'.phase ≠ .waiting command op) : σ'.Invariant where
  fresh command hcommand := by
    rw [hflight]
    exact h.fresh command (hnext ▸ hcommand)
  completedOnce command op returnCode hmem := by
    rw [hflight, hnext]
    exact h.completedOnce command op returnCode (hevents command op returnCode hmem)
  waits command op hwaiting := absurd hwaiting (hphase command op)

/-- The completion of a command keeps what the waiting call relies on. -/
theorem Waits.completed {σ : MqttHelpers} {own : ℕ} {ownOp : MqttOperation}
    (h : σ.Waits own ownOp) (command : ℕ) (op : MqttOperation) (returnCode : MQTTStatus)
    (hflight : σ.inFlight command = some op) :
    (σ.completed command op returnCode).Waits own ownOp where
  accepted := h.accepted
  own hown := by
    show Function.update σ.inFlight command none own = some ownOp
    have hne : own ≠ command := by
      rintro rfl
      exact hown (Function.update_self ..)
    have hother : (σ.completed command op returnCode).inFlight own = σ.inFlight own :=
      Function.update_of_ne hne ..
    rw [hother] at hown
    rw [Function.update_of_ne hne]
    exact h.own hown
  notified _ := rfl
  context hown := by
    show ∃ latest, latestCompletion ownOp (.completed command op returnCode :: σ.events) =
      some (latest, Function.update σ.xReturnStatus op returnCode ownOp)
    by_cases hop : op = ownOp
    · subst hop
      exact ⟨command, by simp [latestCompletion]⟩
    · have hne : own ≠ command := by
        rintro rfl
        have hsome := h.own (by simp [hflight])
        rw [hflight] at hsome
        exact hop (Option.some.inj hsome)
      have hdone : σ.inFlight own = none := by
        rw [← hown]
        exact (Function.update_of_ne hne ..).symm
      rw [Function.update_of_ne (Ne.symm hop),
        latestCompletion_cons_of_ne (fun _ _ heq => hop (HelperEvent.completed.inj heq).2.1)]
      exact h.context hdone

theorem Invariant.step {σ : MqttHelpers} (h : σ.Invariant) (a : HelperAction) :
    (σ.step a).Invariant := by
  have houtcome := σ.step_outcome a
  generalize σ.step a = σ' at houtcome ⊢
  cases houtcome with
  | ignored => exact h
  | called op hphase => exact h.of_events (by simp) (by simp) (by simp) (by simp)
  | cleared | refused | woken | timedOut => exact h.of_events (by simp) rfl rfl (by simp)
  | accepted op hphase =>
    refine ⟨?_, ?_, ?_⟩
    · intro command hcommand
      have hlt : σ.nextCommand < command := hcommand
      show Function.update σ.inFlight σ.nextCommand (some op) command = none
      rw [Function.update_of_ne (by omega)]
      exact h.fresh command hlt.le
    · intro command op' returnCode hmem
      obtain ⟨hlt, hdone⟩ := h.completedOnce command op' returnCode hmem
      refine ⟨Nat.lt_succ_of_lt hlt, ?_⟩
      show Function.update σ.inFlight σ.nextCommand (some op) command = none
      rw [Function.update_of_ne (by omega)]
      exact hdone
    · intro command op' hwaiting
      obtain ⟨rfl, rfl⟩ := HelperPhase.waiting.inj hwaiting
      have hown : Function.update σ.inFlight σ.nextCommand (some op) σ.nextCommand = some op :=
        Function.update_self ..
      refine ⟨Nat.lt_succ_self _, fun _ => hown, fun hdone => ?_, fun hdone => ?_⟩
      · exact absurd (hown.symm.trans hdone) (by simp)
      · exact absurd (hown.symm.trans hdone) (by simp)
  | completed command op returnCode hflight =>
    refine ⟨?_, ?_, ?_⟩
    · intro other hother
      show Function.update σ.inFlight command none other = none
      by_cases hne : other = command
      · rw [hne, Function.update_self]
      · rw [Function.update_of_ne hne]
        exact h.fresh other hother
    · intro other op' returnCode' hmem
      show other < σ.nextCommand ∧ Function.update σ.inFlight command none other = none
      by_cases hne : other = command
      · subst hne
        refine ⟨?_, Function.update_self ..⟩
        by_contra hge
        have hnone := h.fresh other (Nat.le_of_not_lt hge)
        rw [hflight] at hnone
        exact absurd hnone (by simp)
      · rw [Function.update_of_ne hne]
        rcases List.mem_cons.mp hmem with heq | hmem
        · exact absurd (HelperEvent.completed.inj heq).1 hne
        · exact h.completedOnce other op' returnCode' hmem
    · intro own ownOp hwaiting
      exact (h.waits own ownOp hwaiting).completed command op returnCode hflight

/-! ## Whose status a call returns -/

/-- A waiting call whose own command has completed finds the return code of this
    command in the context. -/
def OwnContext (σ : MqttHelpers) : Prop :=
  ∀ command op, σ.phase = .waiting command op → σ.inFlight command = none →
    latestCompletion op σ.events = some (command, σ.xReturnStatus op)

/-- Every call so far has returned its own status, and the waiting one will. -/
def OwnSoFar (σ : MqttHelpers) : Prop := σ.StatusesOwn ∧ σ.OwnContext

theorem ownContext_of_notWaiting {σ : MqttHelpers}
    (h : ∀ command op, σ.phase ≠ .waiting command op) : σ.OwnContext :=
  fun command op hwaiting => absurd hwaiting (h command op)

theorem ownSoFar_iff_of_notWaiting {σ : MqttHelpers}
    (h : ∀ command op, σ.phase ≠ .waiting command op) : σ.OwnSoFar ↔ σ.StatusesOwn :=
  and_iff_left (ownContext_of_notWaiting h)

theorem ownContext_iff_of_waiting {σ : MqttHelpers} {command : ℕ} {op : MqttOperation}
    (hphase : σ.phase = .waiting command op) :
    σ.OwnContext ↔ (σ.inFlight command = none →
      latestCompletion op σ.events = some (command, σ.xReturnStatus op)) := by
  constructor
  · exact fun h => h command op hphase
  · intro h command' op' hwaiting
    obtain ⟨rfl, rfl⟩ := HelperPhase.waiting.inj (hphase.symm.trans hwaiting)
    exact h

/-- A call that finds its own return code does not find its command in flight. -/
theorem Invariant.own_done {σ : MqttHelpers} (h : σ.Invariant) {command : ℕ}
    {op : MqttOperation} {otaRet : OtaMqttStatus}
    (hown : StatusOwn σ.events (.returned command op otaRet)) :
    σ.inFlight command = none ∧
      ∃ returnCode, latestCompletion op σ.events = some (command, returnCode) := by
  obtain ⟨⟨latest, returnCode⟩, hlatest, heq⟩ := Option.map_eq_some_iff.mp hown
  obtain rfl : latest = command := (Prod.mk.inj heq).1
  exact ⟨(h.completedOnce _ _ _ (mem_of_latestCompletion hlatest)).2, returnCode, hlatest⟩

/-- The status of a woken call is its own iff its command has completed, and the
    context holds the return code of this command. -/
theorem Invariant.statusOwn_iff {σ : MqttHelpers} (h : σ.Invariant) {command : ℕ}
    {op : MqttOperation} (hphase : σ.phase = .waiting command op) :
    StatusOwn σ.events (.returned command op (op.otaRet (σ.xReturnStatus op))) ↔
      σ.inFlight command = none ∧
        latestCompletion op σ.events = some (command, σ.xReturnStatus op) := by
  constructor
  · intro hown
    obtain ⟨hdone, returnCode, hlatest⟩ := h.own_done hown
    obtain ⟨latest, hcontext⟩ := (h.waits command op hphase).context hdone
    rw [hlatest] at hcontext
    obtain ⟨rfl, hcode⟩ := Prod.mk.inj (Option.some.inj hcontext)
    exact ⟨hdone, by rw [hlatest, hcode]⟩
  · rintro ⟨-, hlatest⟩
    simp [StatusOwn, hlatest]

/-- The completion of a command leaves the context to the waiting call, unless
    this call's own command has completed and the other one is of its operation. -/
theorem completed_ownContext_iff {σ : MqttHelpers} (h : σ.Invariant) {command : ℕ}
    {op : MqttOperation} (returnCode : MQTTStatus) (hflight : σ.inFlight command = some op) :
    (σ.completed command op returnCode).OwnContext ↔
      σ.OwnContext ∧ σ.Condition (.complete command returnCode) := by
  cases hphase : σ.phase with
  | idle | prepared | cleared =>
    have hnot : ∀ command op, σ.phase ≠ .waiting command op := by simp [hphase]
    have hcondition : σ.Condition (.complete command returnCode) := by
      simp [Condition, HelperPhase.IfWaiting, hphase]
    exact iff_of_true (ownContext_of_notWaiting hnot)
      ⟨ownContext_of_notWaiting hnot, hcondition⟩
  | waiting own ownOp =>
    have hwaits := h.waits own ownOp hphase
    have hafter : (σ.completed command op returnCode).phase = .waiting own ownOp := hphase
    rw [ownContext_iff_of_waiting hphase, ownContext_iff_of_waiting hafter]
    have hcondition : σ.Condition (.complete command returnCode) ↔
        (σ.inFlight own = none → σ.inFlight command ≠ some ownOp) := by
      simp [Condition, HelperPhase.IfWaiting, hphase]
    rw [hcondition, hflight]
    show (Function.update σ.inFlight command none own = none →
      latestCompletion ownOp (.completed command op returnCode :: σ.events) =
        some (own, Function.update σ.xReturnStatus op returnCode ownOp)) ↔ _
    by_cases hne : own = command
    · -- the command of the call itself
      subst hne
      obtain rfl : op = ownOp := by
        have hown := hwaits.own (by simp [hflight])
        rw [hflight] at hown
        exact Option.some.inj hown
      simp [hflight, latestCompletion]
    · rw [Function.update_of_ne hne]
      by_cases hop : op = ownOp
      · -- a command of the operation of the call
        subst hop
        simp only [latestCompletion, if_pos, Function.update_self, Option.some.injEq,
          Prod.mk.injEq, and_true]
        constructor
        · intro hctx
          have hin : σ.inFlight own ≠ none := fun hdone => hne (hctx hdone).symm
          exact ⟨fun hdone => absurd hdone hin, fun hdone => absurd hdone hin⟩
        · rintro ⟨-, hin⟩ hdone
          exact absurd rfl (hin hdone)
      · rw [Function.update_of_ne (Ne.symm hop),
          latestCompletion_cons_of_ne (fun _ _ heq => hop (HelperEvent.completed.inj heq).2.1)]
        simp [hop]

/-- A step attributes every completion to the call it belongs to iff it meets the
    condition. -/
theorem step_ownSoFar_iff {σ : MqttHelpers} (h : σ.Invariant) (a : HelperAction) :
    (σ.step a).OwnSoFar ↔ σ.OwnSoFar ∧ σ.Condition a := by
  have houtcome := σ.step_outcome a
  generalize σ.step a = σ' at houtcome ⊢
  cases houtcome with
  | ignored a hcondition => simp [hcondition]
  | called op hphase =>
    rw [ownSoFar_iff_of_notWaiting (by simp), ownSoFar_iff_of_notWaiting (by simp [hphase])]
    simp [StatusesOwn, Condition]
  | cleared op hphase =>
    rw [ownSoFar_iff_of_notWaiting (by simp), ownSoFar_iff_of_notWaiting (by simp [hphase])]
    simp [StatusesOwn, Condition]
  | accepted op hphase =>
    have hcleared : σ.OwnSoFar ↔ σ.StatusesOwn := ownSoFar_iff_of_notWaiting (by simp [hphase])
    rw [hcleared]
    unfold OwnSoFar
    rw [ownContext_iff_of_waiting rfl]
    simp [StatusesOwn, Condition]
  | refused op mqttStatus hphase =>
    rw [ownSoFar_iff_of_notWaiting (by simp), ownSoFar_iff_of_notWaiting (by simp [hphase])]
    simp [StatusesOwn, StatusOwn, Condition]
  | completed command op returnCode hflight =>
    have hctx := completed_ownContext_iff h returnCode hflight
    have hown : (σ.completed command op returnCode).StatusesOwn ↔ σ.StatusesOwn := by
      simp [StatusesOwn, MqttHelpers.completed, StatusOwn]
    unfold OwnSoFar
    rw [hctx, hown, and_assoc]
  | woken command op hphase hnotified =>
    rw [ownSoFar_iff_of_notWaiting (by simp)]
    unfold OwnSoFar StatusesOwn
    rw [ownContext_iff_of_waiting hphase, always_cons, h.statusOwn_iff hphase]
    have hcondition : σ.Condition .wake ↔ σ.inFlight command = none := by
      simp [Condition, HelperPhase.IfWaiting, hphase, hnotified]
    rw [hcondition]
    tauto
  | timedOut command op hphase hnotified =>
    have hin : σ.inFlight command ≠ none := by
      intro hdone
      have hpending := (h.waits command op hphase).notified hdone
      rw [hnotified] at hpending
      exact Bool.false_ne_true hpending
    rw [ownSoFar_iff_of_notWaiting (by simp)]
    unfold OwnSoFar
    rw [ownContext_iff_of_waiting hphase]
    simp [StatusesOwn, StatusOwn, Condition, hin, op.otaRet_timeOutStatus]

/-- Every completion of a run is attributed to its call iff every step meets the
    condition. -/
theorem run_ownSoFar_iff (as : List HelperAction) :
    (run step boot as).OwnSoFar ↔ Along step Condition boot as := by
  have hiff := run_iff_along_of_inv (I := Invariant) (J := OwnSoFar)
    (fun _ a h => h.step a) (fun _ a h => step_ownSoFar_iff h a) invariant_boot as
  have hboot : boot.OwnSoFar :=
    (ownSoFar_iff_of_notWaiting (by simp [boot])).mpr always_nil
  rw [hiff]
  exact and_iff_right hboot

theorem run_invariant (as : List HelperAction) : (run step boot as).Invariant :=
  run_inv (I := Invariant) (fun _ a h => h.step a) invariant_boot as

/-- After the task has had its turn, no call that has its status waits. -/
theorem Invariant.wake_ownContext {σ : MqttHelpers} (h : σ.Invariant) :
    (σ.step .wake).OwnContext := by
  cases hphase : σ.phase with
  | idle | prepared | cleared =>
    apply ownContext_of_notWaiting
    simp [MqttHelpers.step, hphase]
  | waiting command op =>
    by_cases hnotified : σ.notified = true
    · apply ownContext_of_notWaiting
      simp [MqttHelpers.step, hphase, hnotified]
    · have hsame : σ.step .wake = σ := by simp [MqttHelpers.step, hphase, hnotified]
      rw [hsame, ownContext_iff_of_waiting hphase]
      intro hdone
      exact absurd ((h.waits command op hphase).notified hdone) hnotified

/-- In every run whose steps meet the condition, a call that is woken returns the
    return code of the command it has enqueued. Conversely, a run that ends with
    a turn of the task has this property only if its steps meet the condition. -/
theorem statusesOwn_iff (as : List HelperAction) :
    (Along step Condition boot as → (run step boot as).StatusesOwn) ∧
      ((run step boot (as ++ [.wake])).StatusesOwn ↔
        Along step Condition boot (as ++ [.wake])) := by
  constructor
  · intro h
    exact ((run_ownSoFar_iff as).mpr h).1
  · rw [← run_ownSoFar_iff, run_append]
    have hctx : (run step (run step boot as) [.wake]).OwnContext :=
      (run_invariant as).wake_ownContext
    exact (and_iff_left hctx).symm

/-! ## A late completion -/

/-- A PUBLISH that succeeds, and one that times out and completes while the task
    is idle. -/
def ownCompletions : List HelperAction :=
  [.call .publish, .xTaskNotifyStateClear, .enqueue .success, .complete 0 .success, .wake,
    .call .publish, .xTaskNotifyStateClear, .enqueue .success, .timeOut, .complete 1 .sendFailed,
    .call .publish, .xTaskNotifyStateClear, .enqueue .success, .complete 2 .sendFailed, .wake]

theorem statusesOwn_ownCompletions :
    (run step boot ownCompletions).StatusesOwn ∧
      .returned 2 .publish .publishFailed ∈ (run step boot ownCompletions).events := by
  refine ⟨(statusesOwn_iff ownCompletions).1 ?_, by decide⟩
  decide

/-- A SUBSCRIBE times out. Its completion comes when the next PUBLISH waits. -/
def lateSubscribe : List HelperAction :=
  [.call .subscribe, .xTaskNotifyStateClear, .enqueue .success, .timeOut,
    .call .publish, .xTaskNotifyStateClear, .enqueue .success,
    .complete 0 .recvFailed, .wake, .complete 1 .sendFailed]

/-- The PUBLISH fails and returns success. -/
theorem not_statusesOwn_lateSubscribe :
    ¬ (run step boot lateSubscribe).StatusesOwn ∧
      (run step boot lateSubscribe).events =
        [.completed 1 .publish .sendFailed, .returned 1 .publish .success,
          .completed 0 .subscribe .recvFailed, .timedOut 0 .subscribe .subscribeFailed] := by
  decide

end MqttHelpers

end Corstone.Ota
