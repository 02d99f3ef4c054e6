import Corstone.Lib.VersionHistory
import Corstone.Ota.SuccessReport

/-!
# Versions of the jobs

The job service counts the accepted updates of a job execution and rejects an
update that expects another version. The agent does not read the version out of
the job document: it expects version 2 for the status details and version 3 for
the final status.

* `jobVersions_iff`: no status update of a device, across its reboots, is
  rejected iff each one arrives when its turn is.
* `not_jobVersions_lost`: the status details are lost.
-/

namespace Corstone.Ota

open Corstone.Lib

/-! ## The device and the job service -/

/-- A device, and what has reached the job service. -/
structure JobsSystem where
  system : OtaSystem
  history : List (VersionEvent Bytes)

inductive JobsAction
  /-- A step of the device. -/
  | agent (a : Action)
  /-- The service answers a start-next request with a job and its version. -/
  | startNext (jobId : Bytes) (version : ℕ)
  | reboot

/-- What the call sends to the job service. -/
def Call.arrival : Call → Option (VersionEvent Bytes)
  | .jobsUpdate jobId _ expectedVersion _ .transmitted => some (.update jobId expectedVersion)
  | _ => none

/-- What the calls from `log` to `log'` have sent to the job service. -/
def arrivals (log log' : List Call) : List (VersionEvent Bytes) :=
  (log'.take (log'.length - log.length)).filterMap Call.arrival

namespace JobsSystem

def boot (L : Libraries) : JobsSystem := ⟨.boot L, []⟩

/-- One step of the device, of the service, or a reboot. -/
def step (L : Libraries) (t : JobsSystem) : JobsAction → JobsSystem
  | .agent a =>
    { system := Ota.step L t.system a
      history := arrivals t.system.agent.log (Ota.step L t.system a).agent.log ++ t.history }
  | .startNext jobId version => { t with history := .handedOut jobId version :: t.history }
  | .reboot => { t with system := .boot L }

/-- An update that is sent arrives in its turn: the version with which its job
    was handed out and the number of updates of the job since then are 2 for the
    status details and 3 for the final status. -/
def Condition (L : Libraries) (t : JobsSystem) : JobsAction → Prop
  | .agent (.processEvent r) =>
    r.mqtt = .transmitted →
      (t.system.task = .processing .activateImage →
        InTurn t.history (cstr t.system.agent.globalJobId) 2) ∧
      (SelfTests L r t.system →
        InTurn t.history (cstr (newJobParsed L t.system.agent).1.globalJobId) 3)
  | _ => True

end JobsSystem

/-! ## Status updates of a step -/

section Steps

variable {L : Libraries} {r : Results} {σ : OtaSystem} {log : List Call}

theorem arrivals_append (calls log : List Call) :
    arrivals log (calls ++ log) = calls.filterMap Call.arrival := by
  have hlength : (calls ++ log).length - log.length = calls.length := by simp
  rw [arrivals, hlength, List.take_left]

theorem arrivals_of_extends {log' : List Call}
    (h : Extends (fun c => c.arrival.isNone) log log') : arrivals log log' = [] := by
  obtain ⟨calls, hcalls, rfl⟩ := h
  rw [arrivals_append, List.filterMap_eq_nil_iff]
  exact fun c hc => Option.isNone_iff_eq_none.mp (hcalls c hc)

/-- An activation sends the status details. -/
theorem arrivals_activateImage (htask : σ.task = .processing .activateImage) :
    arrivals σ.agent.log (step L σ (.processEvent r)).agent.log =
      if r.mqtt = .transmitted then [.update (cstr σ.agent.globalJobId) 2] else [] := by
  have hagent : (step L σ (.processEvent r)).agent =
      (otaPalActivateNewImage L r (sendStatusDetailsMessage r σ.agent)).1 := by
    rw [step_processEvent htask]
    rfl
  have hlog : ∃ calls, calls.filterMap Call.arrival = [] ∧
      (step L σ (.processEvent r)).agent.log =
        calls ++ (sendStatusDetailsMessage r σ.agent).log := by
    rw [hagent]
    rcases otaPalActivateNewImage_cases L r (sendStatusDetailsMessage r σ.agent) with heq | heq
    · rw [heq]
      exact ⟨[], rfl, rfl⟩
    · rw [heq]
      exact ⟨[.psaFwuInstall r.psaFwuInstall], rfl, rfl⟩
  obtain ⟨calls, hnone, hlog⟩ := hlog
  rw [hlog, sendStatusDetailsMessage_log, List.append_cons, arrivals_append, List.filterMap_append,
    hnone, List.nil_append]
  cases hmqtt : r.mqtt with
  | transmitted => rfl
  | lost => rfl
  | refused => rfl

/-- A self test sends the final status. -/
theorem arrivals_selfTest (h : SelfTests L r σ) :
    arrivals σ.agent.log (step L σ (.processEvent r)).agent.log =
      if r.mqtt = .transmitted then
        [.update (cstr (newJobParsed L σ.agent).1.globalJobId) 3]
      else [] := by
  obtain ⟨eState, status, result, updatedBy, accepted, -, -, hlog⟩ := step_selfTest_log h
  rw [hlog, arrivals_append, newJobParsed_globalJobId]
  have hhook : (jobDocumentHook result).arrival = none := by cases result <;> rfl
  rw [List.filterMap_cons_none hhook]
  cases hmqtt : r.mqtt with
  | transmitted => rfl
  | lost => rfl
  | refused => rfl

/-- The call is no status update of an activation. -/
def Call.notStatusDetails : Call → Bool
  | .jobsUpdate _ status _ _ _ => status != .inProgress
  | _ => true

theorem notStatusDetails_of_madeBy {event : OtaEventMsg} (hevent : event ≠ .activateImage)
    {c : Call} (hc : Call.madeBy event c = true) : c.notStatusDetails = true := by
  unfold Call.madeBy at hc
  split at hc
  · rfl
  · -- the handler publishes final statuses only
    cases c with
    | jobsUpdate =>
      simpa [Call.madeByHandler, Call.reactsToHandler, Call.notStatusDetails] using hc
    | _ => rfl
  · rfl
  · rfl
  · rfl
  · exact absurd rfl hevent
  · exact absurd rfl hevent
  · rfl
  · exact absurd hc Bool.false_ne_true

/-- A step that activates no image sends no status details. -/
theorem step_notStatusDetails {a : Action}
    (h : ∀ r, a = .processEvent r → σ.task ≠ .processing .activateImage) :
    Extends Call.notStatusDetails σ.agent.log (step L σ a).agent.log := by
  apply step_extends (fun _ _ => rfl)
  rintro r event rfl hevent
  have hne : event ≠ .activateImage := by
    rintro rfl
    exact h r rfl hevent
  exact (processOTAEvents_calls L r σ.agent event).mono fun _ => notStatusDetails_of_madeBy hne

/-- No other step sends a status update. -/
theorem arrivals_eq_nil {a : Action} (hself : NoSelfTest L σ a)
    (hactivate : ∀ r, a = .processEvent r → σ.task ≠ .processing .activateImage) :
    arrivals σ.agent.log (step L σ a).agent.log = [] := by
  apply arrivals_of_extends
  refine ((step_noVerdict hself).and (step_notStatusDetails hactivate)).mono fun c hc => ?_
  cases c with
  | jobsUpdate _ status =>
    cases status with
    | inProgress => simp [Call.notStatusDetails] at hc
    | _ => simp [Call.partOfVerdict, Call.givesNoVerdict] at hc
  | _ => rfl

end Steps

namespace JobsSystem

variable {L : Libraries} {t : JobsSystem}

/-- A history with one more update. -/
theorem always_accepted_cons_iff (key : Bytes) (expected : ℕ) :
    Always Accepted (.update key expected :: t.history) ↔
      Always Accepted t.history ∧ InTurn t.history key expected := by
  rw [always_cons, and_comm]
  exact and_congr_right fun h => accepted_iff_inTurn h key expected

/-- **What one step sends to the service.** -/
theorem always_accepted_step_iff (a : JobsAction) :
    Always Accepted (step L t a).history ↔ Always Accepted t.history ∧ Condition L t a := by
  cases a with
  | startNext jobId version => exact and_comm
  | reboot => exact (and_iff_left trivial).symm
  | agent a =>
    change Always Accepted (arrivals _ _ ++ t.history) ↔ _
    rcases selfTests_or_noSelfTest L t.system a with ⟨r, rfl, hself⟩ | hself
    · have hnot : t.system.task ≠ .processing .activateImage := by simp [hself.1.1]
      unfold Condition
      rw [arrivals_selfTest hself]
      split_ifs with hsent
      · rw [List.singleton_append, always_accepted_cons_iff]
        simp [hsent, hself, hnot]
      · simp [hsent]
    · by_cases hactivate : ∃ r, a = .processEvent r ∧ t.system.task = .processing .activateImage
      · obtain ⟨r, rfl, htask⟩ := hactivate
        have hnot : ¬ SelfTests L r t.system := hself
        unfold Condition
        rw [arrivals_activateImage htask]
        split_ifs with hsent
        · rw [List.singleton_append, always_accepted_cons_iff]
          simp [hsent, htask, hnot]
        · simp [hsent]
      · have hno : ∀ r, a = .processEvent r → t.system.task ≠ .processing .activateImage :=
          fun r ha htask => hactivate ⟨r, ha, htask⟩
        rw [arrivals_eq_nil hself hno, List.nil_append]
        refine (and_iff_left ?_).symm
        cases a with
        | processEvent r =>
          exact fun _ => ⟨fun htask => absurd htask (hno r rfl), fun h => absurd h hself⟩
        | _ => trivial

/-- **Job versions.** Every status update that arrives expects the version that
    the service holds for its job iff along the run every update arrives in its
    turn. -/
theorem jobVersions_iff (L : Libraries) (as : List JobsAction) :
    Always Accepted (run (step L) (boot L) as).history ↔
      Along (step L) (Condition L) (boot L) as := by
  have hstep : ∀ t a, Always Accepted (step L t a).history ↔
      Always Accepted t.history ∧ Condition L t a := fun _ a => always_accepted_step_iff a
  have hrun := run_iff_along (J := fun t : JobsSystem => Always Accepted t.history) hstep
    (boot L) as
  exact hrun.trans (and_iff_right trivial)

/-- The new image of job `A` is installed; the status details are published with
    the outcome. -/
def installed (outcome : MqttOutcome) : List Action :=
  lastBlockWritten ++ [.processEvent {}, .sendEvent, .receiveEvent,
    .processEvent { mqtt := outcome, psaFwuInstall := psaSuccessReboot }]

/-- Job `A` is handed out with version 2 and installed; after the reboot its
    final status is published. -/
def updateWith (outcome : MqttOutcome) : List JobsAction :=
  .startNext (ascii "A") 2 :: (installed outcome).map .agent ++
    .reboot :: (jobAfterBoot (statusDetails (ascii "7"))).map .agent ++
    [.agent (.processEvent (runs ⟨0, 0, 8⟩))]

set_option maxRecDepth 20000 in
/-- The status details are lost: the service holds version 2 when the final
    status expects version 3. -/
theorem not_jobVersions_lost :
    ¬ Always Accepted (run (step jsonDevice) (boot jsonDevice) (updateWith .lost)).history := by
  decide

set_option maxRecDepth 20000 in
/-- When they arrive, both updates are accepted. -/
example :
    Always Accepted
      (run (step jsonDevice) (boot jsonDevice) (updateWith .transmitted)).history := by
  decide

end JobsSystem

end Corstone.Ota
