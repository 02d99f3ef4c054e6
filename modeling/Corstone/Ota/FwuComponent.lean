import Corstone.Ota.EventCalls
import Corstone.Ota.JobHistory

/-!
# The firmware component

The PSA firmware update service keeps a state for the component that is being
updated. `FwuService` is what the agent relies on: `psa_fwu_start` leads to
WRITING, and WRITING, CANDIDATE and FAILED are left only through
`psa_fwu_cancel` and `psa_fwu_clean`, or by an install. The state of the
component is then a function of the history.

* `FwuService.component_unfinished`: if no call cleans after a file has been
  created, an update that has been started stays unfinished until its install.
* `cleansBeforeFiles_run`: no call cleans after a file has been created, in any
  run.
-/

namespace Corstone.Ota

open Corstone.Lib

/-! ## The service -/

/-- The states of a component. -/
inductive FwuState
  | ready | writing | candidate | staged | failed | trial | rejected | updated
  deriving DecidableEq, Repr

/-- The states that only `psa_fwu_cancel` and `psa_fwu_clean` lead out of. -/
def FwuState.unfinished : FwuState → Bool
  | .writing | .candidate | .failed => true
  | _ => false

/-- The call gets through `psa_fwu_clean`. -/
def Call.cleans : Call → Bool
  | .otaPalSetPlatformImageState .accepted true => true
  | .otaPalSetPlatformImageState .aborted true => true
  | _ => false

/-- `psa_fwu_install` succeeds. -/
def Call.installed : Call → Bool
  | .psaFwuInstall status => status == psaSuccess || status == psaSuccessReboot
  | _ => false

/-- A firmware update service: the state of the component at boot, what a call
    does to it, and what the service promises. -/
structure FwuService where
  boot : FwuState
  next : FwuState → Call → FwuState
  start : ∀ state, next state (.otaPalCreateFileForRx .fileCreated) = .writing
  stays : ∀ state c, state.unfinished = true → c.cleans = false → c.installed = false →
    (next state c).unfinished = true

namespace FwuService

variable (F : FwuService)

/-- The state of the component after the calls of a history. -/
def component : List Call → FwuState
  | [] => F.boot
  | c :: log => F.next (component log) c

end FwuService

/-- What a call does to a component that behaves as the service documents it. -/
def psaFwuNext (state : FwuState) (c : Call) : FwuState :=
  match state, c with
  | _, .otaPalCreateFileForRx .fileCreated => .writing
  | .writing, .otaPalCloseFile finish _ => if finish = psaSuccess then .candidate else .writing
  | .candidate, .psaFwuInstall status =>
    if status = psaSuccess then .trial
    else if status = psaSuccessReboot then .staged
    else .candidate
  | .trial, .otaPalSetPlatformImageState .accepted true => .ready
  | .trial, .otaPalSetPlatformImageState .rejected true => .rejected
  | .staged, .otaPalSetPlatformImageState .rejected true => .failed
  | .writing, .otaPalSetPlatformImageState .aborted true => .ready
  | .candidate, .otaPalSetPlatformImageState .aborted true => .ready
  | .failed, .otaPalSetPlatformImageState .aborted true => .ready
  | state, _ => state

/-- A service for a component that is READY at boot. -/
def psaFwu : FwuService where
  boot := .ready
  next := psaFwuNext
  start _ := rfl
  stays state c hstate hcleans hinstalled := by
    unfold psaFwuNext
    split
    · rfl
    · split_ifs <;> rfl
    · simp only [Call.installed, Bool.or_eq_false_iff, beq_eq_false_iff_ne] at hinstalled
      rw [if_neg hinstalled.1, if_neg hinstalled.2]
      rfl
    · simp [FwuState.unfinished] at hstate
    · simp [FwuState.unfinished] at hstate
    · rfl
    · simp [Call.cleans] at hcleans
    · simp [Call.cleans] at hcleans
    · simp [Call.cleans] at hcleans
    · exact hstate

/-! ## Unfinished updates -/

/-- A file has been created, and no install has succeeded since. -/
def unfinishedUpdate : List Call → Bool
  | [] => false
  | c :: log => c.createsFile || (!c.installed && unfinishedUpdate log)

/-- A call that cleans comes before all files. -/
def CleansBeforeFiles (log : List Call) (c : Call) : Prop :=
  c.cleans = true → ∀ d ∈ log, d.createsFile = false

theorem exists_createsFile {log : List Call} (h : unfinishedUpdate log = true) :
    ∃ c ∈ log, c.createsFile = true := by
  induction log with
  | nil => simp [unfinishedUpdate] at h
  | cons c log ih =>
    cases hc : c.createsFile with
    | true => exact ⟨c, by simp, hc⟩
    | false =>
      simp only [unfinishedUpdate, hc, Bool.false_or, Bool.and_eq_true] at h
      obtain ⟨d, hd, hfile⟩ := ih h.2
      exact ⟨d, List.mem_cons_of_mem c hd, hfile⟩

/-- **Unfinished updates.** Without a call that cleans, a component stays in the
    states that `psa_fwu_start` does not succeed from. -/
theorem FwuService.component_unfinished (F : FwuService) {log : List Call}
    (halways : Always CleansBeforeFiles log) (h : unfinishedUpdate log = true) :
    (F.component log).unfinished = true := by
  induction log with
  | nil => simp [unfinishedUpdate] at h
  | cons c log ih =>
    obtain ⟨hc, hlog⟩ := halways
    cases hfile : c.createsFile with
    | true =>
      obtain rfl : c = .otaPalCreateFileForRx .fileCreated := by
        unfold Call.createsFile at hfile
        split at hfile
        · rfl
        · exact absurd hfile Bool.false_ne_true
      rw [FwuService.component, F.start]
      rfl
    | false =>
      simp only [unfinishedUpdate, hfile, Bool.false_or, Bool.and_eq_true,
        Bool.not_eq_true'] at h
      obtain ⟨hinstalled, hbefore⟩ := h
      refine F.stays _ c (ih hlog hbefore) ?_ hinstalled
      obtain ⟨d, hd, hcreated⟩ := exists_createsFile hbefore
      by_contra hcleans
      simp [hc (by simpa using hcleans) d hd] at hcreated

/-! ## The agent does not clean up -/

/-- The call neither creates a file nor cleans. -/
def Call.fwuNeutral (c : Call) : Bool := !(c.createsFile || c.cleans)

theorem fwuNeutral_of_madeBy {event : OtaEventMsg} (hevent : event ≠ .receivedJobDocument)
    {c : Call} (hc : Call.madeBy event c = true) : c.fwuNeutral = true := by
  have helsewhere := madeElsewhere_of_madeBy hevent hc
  cases c with
  | otaPalCreateFileForRx => simp [Call.madeElsewhere, Call.madeByHandler] at helsewhere
  | otaPalSetPlatformImageState => simp [Call.madeElsewhere, Call.madeByHandler] at helsewhere
  | _ => rfl

/-- Once a file has been created the PAL has its context, and no call cleans. -/
structure ContextInvariant (s : OtaAgent) : Prop where
  context : ∀ c ∈ s.log, c.createsFile = true → s.pxSystemContext = true
  cleans : Always CleansBeforeFiles s.log

/-- A call that does not clean, and leaves the context as a new file does. -/
theorem ContextInvariant.call {s : OtaAgent} (h : ContextInvariant s) {c : Call}
    (hcreates : c.createsFile = true → s.pxSystemContext = true)
    (hcleans : c.cleans = true → s.pxSystemContext = false) : ContextInvariant (s.call c) := by
  refine ⟨?_, ?_, h.cleans⟩
  · intro d hd hfile
    rcases List.mem_cons.mp hd with rfl | hd
    · exact hcreates hfile
    · exact h.context d hd hfile
  · intro hc d hd
    by_contra hfile
    have hcontext := h.context d hd (by simpa using hfile)
    simp [hcleans hc] at hcontext

theorem ContextInvariant.of_extends {s t : OtaAgent} (h : ContextInvariant s)
    (hcontext : t.pxSystemContext = s.pxSystemContext)
    (hlog : Extends Call.fwuNeutral s.log t.log) : ContextInvariant t := by
  have hneutral : ∀ (c : Call), c.fwuNeutral = true →
      c.createsFile = false ∧ c.cleans = false := fun c hc => by
    simpa [Call.fwuNeutral] using hc
  constructor
  · rw [hcontext]
    refine hlog.induct
      (I := fun l => ∀ c ∈ l, c.createsFile = true → s.pxSystemContext = true) ?_ h.context
    intro c l hc hl d hd hfile
    rcases List.mem_cons.mp hd with rfl | hd
    · simp [(hneutral d hc).1] at hfile
    · exact hl d hd hfile
  · refine hlog.always ?_ h.cleans
    intro l c hc hcleans
    simp [(hneutral c hc).2] at hcleans

section Events

variable (L : Libraries) (r : Results) (s : OtaAgent)

theorem newJobConverted_pxSystemContext :
    (newJobConverted L r s).1.pxSystemContext = s.pxSystemContext := by
  unfold newJobConverted convertSignatureToDER
  dsimp only
  split <;> rfl

/-- Only a job document changes the context of the PAL. -/
theorem processOTAEvents_pxSystemContext {event : OtaEventMsg}
    (hevent : event ≠ .receivedJobDocument) :
    (processOTAEvents L r s event).1.pxSystemContext = s.pxSystemContext := by
  cases event with
  | receivedJobDocument => exact absurd rfl hevent
  | receivedFileBlock i =>
    rcases processOTAEvents_receivedFileBlock L r s i with heq | ⟨-, -, heq⟩
    · rw [heq]
      rfl
    · rw [heq, receivedFileBlock_eq]
      rfl
  | closeFile =>
    simp only [processOTAEvents, otaPalCloseFile]
    split_ifs <;> rfl
  | activateImage =>
    rcases processOTAEvents_activateImage L r s with heq | heq
    · rw [heq]
      rfl
    · rw [heq]
      rfl
  | _ => rfl

variable {L r s}

/-- The PAL creates a file. -/
theorem ContextInvariant.createFile (h : ContextInvariant s) :
    ContextInvariant (otaPalCreateFileForRx r s).1 := by
  have hfailed : ContextInvariant (s.call (.otaPalCreateFileForRx .fileCreateFailed)) :=
    h.call (by simp [Call.createsFile]) (by simp [Call.cleans])
  unfold otaPalCreateFileForRx
  split
  · exact hfailed
  · split_ifs
    · exact hfailed
    · refine ⟨fun _ _ _ => rfl, ?_, h.cleans⟩
      simp [CleansBeforeFiles, Call.cleans]

/-- The PAL sets the state of the image: with a context it does not clean. -/
theorem ContextInvariant.setPlatformImageState (h : ContextInvariant s) {eState : OtaImageState}
    (hstate : eState ≠ .aborted) : ContextInvariant (otaPalSetPlatformImageState r s eState).1 := by
  refine h.call (by simp [Call.createsFile]) fun hcleans => ?_
  by_contra hcontext
  cases eState with
  | aborted => exact hstate rfl
  | accepted => simp [Call.cleans, setPlatformImageStateResult, hcontext] at hcleans
  | _ => simp [Call.cleans] at hcleans

/-- The job document handler keeps the invariant. -/
theorem JobDocumentOutcome.contextInvariant {p : OtaAgent × OtaPalJobDocProcessingResult}
    (hout : JobDocumentOutcome L r s p) (h : ContextInvariant s) : ContextInvariant p.1 := by
  have hparsed : ContextInvariant (newJobParsed L s).1 :=
    h.of_extends rfl (((Extends.refl _ _).cons rfl).cons rfl)
  have hconverted : ContextInvariant (newJobConverted L r s).1 := by
    refine h.of_extends (newJobConverted_pxSystemContext L r s) ?_
    rw [newJobConverted_log, initMqttDownloader_log, newJobParsed_log]
    exact (((((Extends.refl _ _).cons rfl).cons rfl).cons rfl).cons rfl).cons rfl
  have hfinal : ∀ {t : OtaAgent} (status : JobCurrentStatus), ContextInvariant t →
      ContextInvariant (sendFinalJobStatusMessage r t status) := fun status ht =>
    ht.of_extends rfl ((Extends.refl _ _).cons rfl)
  cases hout with
  | noJobId => exact h.of_extends rfl (.refl _ _)
  | sameJob => exact h.of_extends rfl (.refl _ _)
  | parseFailed => exact hparsed
  | newImageBooted => exact hfinal _ (hparsed.setPlatformImageState (by simp))
  | newImageBootFailed => exact hfinal _ (hparsed.setPlatformImageState (by simp))
  | signatureFailed => exact hconverted
  | createFailed => exact hconverted.createFile
  | fileCreated => exact hconverted.createFile

/-- Every event keeps the invariant. -/
theorem ContextInvariant.processOTAEvents (h : ContextInvariant s) (event : OtaEventMsg) :
    ContextInvariant (processOTAEvents L r s event).1 := by
  by_cases hevent : event = .receivedJobDocument
  · subst hevent
    rcases processOTAEvents_receivedJobDocument L r s with hdrop | ⟨p, hout, heq⟩
    · rw [hdrop]
      exact h
    · rw [heq]
      refine (hout.contextInvariant h).of_extends ?_ ?_
      · cases p.2 <;> rfl
      · rw [jobDocumentProcessed_log]
        refine ((Extends.refl _ _).cons rfl).cons ?_
        cases p.2 <;> rfl
  · refine h.of_extends (processOTAEvents_pxSystemContext L r s hevent) ?_
    exact (processOTAEvents_calls L r s event).mono fun c => fwuNeutral_of_madeBy hevent

end Events

/-- **The agent does not clean up.** In no run does a call clean after a file has
    been created. -/
theorem cleansBeforeFiles_run (L : Libraries) (as : List Action) :
    Always CleansBeforeFiles (run (step L) (.boot L) as).agent.log := by
  have hboot : ContextInvariant (OtaSystem.boot L).agent :=
    ⟨fun _ hc => absurd hc List.not_mem_nil, trivial⟩
  refine (run_agent_inv (I := ContextInvariant) ?_ ?_ ?_ hboot as).cleans
  · intro s job data h
    exact ⟨h.context, h.cleans⟩
  · intro s event sent h
    exact h.of_extends rfl ((Extends.refl _ _).cons rfl)
  · intro r s event h
    exact h.processOTAEvents event

end Corstone.Ota
