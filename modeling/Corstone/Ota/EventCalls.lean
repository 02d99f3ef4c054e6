import Corstone.Lib.History
import Corstone.Ota.EventLoop

/-!
# The calls of an event

`Call.madeBy` says which calls the `switch` makes for an event.

* `processOTAEvents_calls`: these are all the calls it makes.
* `step_calls`: a step that handles no job document makes no call of the handler.
-/

namespace Corstone.Ota

open Corstone.Lib

/-- The calls that the job document handler makes. -/
def Call.madeByHandler : Call → Bool
  | .jobIdRecorded _ | .jobDocumentParser _ | .initMqttDownloader _ _ | .prvMQTTSubscribe _ _
  | .convertSignatureToDER _ | .otaPalCreateFileForRx _ | .otaPalSetPlatformImageState _ _ => true
  | .jobsUpdate _ status _ _ _ => status != .inProgress
  | _ => false

/-- The calls that react to the result of the handler. -/
def Call.reactsToHandler : Call → Bool
  | .receivedJobDocumentHandler _ | .vOtaActiveHook | .vOtaNotActiveHook => true
  | _ => false

/-- The calls that the `switch` makes for an event. -/
def Call.madeBy : OtaEventMsg → Call → Bool
  | .requestJobDocument, .jobsStartNext _ => true
  | .receivedJobDocument, c => c.madeByHandler || c.reactsToHandler
  | .requestFileBlock, .getDataBlockRequest _ _ _ => true
  | .receivedFileBlock _, .otaPalWriteBlock _ _ _ => true
  | .closeFile, .otaPalCloseFile _ _ => true
  | .activateImage, .jobsUpdate _ .inProgress _ _ _ => true
  | .activateImage, .psaFwuInstall _ => true
  | .shutdown, .vOtaNotActiveHook => true
  | _, _ => false

/-- The calls that are not about a job document. -/
def Call.madeElsewhere (c : Call) : Bool :=
  match c with
  | .receivedJobDocumentHandler _ => false
  | c => !c.madeByHandler

theorem madeElsewhere_of_madeBy {event : OtaEventMsg} (hevent : event ≠ .receivedJobDocument)
    {c : Call} (hc : Call.madeBy event c = true) : c.madeElsewhere = true := by
  unfold Call.madeBy at hc
  split at hc
  · rfl
  · exact absurd rfl hevent
  · rfl
  · rfl
  · rfl
  · rfl
  · rfl
  · rfl
  · exact absurd hc Bool.false_ne_true

section Calls

variable (L : Libraries) (r : Results) (s : OtaAgent)

/-- The hook that follows the result of a job document. -/
def jobDocumentHook : OtaPalJobDocProcessingResult → Call
  | .fileCreated => .vOtaActiveHook
  | _ => .vOtaNotActiveHook

theorem jobDocumentProcessed_log (result : OtaPalJobDocProcessingResult) :
    (jobDocumentProcessed s result).1.log =
      jobDocumentHook result :: .receivedJobDocumentHandler result :: s.log := by
  cases result <;> rfl

/-- The calls of the handler. -/
theorem JobDocumentOutcome.calls {L : Libraries} {r : Results} {s : OtaAgent}
    {p : OtaAgent × OtaPalJobDocProcessingResult} (h : JobDocumentOutcome L r s p) :
    Extends Call.madeByHandler s.log p.1.log := by
  have hbase := Extends.refl Call.madeByHandler s.log
  have hparsed : Extends Call.madeByHandler s.log (newJobParsed L s).1.log :=
    (hbase.cons rfl).cons rfl
  have hconverted : Extends Call.madeByHandler s.log (newJobConverted L r s).1.log := by
    rw [newJobConverted_log, initMqttDownloader_log]
    exact ((hparsed.cons rfl).cons rfl).cons rfl
  have hcreated : Extends Call.madeByHandler s.log
      (otaPalCreateFileForRx r (newJobConverted L r s).1).1.log := by
    rw [otaPalCreateFileForRx_log]
    exact hconverted.cons rfl
  cases h with
  | noJobId => exact hbase
  | sameJob => exact hbase
  | parseFailed => exact hparsed
  | newImageBooted => exact (hparsed.cons rfl).cons rfl
  | newImageBootFailed => exact (hparsed.cons rfl).cons rfl
  | signatureFailed => exact hconverted
  | createFailed => exact hcreated
  | fileCreated => exact hcreated

/-- **The calls of an event.** -/
theorem processOTAEvents_calls (event : OtaEventMsg) :
    Extends (Call.madeBy event) s.log (processOTAEvents L r s event).1.log := by
  have hbase := Extends.refl (Call.madeBy event) s.log
  cases event with
  | requestJobDocument => exact hbase.cons rfl
  | receivedJobDocument =>
    rcases processOTAEvents_receivedJobDocument L r s with hdrop | ⟨p, hout, heq⟩
    · rw [hdrop]
      exact hbase
    · rw [heq, jobDocumentProcessed_log]
      have hcalls : Extends (Call.madeBy .receivedJobDocument) s.log p.1.log :=
        hout.calls.mono fun c hc => by simp [Call.madeBy, hc]
      refine (hcalls.cons rfl).cons ?_
      cases p.2 <;> rfl
  | requestFileBlock => exact hbase.cons rfl
  | receivedFileBlock i =>
    rcases processOTAEvents_receivedFileBlock L r s i with heq | ⟨-, -, heq⟩
    · rw [heq]
      exact hbase
    · rw [heq, receivedFileBlock_eq]
      exact hbase.cons rfl
  | closeFile =>
    simp only [processOTAEvents, otaPalCloseFile]
    split_ifs <;> exact hbase.cons rfl
  | activateImage =>
    rcases processOTAEvents_activateImage L r s with heq | heq
    · rw [heq]
      exact hbase.cons rfl
    · rw [heq]
      exact (hbase.cons rfl).cons rfl
  | shutdown => exact hbase.cons rfl
  | suspend => exact hbase
  | resume => exact hbase
  | start => exact hbase
  | createFile => exact hbase
  | userAbort => exact hbase

end Calls

/-! ## Steps -/

/-- The `switch` is about to handle a job document. -/
def OtaSystem.HandlesJobDocument (σ : OtaSystem) : Prop :=
  σ.task = .processing .receivedJobDocument ∧ σ.agent.otaAgentState ≠ .suspended ∧
    σ.agent.otaAgentState ≠ .stopped

instance (σ : OtaSystem) : Decidable σ.HandlesJobDocument :=
  inferInstanceAs (Decidable (_ ∧ _))

section Steps

variable {L : Libraries} {r : Results} {σ : OtaSystem}

theorem step_processEvent {event : OtaEventMsg} (h : σ.task = .processing event) :
    step L σ (.processEvent r) = processEvent L r σ event := by
  simp only [step, h]

/-- A handled job document: the calls of the handler and the reaction to it. -/
theorem step_handlesJobDocument (h : σ.HandlesJobDocument) :
    ∃ p, JobDocumentOutcome L r σ.agent p ∧
      (step L σ (.processEvent r)).agent = (jobDocumentProcessed p.1 p.2).1 := by
  obtain ⟨hevent, hrun⟩ := h
  refine ⟨receivedJobDocumentHandler L r σ.agent, receivedJobDocumentHandler_outcome L r _, ?_⟩
  rw [step_processEvent hevent]
  exact congrArg Prod.fst (receivedJobDocument_handled L r hrun)

/-- The calls of a step are the sends of events and the calls that the `switch` makes. -/
theorem step_extends {p : Call → Bool} (hsend : ∀ event sent, p (.otaSendEvent event sent) = true)
    (a : Action)
    (hprocess : ∀ r event, a = .processEvent r → σ.task = .processing event →
      Extends p σ.agent.log (processOTAEvents L r σ.agent event).1.log) :
    Extends p σ.agent.log (step L σ a).agent.log := by
  apply step_agent_cases (P := fun t => Extends p σ.agent.log t.log) σ a
  · intro _ _
    exact Extends.refl _ _
  · intro event sent
    exact (Extends.refl _ _).cons (hsend event sent)
  · exact hprocess

/-- A step that handles no job document makes no call of the handler. -/
theorem step_calls (a : Action) (h : ∀ r, a = .processEvent r → ¬ σ.HandlesJobDocument) :
    Extends Call.madeElsewhere σ.agent.log (step L σ a).agent.log := by
  apply step_extends (fun _ _ => rfl)
  rintro r event rfl hevent
  by_cases hjob : event = .receivedJobDocument
  · subst hjob
    rw [receivedJobDocument_dropped L r fun hrun => h r rfl ⟨hevent, hrun⟩]
    exact Extends.refl _ _
  · exact (processOTAEvents_calls L r σ.agent event).mono fun c => madeElsewhere_of_madeBy hjob

end Steps

end Corstone.Ota
