import Corstone.Ota.FwuComponent
import Corstone.Ota.JsonDevice
import Corstone.Ota.Transfer

/-!
# Failed updates

An update can fail at seven points. After none of them does the agent clean up:
the only status `Failed` it publishes is the verdict of a self test, and the
component stays where the failure has left it.

* `not_cleanedUp_of_failsAt`: after a failure no status `Failed` is published
  and, if a file has been created and not been installed, the component does
  not get back to READY, up to the next self test.
* `not_cleanedUp_badSignature`: the signature check fails.
-/

namespace Corstone.Ota

open Corstone.Lib

/-! ## Failures -/

/-- The points at which an update can fail. -/
inductive FailurePoint
  | documentParsing | signatureDecoding | createFileForRx | writeBlock | fwuFinish
  | checkSignature | fwuInstall
  deriving DecidableEq, Repr

/-- The step of the `switch` with the results `r` fails at the point. -/
def FailsAt (L : Libraries) (r : Results) (σ : OtaSystem) : FailurePoint → Prop
  | .documentParsing =>
    σ.HandlesJobDocument ∧ NewJob L σ.agent ∧ (newJobParsed L σ.agent).2 = false
  | .signatureDecoding =>
    σ.HandlesJobDocument ∧ StartsTransfer L r σ.agent ∧ (newJobConverted L r σ.agent).2 = false
  | .createFileForRx =>
    σ.HandlesJobDocument ∧ StartsTransfer L r σ.agent ∧ (newJobConverted L r σ.agent).2 = true ∧
      (otaPalCreateFileForRx r (newJobConverted L r σ.agent).1).2 = .fileCreateFailed
  | .writeBlock => σ.processedBlock.isSome = true ∧ r.otaPalWriteBlock ≤ 0
  | .fwuFinish => σ.task = .processing .closeFile ∧ r.psaFwuFinish ≠ psaSuccess
  | .checkSignature =>
    σ.task = .processing .closeFile ∧ r.psaFwuFinish = psaSuccess ∧
      otaPalCheckSignature L r = false
  | .fwuInstall =>
    σ.task = .processing .activateImage ∧ σ.agent.pxSystemContext = true ∧
      σ.agent.xOTAComponentID < L.fwuComponentNumber ∧ r.psaFwuInstall ≠ psaSuccess ∧
      r.psaFwuInstall ≠ psaSuccessReboot

instance (L : Libraries) (r : Results) (σ : OtaSystem) (point : FailurePoint) :
    Decidable (FailsAt L r σ point) := by
  cases point <;> exact inferInstanceAs (Decidable (_ ∧ _))

/-- The step of the `switch` gives the verdict of a self test. -/
def SelfTests (L : Libraries) (r : Results) (σ : OtaSystem) : Prop :=
  σ.HandlesJobDocument ∧ NewJob L σ.agent ∧ (newJobParsed L σ.agent).2 = true ∧
    otaPalGetPlatformImageState r (newJobParsed L σ.agent).1 = .pendingCommit

instance (L : Libraries) (r : Results) (σ : OtaSystem) : Decidable (SelfTests L r σ) :=
  inferInstanceAs (Decidable (_ ∧ _))

/-- The action is not a self test. -/
def NoSelfTest (L : Libraries) (σ : OtaSystem) : Action → Prop
  | .processEvent r => ¬ SelfTests L r σ
  | _ => True

theorem selfTests_or_noSelfTest (L : Libraries) (σ : OtaSystem) (a : Action) :
    (∃ r, a = .processEvent r ∧ SelfTests L r σ) ∨ NoSelfTest L σ a := by
  cases a with
  | processEvent r =>
    by_cases hself : SelfTests L r σ
    · exact Or.inl ⟨r, rfl, hself⟩
    · exact Or.inr hself
  | _ => exact Or.inr trivial

/-! ## The clean-up -/

/-- The call publishes the status `Failed` of the job. -/
def Call.publishesFailed (jobId : Bytes) : Call → Bool
  | .jobsUpdate publishedJobId .failed _ _ _ => publishedJobId == jobId
  | _ => false

/-- The number of `Failed` updates for the job. -/
def failedUpdates (jobId : Bytes) (log : List Call) : ℕ :=
  log.countP (Call.publishesFailed jobId)

/-- From `σ` to `τ` the job has been reported as failed, and in `τ` the next
    `psa_fwu_start` succeeds. -/
def CleanedUp (F : FwuService) (jobId : Bytes) (σ τ : OtaSystem) : Prop :=
  F.component τ.agent.log = .ready ∧
    failedUpdates jobId σ.agent.log < failedUpdates jobId τ.agent.log

instance (F : FwuService) (jobId : Bytes) (σ τ : OtaSystem) : Decidable (CleanedUp F jobId σ τ) :=
  inferInstanceAs (Decidable (_ ∧ _))

/-- The call gives no final status to a job. -/
def Call.givesNoVerdict : Call → Bool
  | .jobsUpdate _ status _ _ _ => status == .inProgress
  | _ => true

/-- The call sets the platform image state or gives a final status. -/
def Call.partOfVerdict : Call → Bool
  | .otaPalSetPlatformImageState _ _ => true
  | c => !c.givesNoVerdict

theorem failedUpdates_extends {log log' : List Call} (jobId : Bytes)
    (h : Extends Call.givesNoVerdict log log') :
    failedUpdates jobId log' = failedUpdates jobId log := by
  refine h.eq fun c l hc => List.countP_cons_of_neg ?_
  cases c with
  | jobsUpdate _ status =>
    cases status with
    | failed => simp [Call.givesNoVerdict] at hc
    | _ => simp [Call.publishesFailed]
  | _ => simp [Call.publishesFailed]

section Steps

variable {L : Libraries} {r : Results} {σ : OtaSystem}

/-- Without a self test the handler gives no verdict. -/
theorem JobDocumentOutcome.noVerdict {s : OtaAgent}
    {p : OtaAgent × OtaPalJobDocProcessingResult} (h : JobDocumentOutcome L r s p)
    (hnot : ¬ (NewJob L s ∧ (newJobParsed L s).2 = true ∧
      otaPalGetPlatformImageState r (newJobParsed L s).1 = .pendingCommit)) :
    Extends (fun c => !c.partOfVerdict) s.log p.1.log := by
  have hbase := Extends.refl (fun c : Call => !c.partOfVerdict) s.log
  have hparsed : Extends (fun c => !c.partOfVerdict) s.log (newJobParsed L s).1.log :=
    (hbase.cons rfl).cons rfl
  have hconverted : Extends (fun c => !c.partOfVerdict) s.log (newJobConverted L r s).1.log := by
    rw [newJobConverted_log, initMqttDownloader_log]
    exact ((hparsed.cons rfl).cons rfl).cons rfl
  have hcreated : Extends (fun c => !c.partOfVerdict) s.log
      (otaPalCreateFileForRx r (newJobConverted L r s).1).1.log := by
    rw [otaPalCreateFileForRx_log]
    exact hconverted.cons rfl
  cases h with
  | noJobId => exact hbase
  | sameJob => exact hbase
  | parseFailed => exact hparsed
  | newImageBooted hid hparse hstate => exact absurd ⟨hid, hparse, hstate⟩ hnot
  | newImageBootFailed hid hparse hstate => exact absurd ⟨hid, hparse, hstate⟩ hnot
  | signatureFailed => exact hconverted
  | createFailed => exact hcreated
  | fileCreated => exact hcreated

/-- A step that is not a self test gives no verdict. -/
theorem step_noVerdict {a : Action} (h : NoSelfTest L σ a) :
    Extends (fun c => !c.partOfVerdict) σ.agent.log (step L σ a).agent.log := by
  by_cases hhandles : ∃ r, a = .processEvent r ∧ σ.HandlesJobDocument
  · obtain ⟨r, rfl, hjob⟩ := hhandles
    obtain ⟨p, hout, hagent⟩ := step_handlesJobDocument (L := L) (r := r) hjob
    rw [hagent, jobDocumentProcessed_log]
    have hcalls := hout.noVerdict fun hself => h ⟨hjob, hself⟩
    refine (hcalls.cons rfl).cons ?_
    cases p.2 <;> rfl
  · have hnot : ∀ r, a = .processEvent r → ¬ σ.HandlesJobDocument :=
      fun r ha hjob => hhandles ⟨r, ha, hjob⟩
    refine (step_calls a hnot).mono fun c hc => ?_
    cases c with
    | jobsUpdate _ status =>
      cases status with
      | inProgress => rfl
      | _ => simp [Call.madeElsewhere, Call.madeByHandler] at hc
    | otaPalSetPlatformImageState => simp [Call.madeElsewhere, Call.madeByHandler] at hc
    | _ => rfl

/-- A step that is not a self test publishes no final status. -/
theorem step_givesNoVerdict {a : Action} (h : NoSelfTest L σ a) :
    Extends Call.givesNoVerdict σ.agent.log (step L σ a).agent.log := by
  refine (step_noVerdict h).mono fun c hc => ?_
  cases c with
  | otaPalSetPlatformImageState => rfl
  | _ => simpa [Call.partOfVerdict] using hc

/-- A failure is not a self test. -/
theorem noSelfTest_of_failsAt {point : FailurePoint} (h : FailsAt L r σ point) :
    NoSelfTest L σ (.processEvent r) := by
  rintro ⟨⟨hevent, hsuspended, hstopped⟩, -, hparse, hstate⟩
  cases point with
  | documentParsing => simp [h.2.2] at hparse
  | signatureDecoding => exact h.2.1.state hstate
  | createFileForRx => exact h.2.1.state hstate
  | writeBlock =>
    have hnone : σ.processedBlock = none := by simp [OtaSystem.processedBlock, hevent]
    simp [FailsAt, hnone] at h
  | fwuFinish => simp [FailsAt, hevent] at h
  | checkSignature => simp [FailsAt, hevent] at h
  | fwuInstall => simp [FailsAt, hevent] at h

end Steps

/-! ## Runs -/

/-- A run without self tests publishes no status `Failed`. -/
theorem failedUpdates_run {L : Libraries} {σ : OtaSystem} {as : List Action} (jobId : Bytes)
    (h : Along (step L) (NoSelfTest L) σ as) :
    failedUpdates jobId (run (step L) σ as).agent.log = failedUpdates jobId σ.agent.log := by
  refine Along.inv
    (I := fun τ : OtaSystem => failedUpdates jobId τ.agent.log = failedUpdates jobId σ.agent.log)
    ?_ rfl h
  intro τ a hτ ha
  rw [failedUpdates_extends jobId (step_givesNoVerdict ha), hτ]

/-- **Failed updates.** A step fails at one of the seven points. Up to the next
    self test no job is cleaned up, and a component whose file has been created
    and not been installed does not get back to READY. -/
theorem not_cleanedUp_of_failsAt (L : Libraries) (F : FwuService) (as bs : List Action)
    (r : Results) (point : FailurePoint)
    (hfails : FailsAt L r (run (step L) (.boot L) as) point)
    (hbs : Along (step L) (NoSelfTest L) (run (step L) (.boot L) (as ++ [.processEvent r])) bs) :
    (∀ jobId, ¬ CleanedUp F jobId (run (step L) (.boot L) as)
        (run (step L) (.boot L) (as ++ .processEvent r :: bs))) ∧
      (unfinishedUpdate (run (step L) (.boot L) (as ++ .processEvent r :: bs)).agent.log = true →
        F.component (run (step L) (.boot L) (as ++ .processEvent r :: bs)).agent.log ≠ .ready) := by
  constructor
  · rintro jobId ⟨-, hpublished⟩
    have hrun : Along (step L) (NoSelfTest L) (run (step L) (.boot L) as)
        (.processEvent r :: bs) := by
      refine ⟨noSelfTest_of_failsAt hfails, ?_⟩
      rwa [run_append] at hbs
    rw [run_append, failedUpdates_run jobId hrun] at hpublished
    exact lt_irrefl _ hpublished
  · intro hunfinished hready
    have hstays := F.component_unfinished (cleansBeforeFiles_run L _) hunfinished
    rw [hready] at hstays
    exact absurd hstays (by decide)

/-! ## A failed signature check -/

/-- The only block of a file is written; the file is about to be closed. -/
def lastBlockWritten : List Action :=
  [.jobMessage startNextAcceptedTopic (startNextAccepted (ascii "A") [] 3 (ascii "MEUC")),
    .receiveEvent, .processEvent {}, .receiveEvent, .processEvent {}, .sendEvent,
    .receiveEvent, .processEvent {}, .dataMessage (streamBlock 0 0 (ascii "AAAA")) true,
    .receiveEvent, .processEvent { otaPalWriteBlock := 3 }, .sendEvent, .receiveEvent]

instance (L : Libraries) (σ : OtaSystem) (a : Action) : Decidable (NoSelfTest L σ a) :=
  match a with
  | .processEvent r => inferInstanceAs (Decidable (¬ SelfTests L r σ))
  | .receiveEvent | .sendEvent | .jobMessage _ _ | .dataMessage _ _ | .otaDemoTask _
  | .otaAgentShutdown => isTrue trivial

/-- The next job; its `psa_fwu_start` does not find the component READY. -/
def nextJob : List Action :=
  [.jobMessage startNextAcceptedTopic (startNextAccepted (ascii "B") [] 3 (ascii "MEUC")),
    .receiveEvent, .processEvent { psaFwuStart := -137 }]

set_option maxRecDepth 20000 in
/-- The failed check locks out the next job. -/
theorem not_cleanedUp_nextJob :
    ¬ CleanedUp psaFwu (ascii "A") (run (step jsonDevice) (.boot jsonDevice) lastBlockWritten)
      (run (step jsonDevice) (.boot jsonDevice)
        (lastBlockWritten ++ .processEvent { psaVerify := -149 } :: nextJob)) :=
  (not_cleanedUp_of_failsAt jsonDevice psaFwu lastBlockWritten nextJob { psaVerify := -149 }
    .checkSignature (by decide) (by decide)).1 (ascii "A")

set_option maxRecDepth 20000 in
/-- The signature check fails, and neither is the component READY again nor the
    job reported as failed. -/
theorem not_cleanedUp_badSignature :
    FailsAt jsonDevice { psaVerify := -149 }
        (run (step jsonDevice) (.boot jsonDevice) lastBlockWritten) .checkSignature ∧
      ¬ CleanedUp psaFwu (ascii "A") (run (step jsonDevice) (.boot jsonDevice) lastBlockWritten)
        (run (step jsonDevice) (.boot jsonDevice)
          (lastBlockWritten ++ [.processEvent { psaVerify := -149 }])) := by
  decide

end Corstone.Ota
