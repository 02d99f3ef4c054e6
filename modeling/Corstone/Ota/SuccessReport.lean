import Corstone.Ota.AntiRollback
import Corstone.Ota.FailedUpdate

/-!
# The success report

After the self test the agent publishes the final status `Succeeded`. The calls
on the way can fail, and none of the failures is looked at: a document without
an `updatedBy` value leaves the one of an earlier document, a version that could
not be read is what is on the stack, and the result of
`otaPal_SetPlatformImageState` is dropped.

* `publishesSucceeded_iff`: a self test publishes `Succeeded` when the numbers
  that are there compare.
* `successReport_iff`: every `Succeeded` of a run has its grounds iff in every
  self test whose numbers compare no call has failed.
* `not_successReport_acceptFails`: the image cannot be accepted.
-/

namespace Corstone.Ota

open Corstone.Lib

/-! ## Reports and their grounds -/

/-- The call publishes the status `Succeeded`. -/
def Call.publishesSucceeded : Call → Bool
  | .jobsUpdate _ .succeeded _ _ _ => true
  | _ => false

/-- From `log` to `log'` a status `Succeeded` is published. -/
def PublishesSucceeded (log log' : List Call) : Prop :=
  ∃ calls, log' = calls ++ log ∧ ∃ c ∈ calls, c.publishesSucceeded = true

/-- The number in the `updatedBy` field that `receivedJobDocumentHandler` reads,
    before it is cut to 16 bits. -/
def updatedByNumber (s : OtaAgent) : UInt32 :=
  strtoul (s.read s.jobStatusDetails.updatedBy s.jobStatusDetails.updatedByLen)

/-- What is in `version` when the numbers are compared. -/
def versionRead (r : Results) (s : OtaAgent) : AppVersion32 :=
  (otaPalGetPlatformImageVersion r s).getD r.uninitialised

/-- The received document has an `updatedBy` value, the version of the running
    image has been obtained and is greater, and the image has been accepted. -/
structure SuccessGrounds (L : Libraries) (r : Results) (s : OtaAgent) : Prop where
  newer : ∃ place version, L.jsonSearchUpdatedBy s.jobDocument = some place ∧
    otaPalGetPlatformImageVersion r (newJobParsed L s).1 = some version ∧
    strtoul (s.read (.jobDoc place.1) place.2) < version.unsignedVersion32
  accepted : (otaPalSetPlatformImageState r (newJobParsed L s).1 .accepted).2 = true

/-- A step that publishes `Succeeded` processes a job document, with the grounds
    for it. -/
def SuccessSound (L : Libraries) (σ : OtaSystem) (a : Action) : Prop :=
  PublishesSucceeded σ.agent.log (step L σ a).agent.log →
    ∃ r, a = .processEvent r ∧ σ.task = .processing .receivedJobDocument ∧
      SuccessGrounds L r σ.agent

/-- The calls of the self test succeed, and its numbers compare in 32 bits as
    they do in 16. -/
structure SelfTestCallsSucceed (L : Libraries) (r : Results) (s : OtaAgent) : Prop where
  updatedBy : L.jsonSearchUpdatedBy s.jobDocument ≠ none
  query : r.psaFwuQuery = psaSuccess
  number : updatedByNumber (newJobParsed L s).1 <
    (versionRead r (newJobParsed L s).1).unsignedVersion32
  context : s.pxSystemContext = false
  accept : r.psaFwuAccept = psaSuccess
  clean : r.psaFwuClean = psaSuccess

/-- No call of a self test whose numbers compare fails. -/
def SuccessCondition (L : Libraries) (σ : OtaSystem) : Action → Prop
  | .processEvent r =>
    SelfTests L r σ →
      (updatedByVer (newJobParsed L σ.agent).1).toNat <
        (versionRead r (newJobParsed L σ.agent).1).unsignedVersion32.toNat →
      SelfTestCallsSucceed L r σ.agent
  | _ => True

/-! ## The self test -/

section SelfTest

variable {L : Libraries} {r : Results} {s : OtaAgent} {σ : OtaSystem}

/-- A history without new verdicts has no new `Succeeded`. -/
theorem not_publishesSucceeded {log log' : List Call} (h : Extends Call.givesNoVerdict log log') :
    ¬ PublishesSucceeded log log' := by
  rintro ⟨calls, heq, c, hc, hpublishes⟩
  rw [heq, Extends.append_iff] at h
  have hno := h c hc
  cases c with
  | jobsUpdate _ status =>
    cases status with
    | succeeded => simp [Call.givesNoVerdict] at hno
    | _ => simp [Call.publishesSucceeded] at hpublishes
  | _ => simp [Call.publishesSucceeded] at hpublishes

/-- What a self test does. -/
theorem step_selfTest (h : SelfTests L r σ) :
    ∃ eState status result, status ≠ .inProgress ∧
      (status = .succeeded ↔ (updatedByVer (newJobParsed L σ.agent).1).toNat <
        (versionRead r (newJobParsed L σ.agent).1).unsignedVersion32.toNat) ∧
      (step L σ (.processEvent r)).agent =
        (jobDocumentProcessed (sendFinalJobStatusMessage r
          (otaPalSetPlatformImageState r (newJobParsed L σ.agent).1 eState).1 status)
          result).1 := by
  obtain ⟨hhandles, hid, hparse, hstate⟩ := h
  have hhandler := receivedJobDocumentHandler_selfTest L r σ.agent hid hparse hstate
  have hagent : (step L σ (.processEvent r)).agent =
      (jobDocumentProcessed (selfTest r (newJobParsed L σ.agent).1).1
        (selfTest r (newJobParsed L σ.agent).1).2).1 := by
    rw [step_processEvent hhandles.1]
    show (processOTAEvents L r σ.agent .receivedJobDocument).1 = _
    rw [receivedJobDocument_handled L r hhandles.2, hhandler]
  by_cases hnewer : (updatedByVer (newJobParsed L σ.agent).1).toNat <
      (versionRead r (newJobParsed L σ.agent).1).unsignedVersion32.toNat
  · have hself : selfTest r (newJobParsed L σ.agent).1 =
        (sendFinalJobStatusMessage r
          (otaPalSetPlatformImageState r (newJobParsed L σ.agent).1 .accepted).1 .succeeded,
          .newImageBooted) := if_pos hnewer
    refine ⟨.accepted, .succeeded, .newImageBooted, by simp, iff_of_true rfl hnewer, ?_⟩
    rw [hagent, hself]
  · have hself : selfTest r (newJobParsed L σ.agent).1 =
        (sendFinalJobStatusMessage r
          (otaPalSetPlatformImageState r (newJobParsed L σ.agent).1 .rejected).1 .failed,
          .newImageBootFailed) := if_neg hnewer
    refine ⟨.rejected, .failed, .newImageBootFailed, by simp, iff_of_false (by simp) hnewer, ?_⟩
    rw [hagent, hself]

/-- The calls of a self test. -/
theorem step_selfTest_log (h : SelfTests L r σ) :
    ∃ eState status result updatedBy accepted, status ≠ .inProgress ∧
      (status = .succeeded ↔ (updatedByVer (newJobParsed L σ.agent).1).toNat <
        (versionRead r (newJobParsed L σ.agent).1).unsignedVersion32.toNat) ∧
      (step L σ (.processEvent r)).agent.log =
        [jobDocumentHook result, .receivedJobDocumentHandler result,
          .jobsUpdate (cstr (memcpy σ.agent.globalJobId (σ.agent.jobId L))) status 3 updatedBy
            r.mqtt,
          .otaPalSetPlatformImageState eState accepted,
          .jobDocumentParser (newJobParsed L σ.agent).2, .jobIdRecorded (σ.agent.jobId L)] ++
        σ.agent.log := by
  obtain ⟨eState, status, result, hfinal, hstatus, hagent⟩ := step_selfTest h
  rw [hagent, jobDocumentProcessed_log]
  exact ⟨eState, status, result, _, _, hfinal, hstatus, rfl⟩

/-- **When `Succeeded` is published.** -/
theorem publishesSucceeded_iff (h : SelfTests L r σ) :
    PublishesSucceeded σ.agent.log (step L σ (.processEvent r)).agent.log ↔
      (updatedByVer (newJobParsed L σ.agent).1).toNat <
        (versionRead r (newJobParsed L σ.agent).1).unsignedVersion32.toNat := by
  obtain ⟨eState, status, result, updatedBy, accepted, -, hstatus, hlog⟩ := step_selfTest_log h
  rw [← hstatus, hlog]
  constructor
  · rintro ⟨calls, heq, c, hc, hpublishes⟩
    obtain rfl := List.append_cancel_right heq
    -- the status update is the only one of these calls that can publish it
    have hupdate : c = .jobsUpdate (cstr (memcpy σ.agent.globalJobId (σ.agent.jobId L))) status 3
        updatedBy r.mqtt := by
      simp only [List.mem_cons, List.not_mem_nil, or_false] at hc
      rcases hc with rfl | rfl | rfl | rfl | rfl | rfl
      · cases result <;> simp [jobDocumentHook, Call.publishesSucceeded] at hpublishes
      · simp [Call.publishesSucceeded] at hpublishes
      · rfl
      · simp [Call.publishesSucceeded] at hpublishes
      · simp [Call.publishesSucceeded] at hpublishes
      · simp [Call.publishesSucceeded] at hpublishes
    subst hupdate
    cases status with
    | succeeded => rfl
    | inProgress => simp [Call.publishesSucceeded] at hpublishes
    | failed => simp [Call.publishesSucceeded] at hpublishes
  · rintro rfl
    refine ⟨_, rfl, ?_⟩
    exact ⟨_, List.mem_cons_of_mem _ (List.mem_cons_of_mem _ List.mem_cons_self), rfl⟩

/-- The `updatedBy` value of a document that has one is the one that is read. -/
theorem updatedByNumber_newJobParsed {place : ℕ × ℕ}
    (h : L.jsonSearchUpdatedBy s.jobDocument = some place) :
    updatedByNumber (newJobParsed L s).1 = strtoul (s.read (.jobDoc place.1) place.2) := by
  have hdetails : (newJobParsed L s).1.jobStatusDetails =
      { updatedBy := .jobDoc place.1, updatedByLen := place.2 } := by
    show populateJobStatusDetailsFields L s.jobDocument s.jobStatusDetails = _
    rw [populateJobStatusDetailsFields, h]
  rw [updatedByNumber, hdetails]
  rfl

/-- In pending commit state the file path names a component. -/
theorem component_of_pendingCommit (h : otaPalGetPlatformImageState r s = .pendingCommit) :
    ∃ component, portConvertFilePathtoPSAComponentID s = some component := by
  unfold otaPalGetPlatformImageState at h
  cases hcomponent : portConvertFilePathtoPSAComponentID s with
  | none => simp [hcomponent] at h
  | some component => exact ⟨component, rfl⟩

/-- The version can be read iff the query succeeds. -/
theorem version_isSome_iff (h : otaPalGetPlatformImageState r s = .pendingCommit) :
    (∃ version, otaPalGetPlatformImageVersion r s = some version) ↔ r.psaFwuQuery = psaSuccess := by
  obtain ⟨component, hcomponent⟩ := component_of_pendingCommit h
  by_cases hquery : r.psaFwuQuery = psaSuccess
  · simp [otaPalGetPlatformImageVersion, hcomponent, hquery]
  · simp [otaPalGetPlatformImageVersion, hcomponent, hquery]

/-- The image can be accepted iff no file has been created since boot and both
    calls succeed. -/
theorem accepted_iff (h : otaPalGetPlatformImageState r s = .pendingCommit) :
    (otaPalSetPlatformImageState r s .accepted).2 = true ↔
      s.pxSystemContext = false ∧ r.psaFwuAccept = psaSuccess ∧ r.psaFwuClean = psaSuccess := by
  obtain ⟨component, hcomponent⟩ := component_of_pendingCommit h
  show setPlatformImageStateResult r s .accepted = true ↔ _
  cases hcontext : s.pxSystemContext with
  | true => simp [setPlatformImageStateResult, hcontext]
  | false => simp [setPlatformImageStateResult, hcontext, hcomponent]

/-- The grounds for a success report, call by call. -/
theorem successGrounds_iff
    (h : otaPalGetPlatformImageState r (newJobParsed L s).1 = .pendingCommit) :
    SuccessGrounds L r s ↔ SelfTestCallsSucceed L r s := by
  have hversion := version_isSome_iff h
  have haccepted := accepted_iff h
  constructor
  · rintro ⟨⟨place, version, hplace, hread, hless⟩, haccept⟩
    obtain ⟨hcontext, haccept, hclean⟩ := haccepted.mp haccept
    refine ⟨by simp [hplace], hversion.mp ⟨version, hread⟩, ?_, hcontext, haccept, hclean⟩
    rw [updatedByNumber_newJobParsed hplace, versionRead, hread]
    exact hless
  · rintro ⟨hplace, hquery, hless, hcontext, haccept, hclean⟩
    obtain ⟨place, hplace⟩ := Option.ne_none_iff_exists'.mp hplace
    obtain ⟨version, hread⟩ := hversion.mpr hquery
    refine ⟨⟨place, version, hplace, hread, ?_⟩, haccepted.mpr ⟨hcontext, haccept, hclean⟩⟩
    rw [updatedByNumber_newJobParsed hplace, versionRead, hread] at hless
    exact hless

end SelfTest

/-! ## Runs -/

/-- **What one step reports.** -/
theorem successSound_iff (L : Libraries) (σ : OtaSystem) (a : Action) :
    SuccessSound L σ a ↔ SuccessCondition L σ a := by
  rcases selfTests_or_noSelfTest L σ a with ⟨r, rfl, hself⟩ | hnot
  · have hcondition : SuccessCondition L σ (.processEvent r) ↔
        ((updatedByVer (newJobParsed L σ.agent).1).toNat <
          (versionRead r (newJobParsed L σ.agent).1).unsignedVersion32.toNat →
            SuccessGrounds L r σ.agent) := by
      rw [successGrounds_iff hself.2.2.2]
      exact forall_prop_of_true hself
    rw [hcondition, SuccessSound, publishesSucceeded_iff hself]
    refine imp_congr_right fun _ => ?_
    constructor
    · rintro ⟨r', hr, -, hgrounds⟩
      obtain rfl : r = r' := Action.processEvent.inj hr
      exact hgrounds
    · exact fun hgrounds => ⟨r, rfl, hself.1.1, hgrounds⟩
  · apply iff_of_true
    · exact fun hpublishes => absurd hpublishes (not_publishesSucceeded (step_givesNoVerdict hnot))
    · cases a with
      | processEvent r => exact fun h => absurd h hnot
      | _ => trivial

/-- **Success reports.** Every `Succeeded` of a run has its grounds iff no call
    fails in a self test of the run whose numbers compare. -/
theorem successReport_iff (L : Libraries) (as : List Action) :
    Along (step L) (SuccessSound L) (.boot L) as ↔
      Along (step L) (SuccessCondition L) (.boot L) as :=
  along_congr (I := fun _ => True) (fun _ _ _ _ => trivial)
    (fun σ a _ => successSound_iff L σ a) trivial as

/-- A device boots a new image and receives its job with the status details. -/
def jobAfterBoot (details : Bytes) : List Action :=
  [.receiveEvent, .processEvent {},
    .jobMessage startNextAcceptedTopic (startNextAccepted (ascii "A") details 3 (ascii "MEUC")),
    .receiveEvent]

set_option maxRecDepth 20000 in
/-- Version 0.0.8 reports success after 0.0.7 although `psa_fwu_accept` fails,
    and without an `updatedBy` value in the document. -/
theorem not_successReport_acceptFails :
    (¬ Along (step jsonDevice) (SuccessSound jsonDevice) (.boot jsonDevice)
        (jobAfterBoot (statusDetails (ascii "7")) ++
          [.processEvent { runs ⟨0, 0, 8⟩ with psaFwuAccept := -137 }])) ∧
      ¬ Along (step jsonDevice) (SuccessSound jsonDevice) (.boot jsonDevice)
        (jobAfterBoot [] ++ [.processEvent (runs ⟨0, 0, 8⟩)]) := by
  constructor
  · intro h
    have hlast := (successSound_iff _ _ _).mp ((along_append _ _ _).mp h).2.1
    have haccept := (hlast (by decide) (by decide)).accept
    exact absurd haccept (by decide)
  · intro h
    have hlast := (successSound_iff _ _ _).mp ((along_append _ _ _).mp h).2.1
    have hupdatedBy := (hlast (by decide) (by decide)).updatedBy
    exact absurd hupdatedBy (by decide)

end Corstone.Ota
