import Corstone.Ota.EventCalls
import Corstone.Ota.JobHistory
import Corstone.Ota.JsonDevice

/-!
# Job identity

A job document belongs to the job in progress iff it has the id of this job,
and `globalJobId` holds the id of the job in progress. `strncmp` over the length
of the new id takes a prefix for the same id, and `memcpy` copies no NUL, so
that the end of a longer id stays behind a shorter one.

* `jobIdentity_iff`: along which runs the jobs are told apart, ids are stored
  and published as they came.
* `not_jobIdentity_prefix`: the job `A` is taken for the job `AB`.
-/

namespace Corstone.Ota

open Corstone.Lib

/-! ## The property -/

/-- The buffer of `globalJobId` holds exactly this id with its NUL, and has
    kept its size. -/
def HoldsJobId (buffer jobId : Bytes) : Prop :=
  jobId <+: buffer ∧ buffer[jobId.length]? = some 0 ∧ buffer.length = maxJobIdLength

/-- The document is taken for the job in progress iff it has its id; the id of
    a new job is stored as it is. -/
def TreatsJobId (L : Libraries) (s : OtaAgent) : Prop :=
  s.jobId L ≠ [] →
    (SameJob L s ↔ jobInProgress s.log = some (s.jobId L)) ∧
      (NewJob L s → HoldsJobId (newJobParsed L s).1.globalJobId (s.jobId L))

instance (buffer jobId : Bytes) : Decidable (HoldsJobId buffer jobId) :=
  inferInstanceAs (Decidable (_ ∧ _))

instance (L : Libraries) (s : OtaAgent) : Decidable (TreatsJobId L s) :=
  inferInstanceAs (Decidable (_ → _))

/-- Every job document is treated by its id. -/
def JobIdentity (L : Libraries) (σ : OtaSystem) : Action → Prop
  | .processEvent _ => σ.HandlesJobDocument → TreatsJobId L σ.agent
  | _ => True

instance (L : Libraries) (σ : OtaSystem) (a : Action) : Decidable (JobIdentity L σ a) :=
  match a with
  | .processEvent _ => inferInstanceAs (Decidable (σ.HandlesJobDocument → TreatsJobId L σ.agent))
  | .receiveEvent | .sendEvent | .jobMessage _ _ | .dataMessage _ _ | .otaDemoTask _
  | .otaAgentShutdown => isTrue trivial

/-- The id in the topic of a status update. -/
def Call.publishedJobId : Call → Option Bytes
  | .jobsUpdate jobId _ _ _ _ => some jobId
  | _ => none

/-- A status update for the job in progress has the id of this job. -/
def PublishesOwnJobId (log : List Call) (c : Call) : Prop :=
  ∀ jobId ∈ c.publishedJobId, ∀ job ∈ jobInProgress log, jobId = job

/-! ## The condition -/

/-- The id is not a proper prefix of that of the job in progress. If it is
    another id, it leaves room for its NUL, and the NUL is already there. -/
def JobIdFits (L : Libraries) (s : OtaAgent) : Prop :=
  s.jobId L ≠ [] →
    (∀ job ∈ jobInProgress s.log, s.jobId L <+: job → s.jobId L = job) ∧
      (jobInProgress s.log ≠ some (s.jobId L) →
        (s.jobId L).length < maxJobIdLength ∧ s.globalJobId.getD (s.jobId L).length 0 = 0)

instance (L : Libraries) (s : OtaAgent) : Decidable (JobIdFits L s) :=
  inferInstanceAs (Decidable (s.jobId L ≠ [] →
    (∀ job ∈ jobInProgress s.log, s.jobId L <+: job → s.jobId L = job) ∧
      (jobInProgress s.log ≠ some (s.jobId L) →
        (s.jobId L).length < maxJobIdLength ∧ s.globalJobId.getD (s.jobId L).length 0 = 0)))

/-- The id of every job document fits. -/
def JobIdCondition (L : Libraries) (σ : OtaSystem) : Action → Prop
  | .processEvent _ => σ.HandlesJobDocument → JobIdFits L σ.agent
  | _ => True

instance (L : Libraries) (σ : OtaSystem) (a : Action) : Decidable (JobIdCondition L σ a) :=
  match a with
  | .processEvent _ => inferInstanceAs (Decidable (σ.HandlesJobDocument → JobIdFits L σ.agent))
  | .receiveEvent | .sendEvent | .jobMessage _ _ | .dataMessage _ _ | .otaDemoTask _
  | .otaAgentShutdown => isTrue trivial

/-! ## The invariant -/

/-- `globalJobId` holds the id of the job in progress. -/
structure JobIdInvariant (s : OtaAgent) : Prop where
  length : s.globalJobId.length = maxJobIdLength
  held : cstr s.globalJobId = (jobInProgress s.log).getD []
  own : Always PublishesOwnJobId s.log

section Treats

variable {L : Libraries} {s : OtaAgent} (h : JobIdInvariant s)
include h

/-- The document is taken for the job in progress iff its id is a prefix. -/
theorem sameJob_iff_prefix (hjson : 0 ∉ s.jobId L) (hid : s.jobId L ≠ []) :
    SameJob L s ↔ ∃ job ∈ jobInProgress s.log, s.jobId L <+: job := by
  rw [SameJob, strncmp_eq_zero_iff_prefix _ hjson, ← prefix_cstr_iff _ hjson, h.held]
  cases hjob : jobInProgress s.log with
  | none => simp
  | some job => simp [hid]

/-- The id of another job is stored as it is iff there is a NUL behind it. -/
theorem holdsJobId_iff :
    HoldsJobId (newJobParsed L s).1.globalJobId (s.jobId L) ↔
      (s.jobId L).length < maxJobIdLength ∧ s.globalJobId.getD (s.jobId L).length 0 = 0 := by
  have hlength := h.length
  rw [HoldsJobId, newJobParsed_globalJobId, getElem?_memcpy_length, length_memcpy, hlength]
  constructor
  · rintro ⟨-, hnul, -⟩
    obtain ⟨hlt, hget⟩ := List.getElem?_eq_some_iff.mp hnul
    refine ⟨by omega, ?_⟩
    rw [List.getD_eq_getElem?_getD, hnul, Option.getD_some]
  · rintro ⟨hlt, hnul⟩
    have hget := List.getElem?_eq_getElem (l := s.globalJobId) (i := (s.jobId L).length) (by omega)
    refine ⟨prefix_memcpy _ _, ?_, by omega⟩
    rw [List.getD_eq_getElem?_getD, hget, Option.getD_some] at hnul
    rw [hget, hnul]

/-- A job document is treated by its id iff this id fits. -/
theorem treatsJobId_iff (hjson : 0 ∉ s.jobId L) : TreatsJobId L s ↔ JobIdFits L s := by
  refine forall_congr' fun hid => ?_
  rw [holdsJobId_iff h, sameJob_iff_prefix h hjson hid]
  have hnew : NewJob L s ↔ ¬ ∃ job ∈ jobInProgress s.log, s.jobId L <+: job := by
    rw [← sameJob_iff_prefix h hjson hid]
    simp [NewJob, SameJob, hid]
  rw [hnew]
  cases hjob : jobInProgress s.log with
  | none => simp
  | some job =>
    have hswap : job = s.jobId L ↔ s.jobId L = job := eq_comm
    by_cases hstarts : s.jobId L <+: job
    · simp only [Option.mem_def, Option.some.injEq, exists_eq_left', hstarts, true_iff,
        not_true_eq_false, false_implies, and_true, forall_eq', hswap, ne_eq]
      constructor
      · intro heq
        exact ⟨fun _ => heq, fun hne => absurd heq hne⟩
      · intro hfits
        exact hfits.1 trivial
    · have hne : s.jobId L ≠ job := by
        rintro heq
        exact hstarts (heq ▸ List.prefix_rfl)
      simp [hstarts, hne, hswap]

/-- What leaves the job alone keeps the invariant. -/
theorem JobIdInvariant.frame {t : OtaAgent} (hframe : JobFrame s t) : JobIdInvariant t where
  length := by rw [hframe.globalJobId, h.length]
  held := by rw [hframe.globalJobId, hframe.jobInProgress, h.held]
  own := by
    have hlog : Always PublishesOwnJobId t.log ∧ jobInProgress t.log = jobInProgress s.log := by
      refine hframe.log.induct (I := fun log =>
        Always PublishesOwnJobId log ∧ jobInProgress log = jobInProgress s.log) ?_ ⟨h.own, rfl⟩
      rintro c log hc ⟨hown, hjob⟩
      refine ⟨⟨?_, hown⟩, ?_⟩
      · intro jobId hpublished job hin
        have hheld := h.held
        rw [← hjob, hin, Option.getD_some] at hheld
        cases c with
        | jobsUpdate publishedJobId status =>
          obtain rfl : publishedJobId = jobId := Option.some.inj hpublished
          cases status with
          | inProgress =>
            have heq : publishedJobId = cstr s.globalJobId := by simpa [Call.keepsJob] using hc
            rw [heq, hheld]
          | failed => simp [Call.keepsJob] at hc
          | succeeded => simp [Call.keepsJob] at hc
        | _ => simp [Call.publishedJobId] at hpublished
      · rw [jobInProgress_cons_of_neutral log (jobNeutral_of_keepsJob hc), hjob]
    exact hlog.1

/-- A new job whose id fits is stored as it came. -/
theorem JobIdInvariant.newJob (hjson : 0 ∉ s.jobId L)
    (hholds : HoldsJobId (newJobParsed L s).1.globalJobId (s.jobId L)) :
    JobIdInvariant (newJobParsed L s).1 where
  length := hholds.2.2
  held := by
    have hnul := ((holdsJobId_iff h).mp hholds).2
    rw [newJobParsed_globalJobId, (cstr_memcpy_eq_iff _ hjson).mpr hnul, newJobParsed_log,
      jobInProgress_cons_of_neutral _ rfl, jobInProgress_jobIdRecorded, Option.getD_some]
  own := by
    rw [newJobParsed_log]
    refine ⟨?_, ?_, h.own⟩
    · intro jobId hpublished
      simp [Call.publishedJobId] at hpublished
    · intro jobId hpublished
      simp [Call.publishedJobId] at hpublished

/-- The final status is published for the job in progress and ends it. -/
theorem JobIdInvariant.finalStatus (r : Results) {status : JobCurrentStatus}
    (hstatus : status ≠ .inProgress) : JobIdInvariant (sendFinalJobStatusMessage r s status) where
  length := by
    rw [sendFinalJobStatusMessage_globalJobId, List.length_set]
    exact h.length
  held := by
    have hlength := h.length
    have hempty : cstr (s.globalJobId.set 0 0) = [] := by
      cases hbuffer : s.globalJobId with
      | nil => rfl
      | cons b buffer => exact cstr_zero_cons buffer
    rw [sendFinalJobStatusMessage_globalJobId, hempty, jobInProgress_finalStatus r s hstatus]
    rfl
  own := by
    rw [sendFinalJobStatusMessage_log]
    refine ⟨?_, h.own⟩
    intro jobId hpublished job hin
    obtain rfl : cstr s.globalJobId = jobId := Option.some.inj hpublished
    rw [h.held, hin, Option.getD_some]

end Treats

section Runs

variable {L : Libraries}

/-- The verdict on an image leaves the job alone. -/
theorem otaPalSetPlatformImageState_jobFrame (r : Results) (s : OtaAgent) (eState : OtaImageState) :
    JobFrame s (otaPalSetPlatformImageState r s eState).1 :=
  ⟨rfl, (Extends.refl _ _).cons rfl⟩

/-- The `switch` keeps the invariant when the id of a job document fits. -/
theorem JobIdInvariant.process {r : Results} {s : OtaAgent} {event : OtaEventMsg}
    (h : JobIdInvariant s) (hjson : 0 ∉ s.jobId L)
    (hfits : event = .receivedJobDocument → s.otaAgentState ≠ .suspended →
      s.otaAgentState ≠ .stopped → JobIdFits L s) :
    JobIdInvariant (processOTAEvents L r s event).1 := by
  by_cases hevent : event = .receivedJobDocument ∧ s.otaAgentState ≠ .suspended ∧
      s.otaAgentState ≠ .stopped
  · obtain ⟨rfl, hsuspended, hstopped⟩ := hevent
    have htreats := (treatsJobId_iff h hjson).mpr (hfits rfl hsuspended hstopped)
    have hnew : NewJob L s → JobIdInvariant (newJobParsed L s).1 :=
      fun hid => h.newJob hjson ((htreats hid.1).2 hid)
    have hjob := processOTAEvents_jobChange L r s .receivedJobDocument
    generalize (processOTAEvents L r s .receivedJobDocument).1 = t at hjob ⊢
    cases hjob with
    | kept hframe => exact h.frame hframe
    | new hid hframe => exact (hnew hid).frame hframe
    | @verdict eState status hid hstatus hframe =>
      have hverdict := (hnew hid).frame (otaPalSetPlatformImageState_jobFrame r _ eState)
      exact (hverdict.finalStatus r hstatus).frame hframe
  · refine h.frame ?_
    by_cases hjob : event = .receivedJobDocument
    · subst hjob
      rw [receivedJobDocument_dropped L r fun hrun => hevent ⟨rfl, hrun⟩]
      exact JobFrame.refl s
    · exact processOTAEvents_jobFrame L r s hjob

/-- Every step in which the id of a job document fits keeps the invariant. -/
theorem JobIdInvariant.step (hjson : ∀ m, 0 ∉ L.jobsGetJobId m) {σ : OtaSystem} (a : Action)
    (h : JobIdInvariant σ.agent) (hcond : JobIdCondition L σ a) :
    JobIdInvariant (step L σ a).agent := by
  apply step_agent_cases σ a
  · intro _ _
    exact h.frame ⟨rfl, .refl _ _⟩
  · intro event sent
    exact h.frame ⟨rfl, (Extends.refl _ _).cons rfl⟩
  · rintro r event rfl hevent
    refine h.process (hjson _) fun hjob hsuspended hstopped => ?_
    rw [hjob] at hevent
    exact hcond ⟨hevent, hsuspended, hstopped⟩

theorem jobIdInvariant_boot (L : Libraries) : JobIdInvariant (.boot L) := by
  refine ⟨by simp [OtaAgent.boot], ?_, trivial⟩
  simp [OtaAgent.boot, cstr, jobInProgress]

/-- **Job identity.** Along a run every job document is treated by its id, and
    every status update carries the id of its job, iff along this run every id
    fits. The ids have no NUL, because they are read from JSON strings. -/
theorem jobIdentity_iff (hjson : ∀ m, 0 ∉ L.jobsGetJobId m) (as : List Action) :
    Along (step L) (JobIdentity L) (.boot L) as ∧
        Always PublishesOwnJobId (run (step L) (.boot L) as).agent.log ↔
      Along (step L) (JobIdCondition L) (.boot L) as := by
  have hkeep : ∀ (σ : OtaSystem) (a : Action), JobIdInvariant σ.agent → JobIdCondition L σ a →
      JobIdInvariant (step L σ a).agent := fun _ a h hcond => h.step hjson a hcond
  have hiff : ∀ (σ : OtaSystem) (a : Action), JobIdInvariant σ.agent →
      (JobIdentity L σ a ↔ JobIdCondition L σ a) := by
    intro σ a h
    cases a with
    | processEvent r => exact forall_congr' fun _ => treatsJobId_iff h (hjson _)
    | _ => exact Iff.rfl
  rw [along_congr (I := fun σ : OtaSystem => JobIdInvariant σ.agent) hkeep hiff
    (jobIdInvariant_boot L)]
  refine and_iff_left_of_imp fun hcond => ?_
  exact (Along.inv (I := fun σ : OtaSystem => JobIdInvariant σ.agent) hkeep
    (jobIdInvariant_boot L) hcond).own

end Runs

/-! ## Two jobs -/

/-- A job, its first block request, and the document of another job. -/
def twoJobs (jobId jobId' : Bytes) : List Action :=
  [.jobMessage startNextAcceptedTopic (startNextAccepted jobId [] 3 (ascii "MEUC")),
    .receiveEvent, .processEvent {}, .receiveEvent, .processEvent {}, .sendEvent,
    .receiveEvent, .processEvent {},
    .jobMessage startNextAcceptedTopic (startNextAccepted jobId' [] 3 (ascii "MEUC")),
    .receiveEvent, .processEvent {}]

set_option maxRecDepth 20000 in
/-- The jobs `A` and `BC` are told apart. -/
theorem jobIdentity_twoJobs :
    Along (step jsonDevice) (JobIdentity jsonDevice) (.boot jsonDevice)
        (twoJobs (ascii "A") (ascii "BC")) ∧
      Always PublishesOwnJobId
        (run (step jsonDevice) (.boot jsonDevice) (twoJobs (ascii "A") (ascii "BC"))).agent.log :=
  (jobIdentity_iff jobsGetJobId_noNul (twoJobs (ascii "A") (ascii "BC"))).mpr (by decide)

set_option maxRecDepth 20000 in
/-- The job `A` is taken for the job `AB`. -/
theorem not_jobIdentity_prefix :
    ¬ Along (step jsonDevice) (JobIdentity jsonDevice) (.boot jsonDevice)
      (twoJobs (ascii "AB") (ascii "A")) := by
  decide

end Corstone.Ota
