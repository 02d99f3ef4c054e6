import Corstone.Ota.JobHistory
import Corstone.Ota.JsonDevice

/-!
# Redelivery of the job in progress

While a file of a job is being downloaded, the document of this job may arrive
again: `Resume` asks for it. The download should not notice.
`receivedJobDocumentHandler` clears `jobFields` before it looks at the id of the
job, so that the signature, the path and the size are gone when the file is
closed. The block counters stay.

* `redeliveredJob_unchanged_iff`: nothing changes iff the document is dropped or
  `jobFields` has been cleared before.
* `not_redeliveredJob_unchanged`: a second document clears `jobFields`.
-/

namespace Corstone.Ota

open Corstone.Lib

/-! ## The id of the job in progress -/

/-- The id of the job in progress is at the start of `globalJobId`. -/
def JobIdRecorded (s : OtaAgent) : Prop := ∀ job ∈ jobInProgress s.log, job <+: s.globalJobId

theorem JobIdRecorded.frame {s t : OtaAgent} (h : JobIdRecorded s) (hframe : JobFrame s t) :
    JobIdRecorded t := by
  intro job hjob
  rw [hframe.jobInProgress] at hjob
  rw [hframe.globalJobId]
  exact h job hjob

theorem jobIdRecorded_newJob (L : Libraries) (s : OtaAgent) :
    JobIdRecorded (newJobParsed L s).1 := by
  intro job hjob
  have hin : jobInProgress (newJobParsed L s).1.log = some (s.jobId L) := rfl
  rw [hin] at hjob
  obtain rfl := Option.some.inj hjob
  exact prefix_memcpy _ _

theorem jobIdRecorded_finalStatus (r : Results) (s : OtaAgent) {status : JobCurrentStatus}
    (hstatus : status ≠ .inProgress) : JobIdRecorded (sendFinalJobStatusMessage r s status) := by
  intro job hjob
  rw [jobInProgress_finalStatus r s hstatus] at hjob
  simp at hjob

/-- In every state of every run the id of the job in progress is recorded. -/
theorem jobIdRecorded_run (L : Libraries) (as : List Action) :
    JobIdRecorded (run (step L) (.boot L) as).agent := by
  refine run_agent_inv ?_ ?_ ?_ ?_ as
  · intro s job data h
    exact h
  · intro s event sent h
    exact h.frame ⟨rfl, (Extends.refl _ _).cons rfl⟩
  · intro r s event h
    have hjob := processOTAEvents_jobChange L r s event
    generalize (processOTAEvents L r s event).1 = t at hjob ⊢
    cases hjob with
    | kept hframe => exact h.frame hframe
    | new hid hframe => exact (jobIdRecorded_newJob L s).frame hframe
    | verdict hid hstatus hframe => exact (jobIdRecorded_finalStatus r _ hstatus).frame hframe
  · intro job hjob
    simp [OtaSystem.boot, OtaAgent.boot, jobInProgress] at hjob

/-! ## The redelivered document -/

/-- The fields that the rest of the download uses are the same. -/
def DownloadUnchanged (s t : OtaAgent) : Prop :=
  t.jobFields = s.jobFields ∧
    t.download.numOfBlocksRemaining = s.download.numOfBlocksRemaining ∧
    t.download.currentBlockOffset = s.download.currentBlockOffset ∧
    t.download.totalBytesReceived = s.download.totalBytesReceived

/-- A document whose id is recorded only clears `jobFields`. -/
theorem processOTAEvents_recordedJob (L : Libraries) (r : Results) {s : OtaAgent}
    (hid : s.jobId L <+: s.globalJobId) (hsuspended : s.otaAgentState ≠ .suspended)
    (hstopped : s.otaAgentState ≠ .stopped) :
    ∃ result, processOTAEvents L r s .receivedJobDocument =
      jobDocumentProcessed (clearJobFields s) result := by
  have hcmp : ¬ strncmp s.globalJobId (s.jobId L) (s.jobId L).length ≠ 0 :=
    not_not.mpr (strncmp_prefix_eq_zero hid)
  have hhandler : ∃ result, receivedJobDocumentHandler L r s = (clearJobFields s, result) := by
    rw [receivedJobDocumentHandler_eq, if_neg hcmp]
    split_ifs
    · exact ⟨_, rfl⟩
    · exact ⟨_, rfl⟩
  obtain ⟨result, hresult⟩ := hhandler
  refine ⟨result, ?_⟩
  simp only [processOTAEvents, hsuspended, hstopped, if_false, hresult]

/-- The reaction to the outcome leaves the download alone. -/
theorem downloadUnchanged_jobDocumentProcessed (s : OtaAgent)
    (result : OtaPalJobDocProcessingResult) :
    DownloadUnchanged s (jobDocumentProcessed s result).1 := by
  cases result <;> exact ⟨rfl, rfl, rfl, rfl⟩

/-- **Redelivery.** In every reachable state in which the document of the job in
    progress is handled, whether its file is open or not, the event leaves the
    download as it is iff the agent drops the document, being suspended or
    stopped, or `jobFields` is already cleared. -/
theorem redeliveredJob_unchanged_iff (L : Libraries) (as : List Action) (r : Results)
    {σ : OtaSystem} (hσ : σ = run (step L) (.boot L) as) {job : Bytes}
    (hevent : σ.task = .processing .receivedJobDocument) (hid : σ.agent.jobId L = job)
    (hjob : jobInProgress σ.agent.log = some job) :
    DownloadUnchanged σ.agent (step L σ (.processEvent r)).agent ↔
      σ.agent.otaAgentState = .suspended ∨ σ.agent.otaAgentState = .stopped ∨
        σ.agent.jobFields = {} := by
  have hrecorded : σ.agent.jobId L <+: σ.agent.globalJobId := by
    rw [hid]
    exact (hσ ▸ jobIdRecorded_run L as) job hjob
  have hagent : (step L σ (.processEvent r)).agent =
      (processOTAEvents L r σ.agent .receivedJobDocument).1 := by
    simp only [step, hevent]
    rfl
  rw [hagent]
  by_cases hrun : σ.agent.otaAgentState ≠ .suspended ∧ σ.agent.otaAgentState ≠ .stopped
  · obtain ⟨hsuspended, hstopped⟩ := hrun
    obtain ⟨result, heq⟩ := processOTAEvents_recordedJob L r hrecorded hsuspended hstopped
    obtain ⟨hfields, hremaining, hoffset, htotal⟩ :=
      downloadUnchanged_jobDocumentProcessed (clearJobFields σ.agent) result
    rw [heq]
    constructor
    · intro hsame
      right
      right
      rw [← hsame.1, hfields, clearJobFields_jobFields]
    · rintro (h | h | hcleared)
      · exact absurd h hsuspended
      · exact absurd h hstopped
      · refine ⟨?_, hremaining, hoffset, htotal⟩
        rw [hfields, clearJobFields_jobFields, hcleared]
  · rw [receivedJobDocument_dropped L r hrun]
    refine iff_of_true ⟨rfl, rfl, rfl, rfl⟩ ?_
    rcases not_and_or.mp hrun with hsuspended | hstopped
    · exact Or.inl (not_not.mp hsuspended)
    · exact Or.inr (Or.inl (not_not.mp hstopped))

/-! ## A redelivery -/

/-- The document of job `A`, its first block request, and the document again. -/
def redelivered : List Action :=
  [.jobMessage startNextAcceptedTopic (startNextAccepted (ascii "A") [] 3 (ascii "MEUC")),
    .receiveEvent, .processEvent {}, .receiveEvent, .processEvent {}, .sendEvent,
    .receiveEvent, .processEvent {},
    .jobMessage startNextAcceptedTopic (startNextAccepted (ascii "A") [] 3 (ascii "MEUC")),
    .receiveEvent]

/-- The same, but the connection is lost before the document comes again. -/
def redeliveredSuspended : List Action :=
  redelivered.take 8 ++ [.otaDemoTask false, .receiveEvent, .processEvent {}] ++ redelivered.drop 8

set_option maxRecDepth 20000 in
/-- A suspended agent drops the document. -/
theorem redeliveredJob_suspended :
    DownloadUnchanged (run (step jsonDevice) (.boot jsonDevice) redeliveredSuspended).agent
      (step jsonDevice (run (step jsonDevice) (.boot jsonDevice) redeliveredSuspended)
        (.processEvent {})).agent :=
  (@redeliveredJob_unchanged_iff jsonDevice redeliveredSuspended {} _ rfl (ascii "A")
    (by decide) (by decide) (by decide)).mpr (Or.inl (by decide))

set_option maxRecDepth 20000 in
/-- While the file of job `A` is open, its document clears `jobFields`. -/
theorem not_redeliveredJob_unchanged :
    openFile (run (step jsonDevice) (.boot jsonDevice) redelivered).agent.log =
        some (ascii "A") ∧
      (run (step jsonDevice) (.boot jsonDevice) redelivered).agent.jobId jsonDevice = ascii "A" ∧
      ¬ DownloadUnchanged (run (step jsonDevice) (.boot jsonDevice) redelivered).agent
        (step jsonDevice (run (step jsonDevice) (.boot jsonDevice) redelivered)
          (.processEvent {})).agent :=
  ⟨by decide, by decide, fun h => absurd h.1 (by decide)⟩

end Corstone.Ota
