import Corstone.Lib.History
import Corstone.Ota.EventLoop

/-!
# Jobs and files in the history

The job in progress and the open file, read off the history of the calls. A
job begins when its id is recorded and ends with its final status. A file is
open from the `otaPal_CreateFileForRx` that creates it to the next
`otaPal_CloseFile`, and belongs to the job in progress when it is created.

* `processOTAEvents_jobFrame`: only a job document changes the job.
* `JobDocumentOutcome.job`: what a job document does to the job.
-/

namespace Corstone.Ota

open Corstone.Lib

/-! ## The job in progress -/

/-- What the call does to the job in progress: it begins the job of an id, ends
    the job, or does nothing to it. -/
def Call.jobChange : Call → Option (Option Bytes)
  | .jobIdRecorded jobId => some (some jobId)
  | .jobsUpdate _ .succeeded _ _ _ => some none
  | .jobsUpdate _ .failed _ _ _ => some none
  | _ => none

/-- The id of the job in progress. -/
def jobInProgress (log : List Call) : Option Bytes := (log.findSome? Call.jobChange).join

/-- The call has no part in the history of the jobs. -/
def Call.jobNeutral (c : Call) : Bool := c.jobChange.isNone

@[simp] theorem jobInProgress_nil : jobInProgress [] = none := rfl

@[simp] theorem jobInProgress_jobIdRecorded (jobId : Bytes) (log : List Call) :
    jobInProgress (.jobIdRecorded jobId :: log) = some jobId := rfl

theorem jobInProgress_cons_of_neutral {c : Call} (log : List Call) (hc : c.jobNeutral = true) :
    jobInProgress (c :: log) = jobInProgress log := by
  simp only [Call.jobNeutral, Option.isNone_iff_eq_none] at hc
  simp [jobInProgress, hc]

theorem jobInProgress_extends {log log' : List Call} (h : Extends Call.jobNeutral log log') :
    jobInProgress log' = jobInProgress log :=
  h.eq fun _ _ hc => jobInProgress_cons_of_neutral _ hc

/-! ## The open file -/

/-- The call creates a file. -/
def Call.createsFile : Call → Bool
  | .otaPalCreateFileForRx .fileCreated => true
  | _ => false

/-- The call closes the file. -/
def Call.closesFile : Call → Bool
  | .otaPalCloseFile _ _ => true
  | _ => false

/-- The id of the job whose file is open. -/
def openFile : List Call → Option Bytes
  | [] => none
  | c :: log =>
    if c.createsFile then jobInProgress log else if c.closesFile then none else openFile log

/-- The call neither creates nor closes a file. -/
def Call.fileNeutral (c : Call) : Bool := !(c.createsFile || c.closesFile)

theorem openFile_cons_of_neutral {c : Call} (log : List Call) (hc : c.fileNeutral = true) :
    openFile (c :: log) = openFile log := by
  simp only [Call.fileNeutral, Bool.not_eq_true', Bool.or_eq_false_iff] at hc
  simp [openFile, hc]

theorem openFile_extends {log log' : List Call} (h : Extends Call.fileNeutral log log') :
    openFile log' = openFile log :=
  h.eq fun _ _ hc => openFile_cons_of_neutral _ hc

@[simp] theorem openFile_fileCreated (log : List Call) :
    openFile (.otaPalCreateFileForRx .fileCreated :: log) = jobInProgress log := rfl

/-! ## Events -/

/-- The call neither begins nor ends a job, and publishes under no other id. -/
def Call.keepsJob (jobId : Bytes) : Call → Bool
  | .jobIdRecorded _ => false
  | .jobsUpdate publishedJobId .inProgress _ _ _ => publishedJobId == jobId
  | .jobsUpdate _ _ _ _ _ => false
  | _ => true

theorem jobNeutral_of_keepsJob {jobId : Bytes} {c : Call} (hc : c.keepsJob jobId = true) :
    c.jobNeutral = true := by
  cases c with
  | jobIdRecorded => simp [Call.keepsJob] at hc
  | jobsUpdate publishedJobId status =>
    cases status with
    | inProgress => rfl
    | failed => simp [Call.keepsJob] at hc
    | succeeded => simp [Call.keepsJob] at hc
  | _ => rfl

/-- The job is left alone. -/
structure JobFrame (s t : OtaAgent) : Prop where
  globalJobId : t.globalJobId = s.globalJobId
  log : Extends (Call.keepsJob (cstr s.globalJobId)) s.log t.log

theorem JobFrame.jobInProgress {s t : OtaAgent} (h : JobFrame s t) :
    jobInProgress t.log = Ota.jobInProgress s.log :=
  jobInProgress_extends (h.log.mono fun _ => jobNeutral_of_keepsJob)

theorem JobFrame.trans {s t u : OtaAgent} (h : JobFrame s t) (h' : JobFrame t u) :
    JobFrame s u where
  globalJobId := h'.globalJobId.trans h.globalJobId
  log := by
    have hlog := h'.log
    rw [h.globalJobId] at hlog
    exact h.log.trans hlog

section Events

variable (L : Libraries) (r : Results) (s : OtaAgent)

/-- The final status ends the job. -/
theorem jobInProgress_finalStatus {status : JobCurrentStatus} (hstatus : status ≠ .inProgress) :
    jobInProgress (sendFinalJobStatusMessage r s status).log = none := by
  cases status with
  | inProgress => exact absurd rfl hstatus
  | failed => rfl
  | succeeded => rfl

theorem sendStatusDetailsMessage_jobFrame : JobFrame s (sendStatusDetailsMessage r s) := by
  refine ⟨rfl, ?_⟩
  rw [sendStatusDetailsMessage_log]
  exact (Extends.refl _ _).cons (by simp [Call.keepsJob])

/-- **Only a job document changes the job.** -/
theorem processOTAEvents_jobFrame {event : OtaEventMsg} (hevent : event ≠ .receivedJobDocument) :
    JobFrame s (processOTAEvents L r s event).1 := by
  have hbase := Extends.refl (Call.keepsJob (cstr s.globalJobId)) s.log
  cases event with
  | receivedJobDocument => exact absurd rfl hevent
  | requestJobDocument => exact ⟨rfl, hbase.cons rfl⟩
  | requestFileBlock => exact ⟨rfl, hbase.cons rfl⟩
  | receivedFileBlock i =>
    rcases processOTAEvents_receivedFileBlock L r s i with heq | ⟨-, -, heq⟩
    · rw [heq]
      exact ⟨rfl, hbase⟩
    · rw [heq, receivedFileBlock_eq]
      exact ⟨rfl, hbase.cons rfl⟩
  | closeFile =>
    simp only [processOTAEvents, otaPalCloseFile]
    split_ifs <;> exact ⟨rfl, hbase.cons rfl⟩
  | activateImage =>
    refine (sendStatusDetailsMessage_jobFrame r s).trans ?_
    rcases processOTAEvents_activateImage L r s with heq | heq
    · rw [heq]
      exact ⟨rfl, Extends.refl _ _⟩
    · rw [heq]
      exact ⟨rfl, (Extends.refl _ _).cons rfl⟩
  | shutdown => exact ⟨rfl, hbase.cons rfl⟩
  | suspend => exact ⟨rfl, hbase⟩
  | resume => exact ⟨rfl, hbase⟩
  | start => exact ⟨rfl, hbase⟩
  | createFile => exact ⟨rfl, hbase⟩
  | userAbort => exact ⟨rfl, hbase⟩

/-- The reaction to the outcome leaves the job alone. -/
theorem jobDocumentProcessed_jobFrame (result : OtaPalJobDocProcessingResult) :
    JobFrame s (jobDocumentProcessed s result).1 := by
  have hbase := Extends.refl (Call.keepsJob (cstr s.globalJobId)) s.log
  cases result with
  | fileCreated => exact ⟨rfl, (hbase.cons rfl).cons rfl⟩
  | newImageBooted => exact ⟨rfl, (hbase.cons rfl).cons rfl⟩
  | fileCreateFailed => exact ⟨rfl, (hbase.cons rfl).cons rfl⟩
  | newImageBootFailed => exact ⟨rfl, (hbase.cons rfl).cons rfl⟩
  | processingStateInvalid => exact ⟨rfl, (hbase.cons rfl).cons rfl⟩

/-- What a job document does to the job: nothing, a new job, or a new job that
    ends at once with the verdict of the self test. -/
inductive JobChange : OtaAgent → Prop
  | kept {t : OtaAgent} (h : JobFrame s t) : JobChange t
  | new {t : OtaAgent} (hid : NewJob L s) (h : JobFrame (newJobParsed L s).1 t) : JobChange t
  | verdict {t : OtaAgent} {eState : OtaImageState} {status : JobCurrentStatus}
      (hid : NewJob L s) (hstatus : status ≠ .inProgress)
      (h : JobFrame (sendFinalJobStatusMessage r
        (otaPalSetPlatformImageState r (newJobParsed L s).1 eState).1 status) t) :
    JobChange t

variable {L r s}

theorem JobFrame.refl (s : OtaAgent) : JobFrame s s := ⟨rfl, Extends.refl _ _⟩

theorem JobChange.frame {t u : OtaAgent} (h : JobChange L r s t) (hframe : JobFrame t u) :
    JobChange L r s u := by
  cases h with
  | kept h => exact .kept (h.trans hframe)
  | new hid h => exact .new hid (h.trans hframe)
  | verdict hid hstatus h => exact .verdict hid hstatus (h.trans hframe)

theorem JobDocumentOutcome.job {p : OtaAgent × OtaPalJobDocProcessingResult}
    (h : JobDocumentOutcome L r s p) : JobChange L r s p.1 := by
  have hclear : JobFrame s (clearJobFields s) := ⟨rfl, Extends.refl _ _⟩
  have hbase := Extends.refl
    (Call.keepsJob (cstr (newJobParsed L s).1.globalJobId)) (newJobParsed L s).1.log
  have hconverted : JobFrame (newJobParsed L s).1 (newJobConverted L r s).1 := by
    refine ⟨newJobConverted_globalJobId L r s, ?_⟩
    rw [newJobConverted_log, initMqttDownloader_log]
    exact ((hbase.cons rfl).cons rfl).cons rfl
  have hcreated : JobFrame (newJobConverted L r s).1
      (otaPalCreateFileForRx r (newJobConverted L r s).1).1 := by
    refine ⟨otaPalCreateFileForRx_globalJobId r _, ?_⟩
    rw [otaPalCreateFileForRx_log]
    exact (Extends.refl _ _).cons rfl
  cases h with
  | noJobId => exact .kept hclear
  | sameJob => exact .kept hclear
  | parseFailed hid => exact .new hid ⟨rfl, hbase⟩
  | newImageBooted hid => exact .verdict hid (by simp) (.refl _)
  | newImageBootFailed hid => exact .verdict hid (by simp) (.refl _)
  | signatureFailed htransfer => exact .new htransfer.newJob hconverted
  | createFailed htransfer => exact .new htransfer.newJob (hconverted.trans hcreated)
  | fileCreated hstart => exact .new hstart.newJob (hconverted.trans hcreated)

variable (L r s)

/-- What an event does to the job. -/
theorem processOTAEvents_jobChange (event : OtaEventMsg) :
    JobChange L r s (processOTAEvents L r s event).1 := by
  by_cases hevent : event = .receivedJobDocument
  · subst hevent
    rcases processOTAEvents_receivedJobDocument L r s with hdrop | ⟨p, hout, heq⟩
    · rw [hdrop]
      exact .kept (.refl s)
    · rw [heq]
      exact hout.job.frame (jobDocumentProcessed_jobFrame p.1 p.2)
  · exact .kept (processOTAEvents_jobFrame L r s hevent)

end Events

end Corstone.Ota
