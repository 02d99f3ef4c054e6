import Corstone.Ota.EventCalls
import Corstone.Ota.JobHistory
import Corstone.Ota.JsonDevice

/-!
# Downloads with an open file

`receivedJobDocumentHandler` returns that a file has been created only if the
file of the job in progress is open. A new job reaches this result through
`otaPal_CreateFileForRx`. The document of a known job takes a shortcut to it:
its id is recorded before parsing, the signature or the file can fail, and stays
recorded after the file is closed.

* `downloadsOpenFile_iff`: the result is right along a run iff every known job
  that is delivered again has its file open.
* `not_downloadsOpenFile_badSignature`: a job whose signature could not be
  decoded is delivered again.
-/

namespace Corstone.Ota

open Corstone.Lib

/-- The file of the job in progress is open. -/
def FileOpen (log : List Call) : Prop :=
  ∃ job, jobInProgress log = some job ∧ openFile log = some job

theorem fileOpen_iff (log : List Call) :
    FileOpen log ↔ (jobInProgress log).isSome = true ∧ openFile log = jobInProgress log := by
  unfold FileOpen
  cases jobInProgress log with
  | none => simp
  | some job => simp

instance (log : List Call) : Decidable (FileOpen log) := decidable_of_iff _ (fileOpen_iff log).symm

/-- When the handler returns that a file has been created, it is open. -/
def DownloadsOpenFile (log : List Call) (c : Call) : Prop :=
  c = .receivedJobDocumentHandler .fileCreated → FileOpen log

instance (log : List Call) (c : Call) : Decidable (DownloadsOpenFile log c) :=
  inferInstanceAs (Decidable (_ → _))

/-- A job document that takes the shortcut finds the file of its job open. -/
def OpenFileCondition (L : Libraries) (σ : OtaSystem) : Action → Prop
  | .processEvent _ => σ.HandlesJobDocument → SameJob L σ.agent → FileOpen σ.agent.log
  | _ => True

instance (L : Libraries) (σ : OtaSystem) (a : Action) : Decidable (OpenFileCondition L σ a) :=
  match a with
  | .processEvent _ =>
    inferInstanceAs (Decidable (σ.HandlesJobDocument → SameJob L σ.agent → FileOpen σ.agent.log))
  | .receiveEvent | .sendEvent | .jobMessage _ _ | .dataMessage _ _ | .otaDemoTask _
  | .otaAgentShutdown => isTrue trivial

/-! ## Steps -/

/-- Other calls than the result of the handler make no difference. -/
theorem always_downloadsOpenFile_extends {p : Call → Bool}
    (hp : p (.receivedJobDocumentHandler .fileCreated) = false) {log log' : List Call}
    (h : Extends p log log') : Always DownloadsOpenFile log' ↔ Always DownloadsOpenFile log := by
  refine Iff.of_eq (h.eq (f := fun log => Always DownloadsOpenFile log) ?_)
  intro c log hc
  have hne : c ≠ .receivedJobDocumentHandler .fileCreated := by
    rintro rfl
    rw [hp] at hc
    exact Bool.false_ne_true hc
  simp [DownloadsOpenFile, hne]

section Outcome

variable {L : Libraries} {r : Results} {s : OtaAgent}

/-- The file that a new job has created is its own. -/
theorem fileOpen_created (hstart : StartsDownload L r s) :
    FileOpen (otaPalCreateFileForRx r (newJobConverted L r s).1).1.log := by
  refine ⟨s.jobId L, ?_, ?_⟩
  · rw [otaPalCreateFileForRx_log, newJobConverted_log, initMqttDownloader_log, newJobParsed_log]
    rfl
  · rw [otaPalCreateFileForRx_log, hstart.created, openFile_fileCreated, newJobConverted_log,
      initMqttDownloader_log, newJobParsed_log]
    rfl

/-- The handler returns a created file without its file open iff it takes the
    shortcut without this file open. -/
theorem JobDocumentOutcome.fileOpen_iff {p : OtaAgent × OtaPalJobDocProcessingResult}
    (h : JobDocumentOutcome L r s p) :
    (p.2 = .fileCreated → FileOpen p.1.log) ↔ (SameJob L s → FileOpen s.log) := by
  have hnew : NewJob L s → (SameJob L s → FileOpen s.log) :=
    fun hnew hsame => absurd hsame.2 hnew.2
  cases h with
  | noJobId hid => exact iff_of_true (by simp) fun hsame => absurd hid hsame.1
  | sameJob hid => exact ⟨fun h _ => h rfl, fun h _ => h hid⟩
  | parseFailed hid => exact iff_of_true (by simp) (hnew hid)
  | newImageBooted hid => exact iff_of_true (by simp) (hnew hid)
  | newImageBootFailed hid => exact iff_of_true (by simp) (hnew hid)
  | signatureFailed htransfer => exact iff_of_true (by simp) (hnew htransfer.newJob)
  | createFailed htransfer => exact iff_of_true (by simp) (hnew htransfer.newJob)
  | fileCreated hstart => exact iff_of_true (fun _ => fileOpen_created hstart) (hnew hstart.newJob)

end Outcome

/-- A step keeps the results right iff it meets the condition. -/
theorem step_downloadsOpenFile_iff (L : Libraries) (σ : OtaSystem) (a : Action) :
    Always DownloadsOpenFile (step L σ a).agent.log ↔
      Always DownloadsOpenFile σ.agent.log ∧ OpenFileCondition L σ a := by
  by_cases h : ∃ r, a = .processEvent r ∧ σ.HandlesJobDocument
  · obtain ⟨r, rfl, hhandles⟩ := h
    obtain ⟨p, hout, hagent⟩ := step_handlesJobDocument (L := L) (r := r) hhandles
    have hcalls := always_downloadsOpenFile_extends rfl hout.calls
    have hcond : OpenFileCondition L σ (.processEvent r) ↔
        (SameJob L σ.agent → FileOpen σ.agent.log) := forall_prop_of_true hhandles
    have hhook : DownloadsOpenFile (.receivedJobDocumentHandler p.2 :: p.1.log)
        (jobDocumentHook p.2) := by
      intro hne
      cases hresult : p.2 <;> simp [hresult, jobDocumentHook] at hne
    have hresult : DownloadsOpenFile p.1.log (.receivedJobDocumentHandler p.2) ↔
        (p.2 = .fileCreated → FileOpen p.1.log) := by
      simp [DownloadsOpenFile]
    rw [hagent, jobDocumentProcessed_log, always_cons, always_cons, hcalls, hresult,
      hout.fileOpen_iff, hcond]
    constructor
    · rintro ⟨-, hopen, halways⟩
      exact ⟨halways, hopen⟩
    · rintro ⟨halways, hopen⟩
      exact ⟨hhook, hopen, halways⟩
  · have hnot : ∀ r, a = .processEvent r → ¬ σ.HandlesJobDocument :=
      fun r ha hhandles => h ⟨r, ha, hhandles⟩
    have hcond : OpenFileCondition L σ a := by
      cases a with
      | processEvent r => exact fun hhandles => absurd hhandles (hnot r rfl)
      | _ => trivial
    rw [always_downloadsOpenFile_extends rfl (step_calls a hnot)]
    exact (and_iff_left hcond).symm

/-! ## Runs -/

/-- **Downloads with an open file.** In a run, every result that a file has been
    created is right iff every document that takes the shortcut finds the file of
    its job open. -/
theorem downloadsOpenFile_iff (L : Libraries) (as : List Action) :
    Always DownloadsOpenFile (run (step L) (.boot L) as).agent.log ↔
      Along (step L) (OpenFileCondition L) (.boot L) as := by
  rw [run_iff_along (J := fun σ : OtaSystem => Always DownloadsOpenFile σ.agent.log)
    (step_downloadsOpenFile_iff L)]
  exact and_iff_right trivial

/-- A job is delivered twice; its signature is open. -/
def deliveredTwice (signature : Bytes) : List Action :=
  [.jobMessage startNextAcceptedTopic (startNextAccepted (ascii "A") [] 3 signature),
    .receiveEvent, .processEvent {}, .receiveEvent, .processEvent {},
    .jobMessage startNextAcceptedTopic (startNextAccepted (ascii "A") [] 3 signature),
    .receiveEvent, .processEvent {}]

set_option maxRecDepth 20000 in
/-- A signature that is not base64: the second delivery starts a download. -/
theorem not_downloadsOpenFile_badSignature :
    ¬ Always DownloadsOpenFile
      (run (step jsonDevice) (.boot jsonDevice) (deliveredTwice (ascii "M"))).agent.log := by
  decide

end Corstone.Ota
