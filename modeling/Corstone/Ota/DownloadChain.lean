import Corstone.Ota.EventLinks
import Corstone.Ota.JobHistory
import Corstone.Ota.JsonDevice
import Corstone.Ota.Transfer

/-!
# The chain of a download

A download goes on as long as one link of a chain is in hand: an event that
continues it is queued or held by the agent's task, or a block request has gone
out whose answer has not been delivered. Every link is made from the one before
it, and the code only logs when that fails.

* `neverStalls_iff`: a running download has a link in all states of a run iff no
  step of the run breaks the last one.
* `not_neverStalls_publishFails`: the publish of a block request fails.
-/

namespace Corstone.Ota

open Corstone.Lib

/-! ## Downloads and links -/

/-- A file is open and blocks of the transfer are missing. -/
def OtaAgent.Unfinished (s : OtaAgent) : Prop :=
  openFile s.log ≠ none ∧ s.download.numOfBlocksRemaining ≠ 0

/-- The agent is neither suspended nor stopped. -/
def OtaAgent.Running (s : OtaAgent) : Prop :=
  s.otaAgentState ≠ .suspended ∧ s.otaAgentState ≠ .stopped

/-- A download is unfinished, and the agent is running. -/
def OtaAgent.Downloading (s : OtaAgent) : Prop := s.Unfinished ∧ s.Running

/-- The event continues a download. -/
def OtaEventMsg.continues : OtaEventMsg → Bool
  | .requestFileBlock | .receivedFileBlock _ => true
  | _ => false

namespace OtaSystem

/-- An event that continues the download is queued or held by the task. -/
def InHand (σ : OtaSystem) : Prop := ∃ event ∈ σ.pending, event.continues = true

/-- The links behind the event that the task holds: a queued event, or the
    answer to a block request. -/
def OtherLink (σ : OtaSystem) : Prop :=
  (∃ event ∈ σ.otaEventQueue.items, event.continues = true) ∨ 0 < σ.awaitedBlocks

/-- The system continues the download. -/
def Continues (σ : OtaSystem) : Prop := σ.InHand ∨ 0 < σ.awaitedBlocks

/-- A download that runs is continued. -/
def NeverStalls (σ : OtaSystem) : Prop := σ.agent.Downloading → σ.Continues

end OtaSystem

section Decidable

variable (s : OtaAgent) (σ : OtaSystem) (payload : Bytes)

instance : Decidable s.Unfinished := inferInstanceAs (Decidable (_ ∧ _))
instance : Decidable s.Running := inferInstanceAs (Decidable (_ ∧ _))
instance : Decidable s.Downloading := inferInstanceAs (Decidable (_ ∧ _))
instance : Decidable σ.InHand :=
  inferInstanceAs (Decidable (∃ event ∈ σ.pending, event.continues = true))
instance : Decidable σ.Continues := inferInstanceAs (Decidable (_ ∨ _))
instance : Decidable σ.NeverStalls := inferInstanceAs (Decidable (_ → _))

end Decidable

/-! ## The condition -/

/-- The event does not break the last link of a download when the `switch`
    processes it with the results `r`. -/
def KeepsLink (L : Libraries) (r : Results) (σ : OtaSystem) : OtaEventMsg → Prop
  | .requestFileBlock => r.mqtt ≠ .transmitted → σ.agent.Unfinished → σ.OtherLink
  | .requestJobDocument => σ.agent.Unfinished → σ.OtherLink
  | .resume => σ.agent.Unfinished → σ.OtherLink
  | .receivedJobDocument =>
    σ.agent.Running → StartsTransfer L r σ.agent → ¬ StartsDownload L r σ.agent →
      openFile σ.agent.log ≠ none → (newJobParsed L σ.agent).1.jobFields.fileSize ≠ 0 →
      σ.OtherLink
  | _ => True

/-- The steps that can break a link do not break the last one. The answer to a
    block request is delivered, the agent's own event fits into the queue, the
    block request goes out; a job document or the end of a suspension does not
    leave an open file without a link. -/
def ChainCondition (L : Libraries) (σ : OtaSystem) : Action → Prop
  | .sendEvent =>
    ∀ event, σ.task = .sending event → event.continues = true → σ.otaEventQueue.Full →
      σ.agent.Downloading → σ.OtherLink
  | .dataMessage payload true =>
    ¬ σ.Delivers payload → σ.agent.Downloading → σ.InHand ∨ 1 < σ.awaitedBlocks
  | .processEvent r => ∀ event, σ.task = .processing event → KeepsLink L r σ event
  | _ => True

/-! ## Downloads -/

section Task

variable {L : Libraries} {r : Results} {σ : OtaSystem} {event : OtaEventMsg}

/-- The chain of a download is an activity with links. -/
theorem neverStalls_iff_linked (σ : OtaSystem) :
    σ.NeverStalls ↔ σ.Linked OtaEventMsg.continues OtaAgent.Downloading := Iff.rfl

/-- The histories agree on the open file. -/
theorem downloading_of_extends {s t : OtaAgent} (hlog : Extends Call.fileNeutral s.log t.log)
    (hdownload : t.download = s.download) (hstate : t.otaAgentState = s.otaAgentState) :
    t.Downloading ↔ s.Downloading := by
  unfold OtaAgent.Downloading OtaAgent.Unfinished OtaAgent.Running
  rw [openFile_extends hlog, hdownload, hstate]

/-- An event that has nothing to do with the download leaves the chain alone. -/
theorem neverStalls_processEvent_of_imp (h : σ.NeverStalls) (htask : σ.task = .processing event)
    (hcontinues : event.continues = false)
    (hdownloading : (processOTAEvents L r σ.agent event).1.Downloading → σ.agent.Downloading) :
    (processEvent L r σ event).NeverStalls := by
  rw [neverStalls_iff_linked] at h ⊢
  refine linked_processEvent_of_imp h htask hcontinues ?_ hdownloading
  rintro rfl
  simp [OtaEventMsg.continues] at hcontinues

/-- The `switch` sends a block request. -/
theorem neverStalls_processEvent_of_next
    (hnext : (processOTAEvents L r σ.agent event).2 = some .requestFileBlock)
    (hevent : event ≠ .requestFileBlock) : (processEvent L r σ event).NeverStalls :=
  (neverStalls_iff_linked _).mpr (linked_processEvent_of_next rfl hnext hevent)

/-- The event wakes the agent up: the chain must have a link. -/
theorem neverStalls_processEvent_of_wakes (hevent : event ≠ .requestFileBlock)
    (hdownloading : (processOTAEvents L r σ.agent event).1.Downloading ↔ σ.agent.Unfinished)
    (hnext : ∀ e, (processOTAEvents L r σ.agent event).2 = some e → e.continues = false) :
    (processEvent L r σ event).NeverStalls ↔ (σ.agent.Unfinished → σ.OtherLink) := by
  rw [neverStalls_iff_linked, linked_processEvent_iff_other hevent hnext, hdownloading]
  exact Iff.rfl

/-! ## Events -/

/-- A block request. -/
theorem neverStalls_requestFileBlock_iff :
    (processEvent L r σ .requestFileBlock).NeverStalls ↔ KeepsLink L r σ .requestFileBlock := by
  have hdownloading : (processEvent L r σ .requestFileBlock).agent.Downloading ↔
      σ.agent.Unfinished := by
    refine (and_iff_left ?_).trans Iff.rfl
    constructor <;> simp [processEvent, processOTAEvents, requestDataBlock]
  rw [neverStalls_iff_linked, OtaSystem.Linked, hdownloading, hasLink_requestFileBlock]
  exact forall_comm

/-- A file block is dropped by an agent that does not run, ends the transfer, or
    leads to the next request. -/
theorem neverStalls_receivedFileBlock (i : ℕ) :
    (processEvent L r σ (.receivedFileBlock i)).NeverStalls := by
  have hagent : (processEvent L r σ (.receivedFileBlock i)).agent =
      (processOTAEvents L r σ.agent (.receivedFileBlock i)).1 := rfl
  by_cases hrunning : σ.agent.Running
  · have heq := receivedFileBlock_handled L r hrunning i
    by_cases hremaining :
        (σ.agent.download.written r.otaPalWriteBlock).numOfBlocksRemaining = 0
    · rintro ⟨⟨-, hmissing⟩, -⟩
      rw [hagent, heq, receivedFileBlock_eq] at hmissing
      exact absurd hremaining hmissing
    · refine neverStalls_processEvent_of_next ?_ (by simp)
      rw [heq, receivedFileBlock_eq]
      exact congrArg some (if_neg hremaining)
  · rintro ⟨-, hstays⟩
    rw [hagent, receivedFileBlock_dropped L r hrunning i] at hstays
    exact absurd hstays hrunning

/-- A transfer that has been set up without a file: another file may be open. -/
theorem downloading_of_transfer {s t : OtaAgent}
    (hlog : Extends Call.fileNeutral s.log t.log)
    (hdownload : t.download = (initMqttDownloader L r (newJobParsed L s).1).download)
    (hstate : t.otaAgentState = s.otaAgentState) :
    t.Downloading ↔ (openFile s.log ≠ none ∧ (newJobParsed L s).1.jobFields.fileSize ≠ 0) ∧
      s.Running := by
  have hblocks : t.download.numOfBlocksRemaining ≠ 0 ↔
      (newJobParsed L s).1.jobFields.fileSize ≠ 0 := by
    rw [hdownload, initMqttDownloader_download]
    have hempty : numberOfBlocks 0 = 0 := by decide
    refine ⟨fun hne hsize => hne ?_, numberOfBlocks_ne_zero⟩
    rw [hsize]
    exact hempty
  unfold OtaAgent.Downloading OtaAgent.Unfinished OtaAgent.Running
  rw [openFile_extends hlog, hblocks, hstate]

/-- What a job document does to the chain: the next event continues it, nothing
    changes, or the counters of another transfer are set without a new file. -/
theorem JobDocumentOutcome.chain {s : OtaAgent} {p : OtaAgent × OtaPalJobDocProcessingResult}
    (hout : JobDocumentOutcome L r s p) :
    (p.2 = .fileCreated ∧ (StartsTransfer L r s → StartsDownload L r s)) ∨
      (p.2 ≠ .fileCreated ∧ ¬ StartsTransfer L r s ∧ (p.1.Downloading ↔ s.Downloading)) ∨
      (p.2 ≠ .fileCreated ∧ StartsTransfer L r s ∧ ¬ StartsDownload L r s ∧
        (p.1.Downloading ↔
          (openFile s.log ≠ none ∧ (newJobParsed L s).1.jobFields.fileSize ≠ 0) ∧ s.Running)) := by
  have hbase := Extends.refl Call.fileNeutral s.log
  have hparsed : Extends Call.fileNeutral s.log (newJobParsed L s).1.log :=
    (hbase.cons rfl).cons rfl
  have hconverted : Extends Call.fileNeutral s.log (newJobConverted L r s).1.log := by
    rw [newJobConverted_log, initMqttDownloader_log]
    exact ((hparsed.cons rfl).cons rfl).cons rfl
  cases hout with
  | noJobId hid =>
    refine Or.inr (Or.inl ⟨by simp, fun h => h.newJob.1 hid, ?_⟩)
    exact downloading_of_extends hbase rfl rfl
  | sameJob hid => exact Or.inl ⟨rfl, fun h => absurd hid.2 h.newJob.2⟩
  | parseFailed hid hparse =>
    refine Or.inr (Or.inl ⟨by simp, fun h => by simp [h.parsed] at hparse, ?_⟩)
    exact downloading_of_extends hparsed rfl rfl
  | newImageBooted hid hparse hstate =>
    refine Or.inr (Or.inl ⟨by simp, fun h => h.state hstate, ?_⟩)
    exact downloading_of_extends ((hparsed.cons rfl).cons rfl) rfl rfl
  | newImageBootFailed hid hparse hstate =>
    refine Or.inr (Or.inl ⟨by simp, fun h => h.state hstate, ?_⟩)
    exact downloading_of_extends ((hparsed.cons rfl).cons rfl) rfl rfl
  | signatureFailed htransfer hsig =>
    refine Or.inr (Or.inr ⟨by simp, htransfer, fun h => by simp [h.converted] at hsig, ?_⟩)
    exact downloading_of_transfer hconverted (newJobConverted_download L r s)
      (newJobConverted_otaAgentState L r s)
  | createFailed htransfer hsig hfile =>
    refine Or.inr (Or.inr ⟨by simp, htransfer, fun h => by simp [h.created] at hfile, ?_⟩)
    refine @downloading_of_transfer L r _ _ ?_ ?_ ?_
    · rw [otaPalCreateFileForRx_log, hfile]
      exact hconverted.cons rfl
    · rw [otaPalCreateFileForRx_download, newJobConverted_download]
    · rw [otaPalCreateFileForRx_otaAgentState, newJobConverted_otaAgentState]
  | fileCreated hstart => exact Or.inl ⟨rfl, fun _ => hstart⟩

/-- The reaction to a document without a file. -/
theorem jobDocumentProcessed_of_ne {s : OtaAgent} {result : OtaPalJobDocProcessingResult}
    (hresult : result ≠ .fileCreated) :
    ((jobDocumentProcessed s result).1.Downloading ↔ s.Downloading) ∧
      (jobDocumentProcessed s result).2 = none := by
  have hbase := Extends.refl Call.fileNeutral s.log
  cases result with
  | fileCreated => exact absurd rfl hresult
  | _ => exact ⟨downloading_of_extends ((hbase.cons rfl).cons rfl) rfl rfl, rfl⟩

/-- A job document. -/
theorem neverStalls_receivedJobDocument_iff (h : σ.NeverStalls)
    (htask : σ.task = .processing .receivedJobDocument) :
    (processEvent L r σ .receivedJobDocument).NeverStalls ↔
      KeepsLink L r σ .receivedJobDocument := by
  unfold KeepsLink
  by_cases hrunning : σ.agent.Running
  · have heq := receivedJobDocument_handled L r hrunning
    have hout := receivedJobDocumentHandler_outcome L r σ.agent
    generalize receivedJobDocumentHandler L r σ.agent = p at heq hout
    rcases hout.chain with ⟨hcreated, hstarts⟩ | ⟨hresult, htransfer, hsame⟩ |
      ⟨hresult, htransfer, hdownload, hother⟩
    · refine iff_of_true (neverStalls_processEvent_of_next ?_ (by simp)) ?_
      · rw [heq, hcreated]
        rfl
      · exact fun _ htransfer hdownload => absurd (hstarts htransfer) hdownload
    · refine iff_of_true (neverStalls_processEvent_of_imp h htask rfl ?_) ?_
      · rw [heq]
        exact ((jobDocumentProcessed_of_ne hresult).1.trans hsame).mp
      · exact fun _ hstarts => absurd hstarts htransfer
    · have hnext : ∀ e, (processOTAEvents L r σ.agent .receivedJobDocument).2 = some e →
          e.continues = false := by
        simp [heq, (jobDocumentProcessed_of_ne hresult).2]
      have hdownloading : (processOTAEvents L r σ.agent .receivedJobDocument).1.Downloading ↔
          (openFile σ.agent.log ≠ none ∧
            (newJobParsed L σ.agent).1.jobFields.fileSize ≠ 0) ∧ σ.agent.Running := by
        rw [heq]
        exact (jobDocumentProcessed_of_ne hresult).1.trans hother
      rw [neverStalls_iff_linked, linked_processEvent_iff_other (by simp) hnext, hdownloading]
      constructor
      · exact fun hlink _ _ _ hopen hsize => hlink ⟨⟨hopen, hsize⟩, hrunning⟩
      · exact fun hlink hall => hlink hrunning htransfer hdownload hall.1.1 hall.1.2
  · refine iff_of_true ?_ fun hnow => absurd hnow hrunning
    refine neverStalls_processEvent_of_imp h htask rfl fun hdownload => ?_
    rwa [receivedJobDocument_dropped L r hrunning] at hdownload

/-- A step of the `switch` keeps the chain iff it does not break the last link. -/
theorem neverStalls_processEvent_iff (h : σ.NeverStalls) (htask : σ.task = .processing event) :
    (processEvent L r σ event).NeverStalls ↔ KeepsLink L r σ event := by
  have hbase := Extends.refl Call.fileNeutral σ.agent.log
  cases event with
  | requestFileBlock => exact neverStalls_requestFileBlock_iff
  | receivedFileBlock i => exact iff_of_true (neverStalls_receivedFileBlock i) trivial
  | receivedJobDocument => exact neverStalls_receivedJobDocument_iff h htask
  | requestJobDocument =>
    refine neverStalls_processEvent_of_wakes (by simp) ?_ (by simp [processOTAEvents])
    exact and_iff_left ⟨by simp [processOTAEvents], by simp [processOTAEvents]⟩
  | resume =>
    refine neverStalls_processEvent_of_wakes (by simp) ?_ ?_
    · exact and_iff_left ⟨by simp [processOTAEvents], by simp [processOTAEvents]⟩
    · intro e he
      obtain rfl := Option.some.inj he
      rfl
  | closeFile =>
    refine iff_of_true ?_ trivial
    rintro ⟨⟨hopen, -⟩, -⟩
    refine absurd ?_ hopen
    simp only [processEvent, processOTAEvents, otaPalCloseFile]
    split_ifs <;> rfl
  | activateImage =>
    refine iff_of_true (neverStalls_processEvent_of_imp h htask rfl (Iff.mp ?_)) trivial
    rcases processOTAEvents_activateImage L r σ.agent with heq | heq
    · rw [heq]
      exact downloading_of_extends (hbase.cons rfl) rfl rfl
    · rw [heq]
      exact downloading_of_extends ((hbase.cons rfl).cons rfl) rfl rfl
  | suspend =>
    refine iff_of_true ?_ trivial
    rintro ⟨-, hrunning⟩
    exact absurd rfl hrunning.1
  | shutdown =>
    refine iff_of_true ?_ trivial
    rintro ⟨-, hrunning⟩
    exact absurd rfl hrunning.2
  | start => exact iff_of_true (neverStalls_processEvent_of_imp h htask rfl id) trivial
  | createFile => exact iff_of_true (neverStalls_processEvent_of_imp h htask rfl id) trivial
  | userAbort => exact iff_of_true (neverStalls_processEvent_of_imp h htask rfl id) trivial

/-- **What one step does to the chain.** -/
theorem neverStalls_step_iff {a : Action} (h : σ.NeverStalls) :
    (step L σ a).NeverStalls ↔ ChainCondition L σ a := by
  rw [neverStalls_iff_linked] at h ⊢
  have hsend : ∀ (s : OtaAgent) (event : OtaEventMsg) (sent : Bool),
      (s.call (.otaSendEvent event sent)).Downloading ↔ s.Downloading :=
    fun _ _ _ => downloading_of_extends ((Extends.refl _ _).cons rfl) rfl rfl
  have hprocess : ∀ r event, σ.task = .processing event →
      ((processEvent L r σ event).Linked OtaEventMsg.continues OtaAgent.Downloading ↔
        KeepsLink L r σ event) :=
    fun r event htask => neverStalls_processEvent_iff h htask
  exact linked_step_iff (fun _ => rfl) (fun _ _ _ => Iff.rfl) hsend hprocess h a

end Task

/-! ## Runs -/

/-- There is no file at boot. -/
theorem neverStalls_boot (L : Libraries) : (OtaSystem.boot L).NeverStalls :=
  fun h => absurd rfl h.1.1

/-- **Downloads do not stall.** In all states of a run a running download has a
    link iff no step of the run breaks the last one. -/
theorem neverStalls_iff (L : Libraries) (as : List Action) :
    (∀ pre, pre <+: as → (run (step L) (.boot L) pre).NeverStalls) ↔
      Along (step L) (ChainCondition L) (.boot L) as :=
  forall_prefix_iff_along (fun _ _ h => neverStalls_step_iff h) (neverStalls_boot L) as

/-- The file of a job is created; the publish of its first block request fails. -/
def publishFails : List Action :=
  [.jobMessage startNextAcceptedTopic (startNextAccepted (ascii "A") [] 3 (ascii "MEUC")),
    .receiveEvent, .processEvent {}, .receiveEvent, .processEvent {}, .sendEvent,
    .receiveEvent, .processEvent { mqtt := .refused }]

set_option maxRecDepth 20000 in
/-- Nothing continues the download after the failed publish. -/
theorem not_neverStalls_publishFails :
    ¬ (run (step jsonDevice) (.boot jsonDevice) publishFails).NeverStalls := by
  decide

end Corstone.Ota
