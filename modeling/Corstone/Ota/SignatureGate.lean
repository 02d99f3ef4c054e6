import Corstone.Lib.History
import Corstone.Ota.JsonDevice

/-!
# The signature gate

No image is installed, and no `ActivateImage` event sent, for a download whose
close has not been good. A download begins with the `otaPal_CreateFileForRx`
that creates its file; its close is good when `psa_fwu_finish` and the
signature check succeed.

* `signatureGate_of_condition`: the gate holds in every run in which the finish
  never fails and no file is created or closed a second time on the way to the
  activation.
* `not_signatureGate_finishFails`: it does not hold when `psa_fwu_finish` fails,
  because `otaPal_CloseFile` then returns `-1` as a `bool`.
-/

namespace Corstone.Ota

open Corstone.Lib

/-! ## The gate -/

/-- The call begins a download. -/
def Call.startsDownload : Call → Bool
  | .otaPalCreateFileForRx .fileCreated => true
  | _ => false

/-- The file was finished and its signature found good. -/
def Call.goodClose : Call → Bool
  | .otaPalCloseFile finish signature => finish == psaSuccess && signature == some true
  | _ => false

/-- The finish or the signature check failed. -/
def Call.badClose : Call → Bool
  | .otaPalCloseFile finish signature => !(finish == psaSuccess && signature == some true)
  | _ => false

/-- The call is `psa_fwu_install`. -/
def Call.installs : Call → Bool
  | .psaFwuInstall _ => true
  | _ => false

/-- The call produces an `ActivateImage` event. -/
def Call.activates : Call → Bool
  | .otaSendEvent .activateImage _ => true
  | _ => false

/-- The current download has had a good close. -/
def Verified (log : List Call) : Prop :=
  ∃ c ∈ since Call.startsDownload log, c.goodClose = true

/-- A close of the current download has failed. -/
def CloseFailed (log : List Call) : Prop :=
  ∃ c ∈ since Call.startsDownload log, c.badClose = true

instance (log : List Call) : Decidable (Verified log) :=
  inferInstanceAs (Decidable (∃ c ∈ since Call.startsDownload log, c.goodClose = true))

instance (log : List Call) : Decidable (CloseFailed log) :=
  inferInstanceAs (Decidable (∃ c ∈ since Call.startsDownload log, c.badClose = true))

/-- What the gate asks of a call after the calls of `log`. -/
def SignatureGate (log : List Call) (c : Call) : Prop :=
  (c.installs = true → Verified log) ∧ (c.activates = true → ¬ CloseFailed log)

instance (log : List Call) (c : Call) : Decidable (SignatureGate log c) :=
  inferInstanceAs (Decidable
    ((c.installs = true → Verified log) ∧ (c.activates = true → ¬ CloseFailed log)))

theorem verified_cons (c : Call) (log : List Call) :
    Verified (c :: log) ↔ c.startsDownload = false ∧ (c.goodClose = true ∨ Verified log) := by
  unfold Verified
  cases h : c.startsDownload with
  | true => simp [h]
  | false => simp [h]

theorem closeFailed_cons (c : Call) (log : List Call) :
    CloseFailed (c :: log) ↔
      c.startsDownload = false ∧ (c.badClose = true ∨ CloseFailed log) := by
  unfold CloseFailed
  cases h : c.startsDownload with
  | true => simp [h]
  | false => simp [h]

/-! ## The calls that do not matter to the gate -/

/-- The call has no part in the gate. -/
def Call.gateNeutral (c : Call) : Bool :=
  !(c.startsDownload || c.goodClose || c.badClose || c.installs || c.activates)

/-- The gate in a history, and the state of the download it watches. -/
structure GateFrame (log log' : List Call) : Prop where
  always : Always SignatureGate log → Always SignatureGate log'
  verified : Verified log' ↔ Verified log
  closeFailed : CloseFailed log' ↔ CloseFailed log

theorem gateFrame_of_extends {log log' : List Call} (h : Extends Call.gateNeutral log log') :
    GateFrame log log' := by
  refine ⟨h.always ?_, Iff.of_eq (h.eq ?_), Iff.of_eq (h.eq ?_)⟩
  · intro l c hc
    simp only [Call.gateNeutral, Bool.not_eq_true', Bool.or_eq_false_iff] at hc
    simp [SignatureGate, hc]
  · intro c l hc
    simp only [Call.gateNeutral, Bool.not_eq_true', Bool.or_eq_false_iff] at hc
    simp [verified_cons, hc]
  · intro c l hc
    simp only [Call.gateNeutral, Bool.not_eq_true', Bool.or_eq_false_iff] at hc
    simp [closeFailed_cons, hc]

/-! ## The condition -/

/-- The steps that the gate relies on. When a file is closed, the finish does
    not fail, and a signature is not found good after an earlier close of the
    download has failed. While an `ActivateImage` event is pending, no job
    document starts another download. -/
def GateCondition (L : Libraries) (σ : OtaSystem) : Action → Prop
  | .processEvent r =>
    (σ.task = .processing .closeFile →
      r.psaFwuFinish = psaSuccess ∧
        (otaPalCheckSignature L r = true → ¬ CloseFailed σ.agent.log)) ∧
    (σ.task = .processing .receivedJobDocument → .activateImage ∈ σ.pending →
      ¬ StartsDownload L r σ.agent)
  | _ => True

/-- A pending `ActivateImage` event belongs to a download with a good close,
    and when it was sent no close of this download had failed. -/
structure GateInvariant (σ : OtaSystem) : Prop where
  gate : Always SignatureGate σ.agent.log
  pending : .activateImage ∈ σ.pending → Verified σ.agent.log
  sending : σ.task = .sending .activateImage → ¬ CloseFailed σ.agent.log

/-- What a step of the agent leaves alone, the invariant survives. -/
theorem GateInvariant.of_frame {σ τ : OtaSystem} (h : GateInvariant σ)
    (hlog : GateFrame σ.agent.log τ.agent.log)
    (hpending : .activateImage ∈ τ.pending → .activateImage ∈ σ.pending)
    (hsending : τ.task = .sending .activateImage → σ.task = .sending .activateImage) :
    GateInvariant τ where
  gate := hlog.always h.gate
  pending hmem := hlog.verified.mpr (h.pending (hpending hmem))
  sending htask := by
    rw [hlog.closeFailed]
    exact h.sending (hsending htask)

section Process

variable {L : Libraries} {r : Results} {s : OtaAgent}

/-- The calls before `otaPal_CreateFileForRx` have no part in the gate. -/
theorem extends_newJobConverted : Extends Call.gateNeutral s.log (newJobConverted L r s).1.log := by
  simp only [newJobConverted_log, initMqttDownloader_log, newJobParsed_log]
  have hbase := Extends.refl Call.gateNeutral s.log
  exact ((((hbase.cons rfl).cons rfl).cons rfl).cons rfl).cons rfl

/-- A job document has no part in the gate, or it starts a download. -/
theorem extends_jobDocument {p : OtaAgent × OtaPalJobDocProcessingResult}
    (h : JobDocumentOutcome L r s p) :
    Extends Call.gateNeutral s.log p.1.log ∨
      StartsDownload L r s ∧ (Always SignatureGate s.log → Always SignatureGate p.1.log) := by
  have hbase := Extends.refl Call.gateNeutral s.log
  cases h with
  | noJobId => exact Or.inl hbase
  | sameJob => exact Or.inl hbase
  | parseFailed => exact Or.inl ((hbase.cons rfl).cons rfl)
  | newImageBooted => exact Or.inl ((((hbase.cons rfl).cons rfl).cons rfl).cons rfl)
  | newImageBootFailed => exact Or.inl ((((hbase.cons rfl).cons rfl).cons rfl).cons rfl)
  | signatureFailed => exact Or.inl extends_newJobConverted
  | createFailed htransfer hsig hfile =>
    rw [otaPalCreateFileForRx_log, hfile]
    exact Or.inl (extends_newJobConverted.cons rfl)
  | fileCreated hstart =>
    refine Or.inr ⟨hstart, fun halways => ?_⟩
    rw [otaPalCreateFileForRx_log, hstart.created]
    refine ⟨?_, (gateFrame_of_extends extends_newJobConverted).always halways⟩
    simp [SignatureGate, Call.installs, Call.activates]

/-- The reaction to the outcome has no part in the gate. -/
theorem extends_jobDocumentProcessed (result : OtaPalJobDocProcessingResult) :
    Extends Call.gateNeutral s.log (jobDocumentProcessed s result).1.log := by
  have hbase := Extends.refl Call.gateNeutral s.log
  cases result with
  | fileCreated => exact (hbase.cons rfl).cons rfl
  | newImageBooted => exact (hbase.cons rfl).cons rfl
  | fileCreateFailed => exact (hbase.cons rfl).cons rfl
  | newImageBootFailed => exact (hbase.cons rfl).cons rfl
  | processingStateInvalid => exact (hbase.cons rfl).cons rfl

/-- The agent's part of an event that has no part in the gate. -/
theorem GateInvariant.processEvent {σ : OtaSystem} {event : OtaEventMsg} (h : GateInvariant σ)
    (hlog : GateFrame σ.agent.log (processOTAEvents L r σ.agent event).1.log)
    (hnext : (processOTAEvents L r σ.agent event).2 ≠ some .activateImage) :
    GateInvariant (processEvent L r σ event) := by
  refine h.of_frame hlog ?_ ?_
  · intro hmem
    exact (mem_pending_processEvent hmem).resolve_right hnext
  · intro htask
    exact absurd (sending_processEvent.mp htask) hnext

theorem jobDocumentProcessed_ne_activateImage (result : OtaPalJobDocProcessingResult) :
    (jobDocumentProcessed s result).2 ≠ some .activateImage := by
  cases result with
  | fileCreated => simp [jobDocumentProcessed]
  | newImageBooted => simp [jobDocumentProcessed]
  | fileCreateFailed => simp [jobDocumentProcessed]
  | newImageBootFailed => simp [jobDocumentProcessed]
  | processingStateInvalid => simp [jobDocumentProcessed]

/-- A job document keeps the gate: it starts a download only when no
    activation is pending. -/
theorem GateInvariant.receivedJobDocument {σ : OtaSystem} (h : GateInvariant σ)
    (hcond : .activateImage ∈ σ.pending → ¬ StartsDownload L r σ.agent) :
    GateInvariant (Ota.processEvent L r σ .receivedJobDocument) := by
  rcases processOTAEvents_receivedJobDocument L r σ.agent with hdrop | ⟨p, hout, heq⟩
  · refine h.processEvent ?_ (by rw [hdrop]; simp)
    rw [hdrop]
    exact gateFrame_of_extends (.refl _ _)
  · have hnext : (processOTAEvents L r σ.agent .receivedJobDocument).2 ≠ some .activateImage := by
      rw [heq]
      exact jobDocumentProcessed_ne_activateImage _
    have hprocessed := extends_jobDocumentProcessed (s := p.1) p.2
    rcases extends_jobDocument hout with hframe | ⟨hstart, halways⟩
    · refine h.processEvent ?_ hnext
      rw [heq]
      exact gateFrame_of_extends (hframe.trans hprocessed)
    · refine ⟨?_, ?_, ?_⟩
      · show Always SignatureGate (processOTAEvents L r σ.agent .receivedJobDocument).1.log
        rw [heq]
        exact (gateFrame_of_extends hprocessed).always (halways h.gate)
      · intro hmem
        have hmem := (mem_pending_processEvent hmem).resolve_right hnext
        exact absurd hstart (hcond hmem)
      · intro htask
        exact absurd (sending_processEvent.mp htask) hnext

/-- A close keeps the gate: after a finish that succeeds, `otaPal_CloseFile`
    returns what the signature check found. -/
theorem GateInvariant.closeFile {σ : OtaSystem} (h : GateInvariant σ)
    (hfinish : r.psaFwuFinish = psaSuccess)
    (hfirst : otaPalCheckSignature L r = true → ¬ CloseFailed σ.agent.log) :
    GateInvariant (Ota.processEvent L r σ .closeFile) := by
  have hlog : (processOTAEvents L r σ.agent .closeFile).1.log =
      .otaPalCloseFile psaSuccess (some (otaPalCheckSignature L r)) :: σ.agent.log := by
    simp [processOTAEvents, otaPalCloseFile, hfinish]
  have hnext : (processOTAEvents L r σ.agent .closeFile).2 =
      if otaPalCheckSignature L r then some .activateImage else none := by
    simp [processOTAEvents, otaPalCloseFile, hfinish]
  refine ⟨?_, ?_, ?_⟩
  · show Always SignatureGate (processOTAEvents L r σ.agent .closeFile).1.log
    rw [hlog]
    exact ⟨by simp [SignatureGate, Call.installs, Call.activates], h.gate⟩
  · intro hmem
    show Verified (processOTAEvents L r σ.agent .closeFile).1.log
    rw [hlog, verified_cons]
    refine ⟨rfl, ?_⟩
    rcases mem_pending_processEvent hmem with hmem | hsent
    · exact Or.inr (h.pending hmem)
    · left
      rw [hnext] at hsent
      simpa [Call.goodClose] using hsent
  · intro htask
    have hsent := sending_processEvent.mp htask
    have hgood : otaPalCheckSignature L r = true := by
      rw [hnext] at hsent
      simpa using hsent
    show ¬ CloseFailed (processOTAEvents L r σ.agent .closeFile).1.log
    rw [hlog, closeFailed_cons]
    simp [Call.badClose, hgood, hfirst hgood]

/-- An activation keeps the gate, because the event was pending. -/
theorem GateInvariant.activateImage {σ : OtaSystem} (h : GateInvariant σ)
    (hevent : σ.task = .processing .activateImage) :
    GateInvariant (Ota.processEvent L r σ .activateImage) := by
  have hverified := h.pending (mem_pending_of_processing hevent)
  have hnext : (processOTAEvents L r σ.agent .activateImage).2 ≠ some .activateImage := by
    simp only [processOTAEvents]
    split_ifs <;> simp
  have hstatus : GateFrame σ.agent.log (sendStatusDetailsMessage r σ.agent).log :=
    gateFrame_of_extends ((Extends.refl _ _).cons rfl)
  rcases otaPalActivateNewImage_cases L r (sendStatusDetailsMessage r σ.agent) with heq | heq
  · refine h.processEvent ?_ hnext
    show GateFrame _ (otaPalActivateNewImage L r (sendStatusDetailsMessage r σ.agent)).1.log
    rw [heq]
    exact hstatus
  · have hlog : (processOTAEvents L r σ.agent .activateImage).1.log =
        .psaFwuInstall r.psaFwuInstall :: (sendStatusDetailsMessage r σ.agent).log := by
      show (otaPalActivateNewImage L r (sendStatusDetailsMessage r σ.agent)).1.log = _
      rw [heq]
      rfl
    have hinstall : Verified (sendStatusDetailsMessage r σ.agent).log :=
      hstatus.verified.mpr hverified
    refine h.processEvent ⟨?_, ?_, ?_⟩ hnext
    · intro halways
      rw [hlog]
      exact ⟨⟨fun _ => hinstall, by simp [Call.activates]⟩, hstatus.always halways⟩
    · rw [hlog, verified_cons, ← hstatus.verified]
      simp [Call.startsDownload, Call.goodClose]
    · rw [hlog, closeFailed_cons, ← hstatus.closeFailed]
      simp [Call.startsDownload, Call.badClose]

end Process

/-! ## Runs -/

section Runs

variable (L : Libraries)

/-- A step of the `switch` that meets the condition keeps the invariant. -/
theorem GateInvariant.process {L : Libraries} {r : Results} {σ : OtaSystem}
    {event : OtaEventMsg} (h : GateInvariant σ) (hevent : σ.task = .processing event)
    (hcond : GateCondition L σ (.processEvent r)) :
    GateInvariant (Ota.processEvent L r σ event) := by
  have hbase := gateFrame_of_extends (.refl _ σ.agent.log)
  have hcall : ∀ c : Call, c.gateNeutral = true → GateFrame σ.agent.log (c :: σ.agent.log) :=
    fun c hc => gateFrame_of_extends ((Extends.refl _ _).cons hc)
  cases event with
  | requestJobDocument => exact h.processEvent (hcall _ rfl) (by simp [processOTAEvents])
  | receivedJobDocument => exact h.receivedJobDocument (hcond.2 hevent)
  | requestFileBlock => exact h.processEvent (hcall _ rfl) (by simp [processOTAEvents])
  | receivedFileBlock i =>
    rcases processOTAEvents_receivedFileBlock L r σ.agent i with heq | ⟨_, _, heq⟩
    · exact h.processEvent (by rw [heq]; exact hbase) (by rw [heq]; simp)
    · rw [receivedFileBlock_eq] at heq
      refine h.processEvent ?_ ?_
      · rw [heq]
        exact hcall _ rfl
      · rw [heq]
        split_ifs <;> simp
  | closeFile => exact h.closeFile (hcond.1 hevent).1 (hcond.1 hevent).2
  | activateImage => exact h.activateImage hevent
  | shutdown => exact h.processEvent (hcall _ rfl) (by simp [processOTAEvents])
  | suspend => exact h.processEvent hbase (by simp [processOTAEvents])
  | resume => exact h.processEvent hbase (by simp [processOTAEvents])
  | start => exact h.processEvent hbase (by simp [processOTAEvents])
  | createFile => exact h.processEvent hbase (by simp [processOTAEvents])
  | userAbort => exact h.processEvent hbase (by simp [processOTAEvents])

/-- A step that meets the condition keeps the invariant. -/
theorem GateInvariant.step {σ : OtaSystem} (a : Action) (h : GateInvariant σ)
    (hcond : GateCondition L σ a) : GateInvariant (step L σ a) := by
  have hstep := step_cases L σ a
  generalize Ota.step L σ a = τ at hstep ⊢
  cases hstep with
  | quiet hquiet =>
    obtain ⟨job, data, hagent⟩ := hquiet.agent
    refine h.of_frame ?_ ?_ (hquiet.sending _).mp
    · rw [hagent]
      exact gateFrame_of_extends (.refl _ _)
    · intro hmem
      exact (hquiet.pending _ hmem).resolve_right id
  | process r hevent => exact h.process hevent hcond
  | @send event hevent =>
    have hgate :
        SignatureGate σ.agent.log (.otaSendEvent event (!decide σ.otaEventQueue.Full)) := by
      refine ⟨by simp [Call.installs], fun hactivates => h.sending ?_⟩
      cases event with
      | activateImage => exact hevent
      | _ => simp [Call.activates] at hactivates
    refine h.of_frame ⟨fun halways => ⟨hgate, halways⟩, ?_, ?_⟩ (mem_pending_sendEvent hevent) ?_
    · show Verified (_ :: σ.agent.log) ↔ _
      rw [verified_cons]
      simp [Call.startsDownload, Call.goodClose]
    · show CloseFailed (_ :: σ.agent.log) ↔ _
      rw [closeFailed_cons]
      simp [Call.startsDownload, Call.badClose]
    · intro htask
      exact absurd htask not_sending_sendEvent

theorem gateInvariant_boot : GateInvariant (.boot L) where
  gate := trivial
  pending hmem := by
    simp [OtaSystem.pending, OtaSystem.boot, OtaTask.events, BoundedQueue.push, maxMessages] at hmem
  sending htask := by simp [OtaSystem.boot] at htask

/-- **The signature gate.** In a run whose steps all meet the condition, every
    install and every `ActivateImage` event of every download respects the gate. -/
theorem signatureGate_of_condition (as : List Action)
    (h : Along (Ota.step L) (GateCondition L) (.boot L) as) :
    Always SignatureGate (run (Ota.step L) (.boot L) as).agent.log :=
  (Along.inv (fun _ a hinv hcond => hinv.step L a hcond) (gateInvariant_boot L) h).gate

end Runs

/-! ## Two downloads -/

/-- A job document, one block of three bytes and the close of the file; the
    results of the finish, the signature check and the install are open. -/
def downloadOneBlock (psaFwuFinish psaVerify psaFwuInstall : PsaStatus) : List Action :=
  [.jobMessage startNextAcceptedTopic (startNextAccepted (ascii "A") [] 3 (ascii "MEUC")),
    .receiveEvent, .processEvent {}, .receiveEvent, .processEvent {}, .sendEvent,
    .receiveEvent, .processEvent {}, .dataMessage (streamBlock 0 0 (ascii "AAAA")) true,
    .receiveEvent, .processEvent { otaPalWriteBlock := 3 }, .sendEvent,
    .receiveEvent, .processEvent { psaFwuFinish := psaFwuFinish, psaVerify := psaVerify },
    .sendEvent, .receiveEvent, .processEvent { psaFwuInstall := psaFwuInstall }]

instance (L : Libraries) (σ : OtaSystem) (a : Action) : Decidable (GateCondition L σ a) :=
  match a with
  | .processEvent r =>
    inferInstanceAs (Decidable
      ((σ.task = .processing .closeFile →
        r.psaFwuFinish = psaSuccess ∧
          (otaPalCheckSignature L r = true → ¬ CloseFailed σ.agent.log)) ∧
      (σ.task = .processing .receivedJobDocument → .activateImage ∈ σ.pending →
        ¬ StartsDownload L r σ.agent)))
  | .receiveEvent | .sendEvent | .jobMessage _ _ | .dataMessage _ _ | .otaDemoTask _
  | .otaAgentShutdown => isTrue trivial

set_option maxRecDepth 20000 in
/-- A good download is installed through the gate. -/
theorem signatureGate_downloadOneBlock :
    Call.psaFwuInstall psaSuccessReboot ∈
        (run (step jsonDevice) (.boot jsonDevice) (downloadOneBlock 0 0 1)).agent.log ∧
      Always SignatureGate
        (run (step jsonDevice) (.boot jsonDevice) (downloadOneBlock 0 0 1)).agent.log :=
  ⟨by decide, signatureGate_of_condition jsonDevice (downloadOneBlock 0 0 1) (by decide)⟩

set_option maxRecDepth 20000 in
/-- `psa_fwu_finish` fails, and the image is installed. -/
theorem not_signatureGate_finishFails :
    ¬ Always SignatureGate
      (run (step jsonDevice) (.boot jsonDevice) (downloadOneBlock (-132) 0 1)).agent.log := by
  decide

end Corstone.Ota
