import Corstone.Ota.EventCalls
import Corstone.Ota.JsonDevice

/-!
# Suspension

The task that watches the connection suspends the agent and resumes it. Events
that were queued before are still dequeued in between. The received job document
and the received file block look at the state of the agent; the request for a
job document, the block request, the close and the activation do not.

* `suspension_iff`: a suspension holds in all states of a run iff no event that
  does not look at the state is processed in it.
* `not_suspensionHolds_requestQueued`: a block request is queued before the
  suspension.
-/

namespace Corstone.Ota

open Corstone.Lib

/-- A block is requested or written, a file closed, an image activated. -/
def Call.worksOnDownload : Call → Bool
  | .getDataBlockRequest _ _ _ | .otaPalWriteBlock _ _ _ | .otaPalCloseFile _ _
  | .psaFwuInstall _ => true
  | _ => false

/-- The system with the calls made until the last suspension, as long as no
    event has ended it. -/
structure Suspension where
  system : OtaSystem
  suspendedAt : Option (List Call)

namespace Suspension

def boot (L : Libraries) : Suspension := ⟨.boot L, none⟩

/-- What a processed event does to the suspension, with the calls so far. -/
def after (log : List Call) (suspendedAt : Option (List Call)) :
    OtaEventMsg → Option (List Call)
  | .suspend => some log
  | .resume => none
  | .shutdown => none
  | _ => suspendedAt

/-- One step, with the suspension it starts, keeps or ends. -/
def step (L : Libraries) (t : Suspension) (a : Action) : Suspension where
  system := Ota.step L t.system a
  suspendedAt :=
    match a, t.system.task with
    | .processEvent _, .processing event =>
      after (Ota.step L t.system a).agent.log t.suspendedAt event
    | _, _ => t.suspendedAt

/-- Since the suspension the state is `OtaAgentStateSuspended` and no call has
    worked on a download. -/
def Holds (t : Suspension) : Prop :=
  ∀ log, t.suspendedAt = some log →
    t.system.agent.otaAgentState = .suspended ∧
      Extends (fun c => !c.worksOnDownload) log t.system.agent.log

/-- The event does not work on a download and does not leave the suspension. An
    activation gets no further than the check of the component id. -/
def Respects (L : Libraries) (s : OtaAgent) : OtaEventMsg → Prop
  | .requestJobDocument => False
  | .requestFileBlock => False
  | .closeFile => False
  | .activateImage => s.pxSystemContext = false ∨ L.fwuComponentNumber ≤ s.xOTAComponentID
  | _ => True

/-- An event that is processed during a suspension respects it. -/
def Condition (L : Libraries) (t : Suspension) : Action → Prop
  | .processEvent _ =>
    ∀ event, t.system.task = .processing event → t.suspendedAt ≠ none →
      Respects L t.system.agent event
  | _ => True

/-! ## Steps -/

section Steps

variable {L : Libraries} {r : Results} {t : Suspension} {s : OtaAgent} {log : List Call}

/-- A step without an event makes no call that works on a download. -/
theorem step_of_not_processing {σ : OtaSystem} {a : Action}
    (h : ∀ r event, a = .processEvent r → σ.task ≠ .processing event) :
    (Ota.step L σ a).agent.otaAgentState = σ.agent.otaAgentState ∧
      Extends (fun c => !c.worksOnDownload) σ.agent.log (Ota.step L σ a).agent.log := by
  apply step_agent_cases (P := fun t => t.otaAgentState = σ.agent.otaAgentState ∧
    Extends (fun c => !c.worksOnDownload) σ.agent.log t.log) σ a
  · intro _ _
    exact ⟨rfl, Extends.refl _ _⟩
  · intro event sent
    exact ⟨rfl, (Extends.refl _ _).cons rfl⟩
  · intro r event ha hevent
    exact absurd hevent (h r event ha)

/-- A call of this kind is not in an extension without it. -/
theorem not_extends_cons {c : Call} (hc : c.worksOnDownload = true) {l : List Call}
    (hlog : Extends (fun c => !c.worksOnDownload) log l) :
    ¬ Extends (fun c => !c.worksOnDownload) log (c :: l) := by
  obtain ⟨calls, -, rfl⟩ := hlog
  rw [← List.cons_append, Extends.append_iff]
  intro hcalls
  simpa [hc] using hcalls c List.mem_cons_self

/-- What an event does in a suspension. -/
theorem suspended_processOTAEvents_iff (hstate : s.otaAgentState = .suspended)
    (hlog : Extends (fun c => !c.worksOnDownload) log s.log) {event : OtaEventMsg}
    (hresume : event ≠ .resume) (hshutdown : event ≠ .shutdown) :
    ((processOTAEvents L r s event).1.otaAgentState = .suspended ∧
      Extends (fun c => !c.worksOnDownload) log (processOTAEvents L r s event).1.log) ↔
      Respects L s event := by
  have hdropped : ¬ (s.otaAgentState ≠ .suspended ∧ s.otaAgentState ≠ .stopped) :=
    fun hrun => hrun.1 hstate
  cases event with
  | requestJobDocument =>
    apply iff_of_false
    · exact fun h => OtaState.noConfusion h.1
    · exact not_false
  | receivedJobDocument =>
    rw [receivedJobDocument_dropped L r hdropped]
    exact iff_of_true ⟨hstate, hlog⟩ trivial
  | requestFileBlock =>
    apply iff_of_false
    · exact fun h => OtaState.noConfusion h.1
    · exact not_false
  | receivedFileBlock i =>
    rw [receivedFileBlock_dropped L r hdropped]
    exact iff_of_true ⟨hstate, hlog⟩ trivial
  | closeFile =>
    apply iff_of_false
    · rintro ⟨-, hextends⟩
      revert hextends
      simp only [processOTAEvents, otaPalCloseFile]
      split_ifs
      · exact not_extends_cons rfl hlog
      · exact not_extends_cons rfl hlog
    · exact not_false
  | activateImage =>
    have hmessage : Extends (fun c => !c.worksOnDownload) log (sendStatusDetailsMessage r s).log :=
      hlog.cons rfl
    have hagent : (processOTAEvents L r s .activateImage).1 =
        (otaPalActivateNewImage L r (sendStatusDetailsMessage r s)).1 := rfl
    rw [hagent]
    show _ ↔ s.pxSystemContext = false ∨ L.fwuComponentNumber ≤ s.xOTAComponentID
    have hcontext : (sendStatusDetailsMessage r s).pxSystemContext = s.pxSystemContext := rfl
    have hcomponent : (sendStatusDetailsMessage r s).xOTAComponentID = s.xOTAComponentID := rfl
    by_cases hrefused : s.pxSystemContext = false ∨ L.fwuComponentNumber ≤ s.xOTAComponentID
    · rw [otaPalActivateNewImage, hcontext, hcomponent, if_pos hrefused]
      exact iff_of_true ⟨hstate, hmessage⟩ hrefused
    · refine iff_of_false ?_ hrefused
      rintro ⟨-, hextends⟩
      refine not_extends_cons (c := .psaFwuInstall r.psaFwuInstall) rfl hmessage ?_
      rw [otaPalActivateNewImage, hcontext, hcomponent, if_neg hrefused] at hextends
      dsimp only at hextends
      split_ifs at hextends <;> exact hextends
  | resume => exact absurd rfl hresume
  | shutdown => exact absurd rfl hshutdown
  | suspend => exact iff_of_true ⟨rfl, hlog⟩ trivial
  | start => exact iff_of_true ⟨hstate, hlog⟩ trivial
  | createFile => exact iff_of_true ⟨hstate, hlog⟩ trivial
  | userAbort => exact iff_of_true ⟨hstate, hlog⟩ trivial

/-- An event that is processed keeps the suspension iff it respects it. -/
theorem holds_processing_iff (h : t.Holds) {event : OtaEventMsg}
    (htask : t.system.task = .processing event) :
    (step L t (.processEvent r)).Holds ↔
      (t.suspendedAt ≠ none → Respects L t.system.agent event) := by
  have hagent : (step L t (.processEvent r)).system.agent =
      (processOTAEvents L r t.system.agent event).1 := by
    show (Ota.step L t.system (.processEvent r)).agent = _
    rw [step_processEvent htask]
    rfl
  have hat : (step L t (.processEvent r)).suspendedAt =
      after (processOTAEvents L r t.system.agent event).1.log t.suspendedAt event := by
    rw [← hagent]
    simp only [step, htask]
  unfold Holds
  rw [hagent, hat]
  by_cases hends : event = .resume ∨ event = .shutdown
  · have hnone : ∀ log, after log t.suspendedAt event = none := by
      rcases hends with rfl | rfl
      · exact fun _ => rfl
      · exact fun _ => rfl
    apply iff_of_true
    · intro log hsome
      rw [hnone] at hsome
      exact absurd hsome.symm (Option.some_ne_none log)
    · rcases hends with rfl | rfl
      · exact fun _ => trivial
      · exact fun _ => trivial
  · obtain ⟨hresume, hshutdown⟩ := not_or.mp hends
    by_cases hsuspend : event = .suspend
    · subst hsuspend
      apply iff_of_true
      · intro log hsome
        rw [← Option.some.inj hsome]
        exact ⟨rfl, Extends.refl _ _⟩
      · exact fun _ => trivial
    · have hkept : ∀ log, after log t.suspendedAt event = t.suspendedAt := by
        intro log
        unfold after
        split
        · exact absurd rfl hsuspend
        · exact absurd rfl hresume
        · exact absurd rfl hshutdown
        · rfl
      rw [hkept]
      cases hsome : t.suspendedAt with
      | none => simp
      | some log =>
        obtain ⟨hstate, hlog⟩ := h log hsome
        have hiff := @suspended_processOTAEvents_iff L r _ log hstate hlog event hresume hshutdown
        rw [← hiff]
        simp

/-- **What one step does to a suspension.** -/
theorem holds_step_iff (h : t.Holds) (a : Action) : (step L t a).Holds ↔ Condition L t a := by
  by_cases hprocess : ∃ r event, a = .processEvent r ∧ t.system.task = .processing event
  · obtain ⟨r, event, rfl, htask⟩ := hprocess
    rw [holds_processing_iff h htask]
    constructor
    · intro hrespects event' htask' hsuspended
      obtain rfl : event = event' := OtaTask.processing.inj (htask.symm.trans htask')
      exact hrespects hsuspended
    · exact fun hcondition => hcondition event htask
  · have hnot : ∀ r event, a = .processEvent r → t.system.task ≠ .processing event :=
      fun r event ha htask => hprocess ⟨r, event, ha, htask⟩
    have hcondition : Condition L t a := by
      cases a with
      | processEvent r => exact fun event htask => absurd htask (hnot r event rfl)
      | _ => trivial
    refine iff_of_true ?_ hcondition
    obtain ⟨hstate, hcalls⟩ := @step_of_not_processing L t.system a hnot
    have hat : (step L t a).suspendedAt = t.suspendedAt := by
      unfold step
      split
      · next r event htask => exact absurd htask (hnot r event rfl)
      · rfl
    intro log hsome
    rw [hat] at hsome
    obtain ⟨hsuspended, hlog⟩ := h log hsome
    exact ⟨hstate.trans hsuspended, hlog.trans hcalls⟩

end Steps

/-! ## Runs -/

/-- **Suspensions.** The suspension holds in all states of a run iff the events
    that the run processes in it respect it. -/
theorem suspension_iff (L : Libraries) (as : List Action) :
    (∀ pre, pre <+: as → (run (step L) (boot L) pre).Holds) ↔
      Along (step L) (Condition L) (boot L) as :=
  forall_prefix_iff_along (J := Holds) (fun _ a h => holds_step_iff h a)
    (fun _ hsome => absurd hsome (Option.some_ne_none _).symm) as

/-- A suspended agent drops the job documents and blocks that arrive. -/
theorem respects_of_external (L : Libraries) (s : OtaAgent) {event : OtaEventMsg}
    (h : event.External) : Respects L s event := by
  cases event with
  | requestJobDocument => exact h
  | requestFileBlock => exact h
  | closeFile => exact h
  | activateImage => exact h.elim
  | _ => trivial

/-- The connection is lost before the document of a job is processed. The first
    block request is queued when the suspension is dequeued. -/
def requestQueued : List Action :=
  [.jobMessage startNextAcceptedTopic (startNextAccepted (ascii "A") [] 3 (ascii "MEUC")),
    .receiveEvent, .processEvent {}, .otaDemoTask false, .receiveEvent, .processEvent {},
    .sendEvent, .receiveEvent, .processEvent {}, .receiveEvent, .processEvent {}]

set_option maxRecDepth 20000 in
/-- The block is requested, and the agent is not suspended any more. -/
theorem not_suspensionHolds_requestQueued :
    ¬ (run (step jsonDevice) (boot jsonDevice) requestQueued).Holds := by
  have hsuspended : (run (step jsonDevice) (boot jsonDevice) requestQueued).suspendedAt.isSome =
      true := by decide
  have hstate : (run (step jsonDevice) (boot jsonDevice) requestQueued).system.agent.otaAgentState ≠
      .suspended := by decide
  obtain ⟨log, hlog⟩ := Option.isSome_iff_exists.mp hsuspended
  intro h
  exact hstate (h log hlog).1

end Suspension

end Corstone.Ota
