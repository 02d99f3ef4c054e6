import Corstone.Ota.DownloadChain
import Corstone.Ota.FailedUpdate

/-!
# The OTA hooks

`vOtaActiveHook` stops the inference of the application when a download starts.
`vOtaNotActiveHook`, which lets it go on, is called for a job document that
starts no download and at the shutdown, not where a download fails.

* `inferenceStopped_iff`: the inference is stopped only while a step of the
  download is in hand, in all states of a run, iff no step of the run breaks the
  last link.
* `not_inferenceStopped_badSignature`: the signature check fails.
-/

namespace Corstone.Ota

open Corstone.Lib

/-- The last hook in the history is `vOtaActiveHook`. -/
def lastHookActive : List Call → Bool
  | [] => false
  | .vOtaActiveHook :: _ => true
  | .vOtaNotActiveHook :: _ => false
  | _ :: log => lastHookActive log

/-- The inference is stopped. -/
def OtaAgent.InferenceStopped (s : OtaAgent) : Prop := lastHookActive s.log = true

/-- The event is a download, closing or activation step. -/
def OtaEventMsg.updates : OtaEventMsg → Bool
  | .requestFileBlock | .receivedFileBlock _ | .closeFile | .activateImage => true
  | _ => false

/-- While the inference is stopped, a step of the update is queued, held by the
    agent's task, or awaits a requested block. -/
def InferenceStoppedForUpdate (σ : OtaSystem) : Prop :=
  σ.Linked OtaEventMsg.updates OtaAgent.InferenceStopped

/-- The event is not the last link of an update that stops there: the publish of
    the block request fails, the agent is suspended or stopped when a block has
    arrived, the signature is wrong. Nothing follows an activation that returns;
    one that resets the device does not. -/
def KeepsUpdate (L : Libraries) (r : Results) (σ : OtaSystem) : OtaEventMsg → Prop
  | .requestFileBlock =>
    r.mqtt ≠ .transmitted → σ.agent.InferenceStopped → σ.HasOtherLink OtaEventMsg.updates
  | .receivedFileBlock _ =>
    ¬ σ.agent.Running → σ.agent.InferenceStopped → σ.HasOtherLink OtaEventMsg.updates
  | .closeFile =>
    r.psaFwuFinish = psaSuccess → otaPalCheckSignature L r = false →
      σ.agent.InferenceStopped → σ.HasOtherLink OtaEventMsg.updates
  | .activateImage => σ.agent.InferenceStopped → σ.HasOtherLink OtaEventMsg.updates
  | _ => True

instance (s : OtaAgent) : Decidable s.InferenceStopped := inferInstanceAs (Decidable (_ = _))

instance (σ : OtaSystem) : Decidable (InferenceStoppedForUpdate σ) :=
  inferInstanceAs (Decidable (_ → _))

/-! ## Hooks in the history -/

/-- The call is not a hook. -/
def Call.hookNeutral : Call → Bool
  | .vOtaActiveHook | .vOtaNotActiveHook => false
  | _ => true

theorem lastHookActive_extends {log log' : List Call} (h : Extends Call.hookNeutral log log') :
    lastHookActive log' = lastHookActive log := by
  refine h.eq fun c l hc => ?_
  cases c with
  | vOtaActiveHook => exact Bool.noConfusion hc
  | vOtaNotActiveHook => exact Bool.noConfusion hc
  | _ => rfl

section Events

variable {L : Libraries} {r : Results} {s : OtaAgent} {σ : OtaSystem}

/-- Only job documents and the shutdown call a hook. -/
theorem inferenceStopped_processOTAEvents {event : OtaEventMsg}
    (hjob : event ≠ .receivedJobDocument) (hshutdown : event ≠ .shutdown) :
    (processOTAEvents L r s event).1.InferenceStopped ↔ s.InferenceStopped := by
  have hcalls := (processOTAEvents_calls L r s event).mono (q := Call.hookNeutral) ?_
  · unfold OtaAgent.InferenceStopped
    rw [lastHookActive_extends hcalls]
  · intro c hc
    unfold Call.madeBy at hc
    split at hc
    · rfl
    · exact absurd rfl hjob
    · rfl
    · rfl
    · rfl
    · rfl
    · rfl
    · exact absurd rfl hshutdown
    · exact absurd hc Bool.false_ne_true

/-- A job document starts an update or calls `vOtaNotActiveHook`. -/
theorem receivedJobDocument_hook (hrunning : s.Running) :
    (processOTAEvents L r s .receivedJobDocument).2 = some .requestFileBlock ∨
      ¬ (processOTAEvents L r s .receivedJobDocument).1.InferenceStopped := by
  rw [receivedJobDocument_handled L r hrunning]
  generalize receivedJobDocumentHandler L r s = p
  cases hresult : p.2 with
  | fileCreated => exact Or.inl rfl
  | _ => exact Or.inr Bool.false_ne_true

/-- A step of the `switch` keeps the inference stopped only for an update iff it
    does not break the last link. -/
theorem inferenceStopped_processEvent_iff {event : OtaEventMsg}
    (h : InferenceStoppedForUpdate σ) (htask : σ.task = .processing event) :
    InferenceStoppedForUpdate (processEvent L r σ event) ↔ KeepsUpdate L r σ event := by
  unfold InferenceStoppedForUpdate at h ⊢
  cases event with
  | requestFileBlock =>
    have hactive : (processOTAEvents L r σ.agent .requestFileBlock).1.InferenceStopped ↔
        σ.agent.InferenceStopped := inferenceStopped_processOTAEvents (by simp) (by simp)
    change ((processOTAEvents L r σ.agent .requestFileBlock).1.InferenceStopped → _) ↔ _
    rw [hactive, hasLink_requestFileBlock]
    exact forall_comm
  | receivedFileBlock i =>
    have hactive : (processOTAEvents L r σ.agent (.receivedFileBlock i)).1.InferenceStopped ↔
        σ.agent.InferenceStopped := inferenceStopped_processOTAEvents (by simp) (by simp)
    by_cases hrunning : σ.agent.Running
    · -- the block is written, and the next request or the close follows
      have hnext : ∃ next, (processOTAEvents L r σ.agent (.receivedFileBlock i)).2 = some next ∧
          next.updates = true := by
        rw [receivedFileBlock_handled L r hrunning, receivedFileBlock_eq]
        refine ⟨_, rfl, ?_⟩
        split_ifs
        · rfl
        · rfl
      obtain ⟨next, hnext, hupdates⟩ := hnext
      apply iff_of_true
      · exact linked_processEvent_of_next hupdates hnext (by simp)
      · exact fun hstopped => absurd hrunning hstopped
    · have hnone := congrArg Prod.snd (receivedFileBlock_dropped L r hrunning i)
      rw [linked_processEvent_iff_other (by simp) (by simp [hnone]), hactive]
      exact ⟨fun hlink _ => hlink, fun hlink => hlink hrunning⟩
  | closeFile =>
    have hactive : (processOTAEvents L r σ.agent .closeFile).1.InferenceStopped ↔
        σ.agent.InferenceStopped := inferenceStopped_processOTAEvents (by simp) (by simp)
    have hnext : (processOTAEvents L r σ.agent .closeFile).2 =
        if (otaPalCloseFile L r σ.agent).2 then some .activateImage else none := rfl
    by_cases hclosed : (otaPalCloseFile L r σ.agent).2 = true
    · rw [if_pos hclosed] at hnext
      apply iff_of_true
      · exact linked_processEvent_of_next rfl hnext (by simp)
      · intro hfinish hcheck
        rw [otaPalCloseFile_eq, hcheck] at hclosed
        simp [hfinish] at hclosed
    · rw [if_neg hclosed] at hnext
      rw [linked_processEvent_iff_other (by simp) (by simp [hnext]), hactive]
      rw [otaPalCloseFile_eq] at hclosed
      simp only [Bool.or_eq_true, decide_eq_true_eq, not_or, not_not,
        Bool.not_eq_true] at hclosed
      exact ⟨fun hlink _ _ => hlink, fun hlink => hlink hclosed.1 hclosed.2⟩
  | activateImage =>
    have hactive : (processOTAEvents L r σ.agent .activateImage).1.InferenceStopped ↔
        σ.agent.InferenceStopped := inferenceStopped_processOTAEvents (by simp) (by simp)
    have hnext : ∀ e, (processOTAEvents L r σ.agent .activateImage).2 = some e →
        e.updates = false := by
      intro e he
      simp only [processOTAEvents] at he
      split_ifs at he
      rw [← Option.some.inj he]
      rfl
    rw [linked_processEvent_iff_other (by simp) hnext, hactive]
    exact Iff.rfl
  | receivedJobDocument =>
    refine iff_of_true ?_ trivial
    by_cases hrunning : σ.agent.Running
    · rcases @receivedJobDocument_hook L r σ.agent hrunning with hnext | hnot
      · exact linked_processEvent_of_next rfl hnext (by simp)
      · exact fun hstopped => absurd hstopped hnot
    · refine linked_processEvent_of_imp h htask rfl (by simp) ?_
      rw [receivedJobDocument_dropped L r hrunning]
      exact id
  | shutdown => exact iff_of_true (fun hstopped => absurd hstopped Bool.false_ne_true) trivial
  | _ =>
    exact iff_of_true (linked_processEvent_of_imp h htask rfl (by simp)
      (inferenceStopped_processOTAEvents (by simp) (by simp)).mp) trivial

end Events

/-! ## Runs -/

/-- **What one step does while the inference is stopped.** -/
theorem inferenceStopped_step_iff {L : Libraries} {σ : OtaSystem} (a : Action)
    (h : InferenceStoppedForUpdate σ) :
    InferenceStoppedForUpdate (step L σ a) ↔
      LinkCondition OtaEventMsg.updates OtaAgent.InferenceStopped (KeepsUpdate L) σ a :=
  linked_step_iff (fun _ => rfl) (fun _ _ _ => Iff.rfl) (fun _ _ _ => Iff.rfl)
    (fun _ _ htask => inferenceStopped_processEvent_iff h htask) h a

/-- No hook has been called at boot. -/
theorem inferenceStopped_boot (L : Libraries) : InferenceStoppedForUpdate (.boot L) :=
  fun hstopped => absurd hstopped Bool.false_ne_true

/-- **The hooks.** In all states of a run the inference is stopped only while a
    step of the update is in hand, iff no step of the run breaks the last link. -/
theorem inferenceStopped_iff (L : Libraries) (as : List Action) :
    (∀ pre, pre <+: as → InferenceStoppedForUpdate (run (step L) (.boot L) pre)) ↔
      Along (step L)
        (LinkCondition OtaEventMsg.updates OtaAgent.InferenceStopped (KeepsUpdate L))
        (.boot L) as :=
  forall_prefix_iff_along (fun _ a h => inferenceStopped_step_iff a h) (inferenceStopped_boot L) as

set_option maxRecDepth 20000 in
/-- The signature check of a complete download fails, and the inference stays
    stopped. -/
theorem not_inferenceStopped_badSignature :
    ¬ InferenceStoppedForUpdate (run (step jsonDevice) (.boot jsonDevice)
      (lastBlockWritten ++ [.processEvent { psaVerify := -149 }])) := by
  decide

end Corstone.Ota
