import Corstone.Ota.ComponentRouting
import Corstone.Ota.JsonDevice

/-!
# The calls of the firmware update service

`otaPal_Abort`, `otaPal_CloseFile`, `otaPal_SetPlatformImageState` and
`otaPal_ActivateNewImage` (`ota_pal.c` with its patches) with every call of
`psa_fwu_*` and the component that it is made for. The patches turn composite
error codes into `bool`; some bodies still assign a `bool` to a `psa_status_t`, or
return -1.

* `otaPalCloseFile_result`, `otaPalSetPlatformImageState_result`,
  `otaPalActivateNewImage_result`: the results are those of the OTA model.
* `otaPalAbort_eq`: an abort never reports that a call has failed.
* `mapped_iff`: when a call returns what it should, and names the component of the
  file.
* `not_mapped_cancelFails`: an abort whose `psa_fwu_cancel` fails.
-/

namespace Corstone.Ota.PalCalls

open Corstone.Lib ComponentRouting

/-! ## State and calls -/

/-- A component as it is passed to a call. -/
inductive Component
  /-- A local variable that has not been written. -/
  | uninitialised
  | id (id : UInt32)
  deriving DecidableEq

inductive FwuFunction
  | finish | install | requestReboot | reject | accept | query | cancel | clean
  deriving DecidableEq

/-- A call of `psa_fwu_*`. -/
structure FwuCall where
  function : FwuFunction
  /-- The component argument, of the functions that have one. -/
  component : Option Component
  status : PsaStatus
  deriving DecidableEq

/-- The statuses that are no failures. A device that is to be reset does not return. -/
def FwuCall.Accepted (c : FwuCall) : Prop :=
  match c.function with
  | .install | .reject => c.status = psaSuccess ∨ c.status = psaSuccessReboot
  | .requestReboot => False
  | _ => c.status = psaSuccess

/-- The context of a job. -/
structure Context where
  address : ℕ
  filePath : FilePath
  fileId : UInt32

/-- The statics of `ota_pal.c`. -/
structure Pal where
  pxSystemContext : Option ℕ
  xOTAComponentID : UInt32

/-- What a call leaves behind. -/
structure Outcome where
  pal : Pal
  /-- `pFileContext->fileId`. -/
  fileId : Option UInt32
  /-- The calls in their order. -/
  calls : List FwuCall
  result : Bool

/-- The conversion of `bool` to an integer. -/
def cInt (b : Bool) : ℤ := if b then 1 else 0

/-- `PSA_ERROR_INVALID_ARGUMENT`. -/
def psaErrorInvalidArgument : PsaStatus := -135

section Functions

variable (K : ComponentSet) (L : Libraries) (r : Results) (pal : Pal)

/-- The component of the file, if the context is not `NULL`. -/
def component (pFileContext : Option Context) : Option UInt32 :=
  pFileContext.bind fun context =>
    ComponentRouting.portConvertFilePathtoPSAComponentID K context.filePath

/-- `otaPal_Abort`. -/
def otaPalAbort : Option Context → Outcome
  | none => ⟨pal, none, [], false⟩
  | some context =>
    if pal.pxSystemContext ≠ some context.address ∧ pal.pxSystemContext ≠ none then
      ⟨pal, some context.fileId, [], false⟩
    else if context.fileId = 0 then ⟨pal, some context.fileId, [], true⟩
    else if pal.pxSystemContext ≠ some context.address ∧ pal.pxSystemContext ≠ none then
      ⟨pal, some 0, [], false⟩
    else if pal.pxSystemContext = none then ⟨pal, some context.fileId, [], true⟩
    else
      let lPsaStatus := psaSuccess
      let lPsaStatus := if r.psaFwuCancel ≠ psaSuccess then cInt false else lPsaStatus
      let lPsaStatus := if r.psaFwuClean ≠ psaSuccess then cInt false else lPsaStatus
      let retStatus := !(lPsaStatus ≠ psaSuccess ∧ lPsaStatus ≠ psaErrorInvalidArgument : Bool)
      ⟨⟨none, 0⟩, some 0,
        [⟨.cancel, some (.id pal.xOTAComponentID), r.psaFwuCancel⟩,
          ⟨.clean, some (.id pal.xOTAComponentID), r.psaFwuClean⟩], retStatus⟩

/-- `otaPal_CloseFile`. -/
def otaPalCloseFile (context : Context) : Outcome :=
  let finish : FwuCall := ⟨.finish, some (.id pal.xOTAComponentID), r.psaFwuFinish⟩
  if r.psaFwuFinish ≠ psaSuccess then ⟨pal, some context.fileId, [finish], cBool (-1)⟩
  else
    ⟨pal, some context.fileId,
      [finish, ⟨.query, some (.id pal.xOTAComponentID), r.psaFwuQuery⟩], otaPalCheckSignature L r⟩

/-- `otaPal_SetPlatformImageState` without an update in progress. -/
def setStateAfterReboot (pFileContext : Option Context) : OtaImageState → List FwuCall × Bool
  | .accepted =>
    match component K pFileContext with
    | none => ([], false)
    | some uxComponent =>
      if r.psaFwuAccept ≠ psaSuccess then ([⟨.accept, none, r.psaFwuAccept⟩], false)
      else
        ([⟨.accept, none, r.psaFwuAccept⟩, ⟨.clean, some (.id uxComponent), r.psaFwuClean⟩],
          r.psaFwuClean == psaSuccess)
  | .rejected =>
    ([⟨.reject, none, r.psaFwuReject⟩],
      r.psaFwuReject == psaSuccess || r.psaFwuReject == psaSuccessReboot)
  | .testing =>
    match component K pFileContext with
    | none => ([], false)
    | some uxComponent =>
      ([⟨.query, some (.id uxComponent), r.psaFwuStateQuery⟩],
        r.psaFwuStateQuery == psaSuccess && r.componentState == .trial)
  | .aborted => ([], true)
  | .unknown => ([], false)

/-- `otaPal_SetPlatformImageState` with an update in progress. The rejection queries
    `uxComponent`, which is not written there. -/
def setStateInUpdate (pFileContext : Option Context) : OtaImageState → List FwuCall × Bool
  | .rejected =>
    let query : FwuCall := ⟨.query, some .uninitialised, r.psaFwuStateQuery⟩
    if r.psaFwuStateQuery ≠ psaSuccess then ([query], false)
    else if r.componentState ≠ .staged then ([query], false)
    else
      ([query, ⟨.reject, none, r.psaFwuReject⟩],
        r.psaFwuReject == psaSuccess || r.psaFwuReject == psaSuccessReboot)
  | .aborted =>
    match component K pFileContext with
    | none => ([], false)
    | some uxComponent =>
      let cancel : FwuCall := ⟨.cancel, some (.id uxComponent), r.psaFwuCancel⟩
      if r.psaFwuCancel ≠ psaSuccess then ([cancel], false)
      else
        ([cancel, ⟨.clean, some (.id pal.xOTAComponentID), r.psaFwuClean⟩],
          r.psaFwuClean == psaSuccess)
  | _ => ([], false)

/-- `otaPal_SetPlatformImageState`. -/
def otaPalSetPlatformImageState (pFileContext : Option Context) (eState : OtaImageState) :
    Outcome :=
  let (calls, result) :=
    if pal.pxSystemContext = none then setStateAfterReboot K r pFileContext eState
    else setStateInUpdate K r pal pFileContext eState
  ⟨pal, pFileContext.map Context.fileId, calls, result⟩

/-- `otaPal_ActivateNewImage`, with `otaPal_ResetDevice`. -/
def otaPalActivateNewImage (pFileContext : Option Context) : Outcome :=
  let fileId := pFileContext.map Context.fileId
  if pFileContext = none ∨ pFileContext.map Context.address ≠ pal.pxSystemContext ∨
      L.fwuComponentNumber ≤ pal.xOTAComponentID then ⟨pal, fileId, [], false⟩
  else
    let install : FwuCall := ⟨.install, none, r.psaFwuInstall⟩
    if r.psaFwuInstall = psaSuccessReboot then
      ⟨pal, fileId, [install, ⟨.requestReboot, none, psaSuccess⟩], false⟩
    else ⟨pal, fileId, [install], r.psaFwuInstall == psaSuccess⟩

end Functions

/-! ## The OTA model -/

section Agreement

variable {K : ComponentSet} {L : Libraries} {r : Results} {pal : Pal} {s : OtaAgent}
  {context : Context}

theorem otaPalCloseFile_result :
    (otaPalCloseFile L r pal context).result = (Ota.otaPalCloseFile L r s).2 := by
  unfold otaPalCloseFile Ota.otaPalCloseFile
  dsimp only
  split_ifs <;> rfl

theorem otaPalSetPlatformImageState_result
    (hsystem : s.pxSystemContext = pal.pxSystemContext.isSome)
    (hfile : (Ota.portConvertFilePathtoPSAComponentID s).isSome =
      (component K (some context)).isSome) (eState : OtaImageState) :
    (otaPalSetPlatformImageState K r pal (some context) eState).result =
      setPlatformImageStateResult r s eState := by
  unfold otaPalSetPlatformImageState setPlatformImageStateResult
  rw [hsystem, hfile]
  by_cases hnone : pal.pxSystemContext = none
  · rw [if_pos hnone, if_pos (by rw [hnone]; rfl)]
    cases eState with
    | accepted =>
      cases hcomponent : component K (some context) with
      | none => simp [setStateAfterReboot, hcomponent]
      | some uxComponent =>
        by_cases haccept : r.psaFwuAccept = psaSuccess
        · simp [setStateAfterReboot, hcomponent, haccept]
        · simp [setStateAfterReboot, hcomponent, haccept]
    | testing =>
      cases hcomponent : component K (some context) with
      | none => simp [setStateAfterReboot, hcomponent]
      | some uxComponent => simp [setStateAfterReboot, hcomponent]
    | _ => rfl
  · rw [if_neg hnone, if_neg (by simpa using hnone)]
    cases eState with
    | rejected =>
      unfold setStateInUpdate
      dsimp only
      split_ifs with hquery hstate
      · simp [hquery]
      · simp [hstate]
      · simp [not_not.mp hquery, not_not.mp hstate]
    | aborted =>
      cases hcomponent : component K (some context) with
      | none => simp [setStateInUpdate, hcomponent]
      | some uxComponent =>
        by_cases hcancel : r.psaFwuCancel = psaSuccess
        · simp [setStateInUpdate, hcomponent, hcancel]
        · simp [setStateInUpdate, hcomponent, hcancel]
    | _ => rfl

theorem otaPalActivateNewImage_result
    (hsystem : pal.pxSystemContext = if s.pxSystemContext then some context.address else none)
    (hid : pal.xOTAComponentID = s.xOTAComponentID) :
    (otaPalActivateNewImage L r pal (some context)).result =
      (Ota.otaPalActivateNewImage L r s).2 := by
  unfold otaPalActivateNewImage Ota.otaPalActivateNewImage
  rw [hid]
  cases hcontext : s.pxSystemContext with
  | false => simp [hsystem, hcontext]
  | true =>
    simp only [hsystem, hcontext]
    split_ifs <;> simp_all

end Agreement

/-! ## The purpose -/

/-- A call of the platform abstraction layer. A context that is closed is not `NULL`. -/
inductive PalCall
  | abort (pFileContext : Option Context)
  | closeFile (context : Context)
  | setPlatformImageState (pFileContext : Option Context) (eState : OtaImageState)
  | activateNewImage (pFileContext : Option Context)

namespace PalCall

variable (K : ComponentSet) (L : Libraries) (r : Results) (pal : Pal)

def outcome : PalCall → Outcome
  | .abort pFileContext => otaPalAbort r pal pFileContext
  | .closeFile context => otaPalCloseFile L r pal context
  | .setPlatformImageState pFileContext eState =>
    otaPalSetPlatformImageState K r pal pFileContext eState
  | .activateNewImage pFileContext => otaPalActivateNewImage L r pal pFileContext

/-- The component of the file. -/
def file : PalCall → Option UInt32
  | .abort pFileContext => component K pFileContext
  | .closeFile context => component K (some context)
  | .setPlatformImageState pFileContext _ => component K pFileContext
  | .activateNewImage pFileContext => component K pFileContext

/-- What is checked besides the results of the calls: the context, the path, the
    signature, and the state that a call is allowed in. -/
def Checks : PalCall → Prop
  | .abort pFileContext => ∃ context, pFileContext = some context ∧
      (pal.pxSystemContext = none ∨ pal.pxSystemContext = some context.address)
  | .closeFile _ =>
    (L.signatureAsn1Der = true → r.rawSignature = true) ∧ r.psaGetKeyAttributes = psaSuccess ∧
      r.psaVerify = psaSuccess
  | .setPlatformImageState pFileContext eState =>
    match eState with
    | .accepted => pal.pxSystemContext = none ∧ component K pFileContext ≠ none
    | .rejected => pal.pxSystemContext ≠ none → r.componentState = .staged
    | .testing => pal.pxSystemContext = none ∧ component K pFileContext ≠ none ∧
        r.componentState = .trial
    | .aborted => pal.pxSystemContext ≠ none → component K pFileContext ≠ none
    | .unknown => False
  | .activateNewImage pFileContext => ∃ context, pFileContext = some context ∧
      pal.pxSystemContext = some context.address ∧ pal.xOTAComponentID < L.fwuComponentNumber

/-- The calls that are required. The update in progress is cancelled by an abort, and
    by the state `OtaImageStateAborted`. -/
def required : PalCall → List FwuFunction
  | .abort none => []
  | .abort (some context) =>
    if pal.pxSystemContext = some context.address then [.cancel, .clean] else []
  | .closeFile _ => [.finish, .query]
  | .setPlatformImageState _ eState =>
    match eState with
    | .accepted => [.accept, .clean]
    | .rejected => if pal.pxSystemContext = none then [.reject] else [.query, .reject]
    | .testing => [.query]
    | .aborted => if pal.pxSystemContext = none then [] else [.cancel, .clean]
    | .unknown => []
  | .activateNewImage _ =>
    if r.psaFwuInstall = psaSuccessReboot then [.install, .requestReboot] else [.install]

/-- The call returns `true` iff its checks pass and every required call is made and
    accepted, and every call that names a component names that of the file. -/
structure Mapped (a : PalCall) : Prop where
  result : (a.outcome K L r pal).result = true ↔ a.Checks K L r pal ∧
    ∀ f ∈ a.required r pal, ∃ c ∈ (a.outcome K L r pal).calls, c.function = f ∧ c.Accepted
  component : ∀ c ∈ (a.outcome K L r pal).calls, ∀ component ∈ c.component,
    ∃ id, a.file K = some id ∧ component = .id id

/-- An abort of the update in progress finds a file id that is not 0, and its calls
    succeed; `psa_fwu_finish` succeeds; an update in progress is not rejected; and
    `xOTAComponentID` is the component of the file where it is used. -/
def MappedCondition : PalCall → Prop
  | .abort pFileContext => ∀ context ∈ pFileContext, pal.pxSystemContext = some context.address →
      context.fileId ≠ 0 ∧ r.psaFwuCancel = psaSuccess ∧ r.psaFwuClean = psaSuccess ∧
        Ota.PalCalls.component K (some context) = some pal.xOTAComponentID
  | .closeFile context => r.psaFwuFinish = psaSuccess ∧
      Ota.PalCalls.component K (some context) = some pal.xOTAComponentID
  | .setPlatformImageState pFileContext eState =>
    match eState with
    | .rejected => pal.pxSystemContext = none
    | .aborted => pal.pxSystemContext ≠ none → r.psaFwuCancel = psaSuccess →
        ∀ id ∈ Ota.PalCalls.component K pFileContext, id = pal.xOTAComponentID
    | _ => True
  | .activateNewImage _ => True

end PalCall

/-! ## The single calls -/

section Calls

variable {K : ComponentSet} {L : Libraries} {r : Results} {pal : Pal}

open PalCall

/-- The status of an abort is 0, whether its calls succeed or fail. -/
theorem otaPalAbort_eq {context : Context} (hsystem : pal.pxSystemContext = some context.address)
    (hfileId : context.fileId ≠ 0) :
    otaPalAbort r pal (some context) = ⟨⟨none, 0⟩, some 0,
      [⟨.cancel, some (.id pal.xOTAComponentID), r.psaFwuCancel⟩,
        ⟨.clean, some (.id pal.xOTAComponentID), r.psaFwuClean⟩], true⟩ := by
  unfold otaPalAbort
  simp [hsystem, hfileId, cInt, psaSuccess]

/-- An abort that makes no call. -/
theorem otaPalAbort_quiet {context : Context}
    (h : pal.pxSystemContext ≠ some context.address ∨ context.fileId = 0) :
    otaPalAbort r pal (some context) = ⟨pal, some context.fileId, [],
      decide (pal.pxSystemContext = none ∨ pal.pxSystemContext = some context.address)⟩ := by
  unfold otaPalAbort
  by_cases hnone : pal.pxSystemContext = none
  · simp [hnone]
  · by_cases hsystem : pal.pxSystemContext = some context.address
    · simp [hsystem, h.resolve_left (not_not.mpr hsystem)]
    · simp [hnone, hsystem]

/-- What is to be shown of a call with this outcome. -/
theorem mapped_iff_of_outcome {a : PalCall} {out : Outcome} (hout : a.outcome K L r pal = out) :
    a.Mapped K L r pal ↔
      (out.result = true ↔ a.Checks K L r pal ∧
        ∀ f ∈ a.required r pal, ∃ c ∈ out.calls, c.function = f ∧ c.Accepted) ∧
      ∀ c ∈ out.calls, ∀ component ∈ c.component,
        ∃ id, a.file K = some id ∧ component = .id id := by
  subst hout
  exact ⟨fun h => ⟨h.result, h.component⟩, fun h => ⟨h.1, h.2⟩⟩

theorem abort_mapped_iff (pFileContext : Option Context) :
    (PalCall.abort pFileContext).Mapped K L r pal ↔
      (PalCall.abort pFileContext).MappedCondition K r pal := by
  cases pFileContext with
  | none =>
    have hout : (PalCall.abort none).outcome K L r pal = ⟨pal, none, [], false⟩ := rfl
    rw [mapped_iff_of_outcome hout]
    simp [Checks, MappedCondition]
  | some context =>
    by_cases hopen : pal.pxSystemContext = some context.address ∧ context.fileId ≠ 0
    · obtain ⟨hsystem, hfileId⟩ := hopen
      have hout : (PalCall.abort (some context)).outcome K L r pal = _ :=
        otaPalAbort_eq (r := r) hsystem hfileId
      rw [mapped_iff_of_outcome hout]
      simp [Checks, required, MappedCondition, FwuCall.Accepted, file, hsystem, hfileId, and_assoc]
    · have hquiet := not_and_or.mp hopen
      have hout : (PalCall.abort (some context)).outcome K L r pal = _ :=
        otaPalAbort_quiet (r := r) (hquiet.imp_right not_not.mp)
      rw [mapped_iff_of_outcome hout]
      by_cases hsystem : pal.pxSystemContext = some context.address
      · have hfileId : context.fileId = 0 := hquiet.elim (absurd hsystem) not_not.mp
        simp [Checks, required, MappedCondition, hsystem, hfileId]
        exact ⟨.cancel, fun h => absurd rfl h⟩
      · simp [Checks, required, MappedCondition, hsystem]

theorem otaPalCheckSignature_iff :
    otaPalCheckSignature L r = true ↔ r.psaFwuQuery = psaSuccess ∧
      (L.signatureAsn1Der = true → r.rawSignature = true) ∧ r.psaGetKeyAttributes = psaSuccess ∧
        r.psaVerify = psaSuccess := by
  unfold otaPalCheckSignature
  split_ifs with hquery hraw hkey hverify <;> simp_all

theorem closeFile_mapped_iff (context : Context) :
    (PalCall.closeFile context).Mapped K L r pal ↔
      (PalCall.closeFile context).MappedCondition K r pal := by
  by_cases hfinish : r.psaFwuFinish = psaSuccess
  · have hout : (PalCall.closeFile context).outcome K L r pal = _ :=
      if_neg (not_not.mpr hfinish)
    rw [mapped_iff_of_outcome hout, otaPalCheckSignature_iff]
    simp [Checks, required, MappedCondition, FwuCall.Accepted, file, hfinish]
    tauto
  · have hout : (PalCall.closeFile context).outcome K L r pal = _ := if_pos hfinish
    rw [mapped_iff_of_outcome hout]
    simp [required, MappedCondition, hfinish, cBool]

/-- The image state is set without an update in progress. -/
theorem setPlatformImageState_mapped (hsystem : pal.pxSystemContext = none)
    (pFileContext : Option Context) (eState : OtaImageState) :
    (PalCall.setPlatformImageState pFileContext eState).Mapped K L r pal := by
  have hout : (PalCall.setPlatformImageState pFileContext eState).outcome K L r pal =
      ⟨pal, pFileContext.map Context.fileId, (setStateAfterReboot K r pFileContext eState).1,
        (setStateAfterReboot K r pFileContext eState).2⟩ := by
    simp [outcome, otaPalSetPlatformImageState, hsystem]
  rw [mapped_iff_of_outcome hout]
  cases eState with
  | unknown => simp [setStateAfterReboot, Checks]
  | testing =>
    cases hfile : component K pFileContext with
    | none => simp [setStateAfterReboot, Checks, hfile]
    | some uxComponent =>
      simp [setStateAfterReboot, Checks, required, FwuCall.Accepted, file, hfile,
        hsystem, and_comm]
  | accepted =>
    cases hfile : component K pFileContext with
    | none => simp [setStateAfterReboot, Checks, hfile]
    | some uxComponent =>
      by_cases haccept : r.psaFwuAccept = psaSuccess
      · simp [setStateAfterReboot, Checks, required, FwuCall.Accepted, file, hfile, hsystem,
          haccept]
      · simp [setStateAfterReboot, Checks, required, FwuCall.Accepted, file, hfile, hsystem,
          haccept]
        exact ⟨.accept, fun h => absurd rfl h⟩
  | rejected =>
    simp [setStateAfterReboot, Checks, required, FwuCall.Accepted, hsystem]
  | aborted => simp [setStateAfterReboot, Checks, required, hsystem]

/-- The image state is set while an update is in progress. -/
theorem setPlatformImageState_mapped_iff (hsystem : pal.pxSystemContext ≠ none)
    (pFileContext : Option Context) (eState : OtaImageState) :
    (PalCall.setPlatformImageState pFileContext eState).Mapped K L r pal ↔
      (PalCall.setPlatformImageState pFileContext eState).MappedCondition K r pal := by
  have hout : (PalCall.setPlatformImageState pFileContext eState).outcome K L r pal =
      ⟨pal, pFileContext.map Context.fileId, (setStateInUpdate K r pal pFileContext eState).1,
        (setStateInUpdate K r pal pFileContext eState).2⟩ := by
    simp [outcome, otaPalSetPlatformImageState, hsystem]
  rw [mapped_iff_of_outcome hout]
  cases eState with
  | unknown => simp [setStateInUpdate, Checks, MappedCondition]
  | testing => simp [setStateInUpdate, Checks, MappedCondition, hsystem]
  | accepted => simp [setStateInUpdate, Checks, MappedCondition, hsystem]
  | rejected =>
    refine iff_of_false (fun h => ?_) hsystem
    have hquery : ⟨.query, some .uninitialised, r.psaFwuStateQuery⟩ ∈
        (setStateInUpdate K r pal pFileContext .rejected).1 := by
      unfold setStateInUpdate
      dsimp only
      split_ifs <;> simp
    obtain ⟨id, -, hid⟩ := h.2 _ hquery .uninitialised rfl
    exact nomatch hid
  | aborted =>
    cases hfile : component K pFileContext with
    | none => simp [setStateInUpdate, Checks, MappedCondition, hfile, hsystem]
    | some uxComponent =>
      by_cases hcancel : r.psaFwuCancel = psaSuccess
      · simp [setStateInUpdate, Checks, required, MappedCondition, FwuCall.Accepted, file,
          hfile, hsystem, hcancel]
        exact eq_comm
      · simp [setStateInUpdate, Checks, required, MappedCondition, FwuCall.Accepted, file,
          hfile, hsystem, hcancel]
        exact ⟨.cancel, fun h => absurd rfl h⟩

theorem activateNewImage_mapped (pFileContext : Option Context) :
    (PalCall.activateNewImage pFileContext).Mapped K L r pal := by
  by_cases hchecks : (PalCall.activateNewImage pFileContext).Checks K L r pal
  · obtain ⟨context, rfl, hsystem, hnumber⟩ := id hchecks
    have hguard : ¬ (some context = none ∨
        (some context).map Context.address ≠ pal.pxSystemContext ∨
          L.fwuComponentNumber ≤ pal.xOTAComponentID) := by
      simp [hsystem, UInt32.not_le, hnumber]
    have hout : (PalCall.activateNewImage (some context)).outcome K L r pal = _ := if_neg hguard
    rw [mapped_iff_of_outcome hout]
    by_cases hreboot : r.psaFwuInstall = psaSuccessReboot
    · rw [if_pos hreboot]
      simp [hchecks, required, FwuCall.Accepted, hreboot]
    · rw [if_neg hreboot]
      simp [hchecks, required, FwuCall.Accepted, hreboot]
  · have hguard : pFileContext = none ∨
        pFileContext.map Context.address ≠ pal.pxSystemContext ∨
          L.fwuComponentNumber ≤ pal.xOTAComponentID := by
      by_contra! hguard
      obtain ⟨context, rfl⟩ := Option.ne_none_iff_exists'.mp hguard.1
      exact hchecks ⟨context, rfl, hguard.2.1.symm, UInt32.not_le.mp hguard.2.2⟩
    have hout : (PalCall.activateNewImage pFileContext).outcome K L r pal = _ := if_pos hguard
    rw [mapped_iff_of_outcome hout]
    simp [hchecks]

end Calls

/-- **The mapping.** For every state, context and results, a call returns `true` iff its
    checks pass and the required calls are made and accepted, and names the component
    of the file alone, iff it meets the condition. -/
theorem mapped_iff (K : ComponentSet) (L : Libraries) (r : Results) (pal : Pal) (a : PalCall) :
    a.Mapped K L r pal ↔ a.MappedCondition K r pal := by
  cases a with
  | abort pFileContext => exact abort_mapped_iff pFileContext
  | closeFile context => exact closeFile_mapped_iff context
  | setPlatformImageState pFileContext eState =>
    by_cases hsystem : pal.pxSystemContext = none
    · refine iff_of_true (setPlatformImageState_mapped hsystem pFileContext eState) ?_
      cases eState with
      | rejected => exact hsystem
      | aborted => exact absurd hsystem
      | _ => trivial
    · exact setPlatformImageState_mapped_iff hsystem pFileContext eState
  | activateNewImage pFileContext =>
    exact iff_of_true (activateNewImage_mapped pFileContext) trivial

/-- The job whose file is the non-secure image. -/
def nonSecureJob : Context := ⟨1, ⟨some fun i => (ascii "non_secure image").getD i 0, 16⟩, 1⟩

/-- The update of the job is in progress, and `psa_fwu_cancel` fails when it is
    aborted. -/
theorem not_mapped_cancelFails :
    ¬ (PalCall.abort (some nonSecureJob)).Mapped corstone jsonDevice { psaFwuCancel := -132 }
      ⟨some 1, 1⟩ := by
  intro h
  obtain ⟨c, hc, hfunction, haccepted⟩ := (h.result.mp (by decide)).2 .cancel (by decide)
  obtain rfl | hc := List.mem_cons.mp hc
  · exact absurd (show (-132 : ℤ) = 0 from haccepted) (by decide)
  · obtain rfl := List.mem_singleton.mp hc
    exact nomatch hfunction

end Corstone.Ota.PalCalls
