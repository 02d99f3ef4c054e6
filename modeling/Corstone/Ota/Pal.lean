import Corstone.Ota.Types

/-!
# The OTA platform abstraction layer

Models of the functions of `ota_pal.c`, as its patches in
`freertos_ota_pal_psa/integration/patches` leave them (0002 and 0005; 0003 adds
the ML model path). The context argument is always `&jobFields`.

`otaPal_CloseFile` returns `bool`, but leaves with `return -1` when
`psa_fwu_finish` fails; `cBool` is the conversion C applies to that value.
`otaPalCloseFile_eq` says what comes out.
-/

namespace Corstone.Ota

open Corstone.Lib

/-- The conversion of an integer to `bool`. -/
def cBool (x : ℤ) : Bool := x ≠ 0

/-- The bytes of a string literal. -/
def ascii (s : String) : Bytes := s.toList.map fun c => UInt8.ofNat c.toNat

/-- `FWU_COMPONENT_ID_SECURE`, `FWU_COMPONENT_ID_NONSECURE` and
    `FWU_COMPONENT_ID_ML_MODEL` with the paths the job document names them by,
    in the order of the comparisons. -/
def componentPaths : List (Bytes × UInt32) :=
  [(ascii "secure image", 0), (ascii "non_secure image", 1), (ascii "ml_model image", 2)]

/-- `PortConvertFilePathtoPSAComponentID`: the first component whose path the
    file path starts with (`memcmp` over the length of the literal). -/
def portConvertFilePathtoPSAComponentID (s : OtaAgent) : Option UInt32 :=
  if s.jobFields.filepath = .null then none
  else (componentPaths.find? fun pc => s.read s.jobFields.filepath pc.1.length == pc.1).map Prod.snd

/-- `otaPal_CreateFileForRx`. -/
def otaPalCreateFileForRx (r : Results) (s : OtaAgent) :
    OtaAgent × OtaPalJobDocProcessingResult :=
  match portConvertFilePathtoPSAComponentID s with
  | none =>
    (s.call (.otaPalCreateFileForRx .fileCreateFailed), .fileCreateFailed)
  | some uxComponent =>
    if r.psaFwuStart ≠ psaSuccess then
      (s.call (.otaPalCreateFileForRx .fileCreateFailed), .fileCreateFailed)
    else
      ({ s with
          pxSystemContext := true
          xOTAComponentID := uxComponent
          jobFields := { s.jobFields with fileId := uxComponent } }.call
        (.otaPalCreateFileForRx .fileCreated), .fileCreated)

/-- `otaPal_WriteBlock`: the number of bytes written or an error code. -/
def otaPalWriteBlock (r : Results) (s : OtaAgent) (offset : UInt32) (data : Bytes) :
    OtaAgent × ℤ :=
  (s.call (.otaPalWriteBlock offset data r.otaPalWriteBlock), r.otaPalWriteBlock)

/-- `otaPal_CheckSignature`. -/
def otaPalCheckSignature (L : Libraries) (r : Results) : Bool :=
  if r.psaFwuQuery ≠ psaSuccess then false
  else if L.signatureAsn1Der && !r.rawSignature then false
  else if r.psaGetKeyAttributes ≠ psaSuccess then false
  else if r.psaVerify ≠ psaSuccess then false
  else true

/-- `otaPal_CloseFile`. -/
def otaPalCloseFile (L : Libraries) (r : Results) (s : OtaAgent) : OtaAgent × Bool :=
  if r.psaFwuFinish ≠ psaSuccess then
    (s.call (.otaPalCloseFile r.psaFwuFinish none), cBool (-1))
  else
    (s.call (.otaPalCloseFile r.psaFwuFinish (some (otaPalCheckSignature L r))),
      otaPalCheckSignature L r)

/-- `otaPal_ActivateNewImage`; a `psa_fwu_install` that asks for a reboot
    returns only when the reset has failed. -/
def otaPalActivateNewImage (L : Libraries) (r : Results) (s : OtaAgent) : OtaAgent × Bool :=
  if s.pxSystemContext = false ∨ L.fwuComponentNumber ≤ s.xOTAComponentID then (s, false)
  else
    let s := s.call (.psaFwuInstall r.psaFwuInstall)
    if r.psaFwuInstall = psaSuccessReboot then (s, false)
    else if r.psaFwuInstall = psaSuccess then (s, true)
    else (s, false)

/-- The result of `otaPal_SetPlatformImageState`. -/
def setPlatformImageStateResult (r : Results) (s : OtaAgent) (eState : OtaImageState) : Bool :=
  if s.pxSystemContext = false then
    match eState with
    | .accepted =>
      (portConvertFilePathtoPSAComponentID s).isSome && r.psaFwuAccept == psaSuccess &&
        r.psaFwuClean == psaSuccess
    | .rejected => r.psaFwuReject == psaSuccess || r.psaFwuReject == psaSuccessReboot
    | .testing =>
      (portConvertFilePathtoPSAComponentID s).isSome && r.psaFwuStateQuery == psaSuccess &&
        r.componentState == .trial
    | .aborted => true
    | .unknown => false
  else
    match eState with
    | .accepted => false
    | .rejected =>
      r.psaFwuStateQuery == psaSuccess && r.componentState == .staged &&
        (r.psaFwuReject == psaSuccess || r.psaFwuReject == psaSuccessReboot)
    | .aborted =>
      (portConvertFilePathtoPSAComponentID s).isSome && r.psaFwuCancel == psaSuccess &&
        r.psaFwuClean == psaSuccess
    | _ => false

/-- `otaPal_SetPlatformImageState`. -/
def otaPalSetPlatformImageState (r : Results) (s : OtaAgent) (eState : OtaImageState) :
    OtaAgent × Bool :=
  let result := setPlatformImageStateResult r s eState
  (s.call (.otaPalSetPlatformImageState eState result), result)

/-- `otaPal_GetPlatformImageState`. -/
def otaPalGetPlatformImageState (r : Results) (s : OtaAgent) : OtaPalImageState :=
  match portConvertFilePathtoPSAComponentID s with
  | none => .invalid
  | some _ => r.platformImageState

/-- `otaPal_GetPlatformImageVersion`: the version, if it can be read. The
    32-bit build number of the service is cut to 16 bits. -/
def otaPalGetPlatformImageVersion (r : Results) (s : OtaAgent) : Option AppVersion32 :=
  match portConvertFilePathtoPSAComponentID s with
  | none => none
  | some _ =>
    if r.psaFwuQuery ≠ psaSuccess then none
    else some
      { major := r.componentVersion.major
        minor := r.componentVersion.minor
        build := r.componentVersion.build.toUInt16 }

/-- `otaPal_CloseFile` returns `true` after a failed `psa_fwu_finish` as well
    as after a good signature. -/
theorem otaPalCloseFile_eq (L : Libraries) (r : Results) (s : OtaAgent) :
    (otaPalCloseFile L r s).2 = (r.psaFwuFinish ≠ psaSuccess || otaPalCheckSignature L r) := by
  unfold otaPalCloseFile
  by_cases h : r.psaFwuFinish = psaSuccess <;> simp [h, cBool]

/-- `otaPal_ActivateNewImage` calls `psa_fwu_install` or does nothing. -/
theorem otaPalActivateNewImage_cases (L : Libraries) (r : Results) (s : OtaAgent) :
    (otaPalActivateNewImage L r s).1 = s ∨
      (otaPalActivateNewImage L r s).1 = s.call (.psaFwuInstall r.psaFwuInstall) := by
  unfold otaPalActivateNewImage
  dsimp only
  split_ifs
  · exact Or.inl rfl
  · exact Or.inr rfl
  · exact Or.inr rfl
  · exact Or.inr rfl

end Corstone.Ota
