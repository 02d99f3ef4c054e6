import Corstone.Ota.JsonDevice

/-!
# Anti-rollback after the self test

The old image reports its version, packed into 32 bits, in the `updatedBy`
field of the job. The new image reads it back and accepts itself if it is
newer. It reads it into a `uint16_t`, which holds the build number only.

* `unsignedVersion32_lt_iff`: packed versions compare like the triples.
* `updatedByVer_eq`: what comes back is the build number of the old image.
* `antiRollback_iff`: the version comes back and decides iff the major and the
  minor number of the old image are zero.
* `not_antiRollback_downgrade`: version 0.0.1 accepts itself after 1.0.0.
-/

namespace Corstone.Ota

open Corstone.Lib

/-! ## Packed versions -/

theorem unsignedVersion32_toNat (v : AppVersion32) :
    v.unsignedVersion32.toNat =
      v.build.toNat + v.minor.toNat * 2 ^ 16 + v.major.toNat * 2 ^ 24 := by
  have hbuild := v.build.toNat_lt
  have hminor := v.minor.toNat_lt
  have hmajor := v.major.toNat_lt
  rw [AppVersion32.unsignedVersion32, UInt32.toNat_ofNat', Nat.mod_eq_of_lt]
  omega

/-- The order of packed versions is the lexicographic order of the triples. -/
theorem unsignedVersion32_lt_iff (v w : AppVersion32) :
    v.unsignedVersion32 < w.unsignedVersion32 ↔
      v.major < w.major ∨ v.major = w.major ∧
        (v.minor < w.minor ∨ v.minor = w.minor ∧ v.build < w.build) := by
  have hv₁ := v.build.toNat_lt
  have hv₂ := v.minor.toNat_lt
  have hw₁ := w.build.toNat_lt
  have hw₂ := w.minor.toNat_lt
  rw [UInt32.lt_iff_toNat_lt, unsignedVersion32_toNat, unsignedVersion32_toNat,
    UInt8.lt_iff_toNat_lt, UInt8.lt_iff_toNat_lt, UInt16.lt_iff_toNat_lt, ← UInt8.toNat_inj,
    ← UInt8.toNat_inj]
  omega

/-- The build number is what the packed version leaves in 16 bits. -/
theorem unsignedVersion32_mod (v : AppVersion32) :
    v.unsignedVersion32.toNat % 2 ^ 16 = v.build.toNat := by
  have hbuild := v.build.toNat_lt
  rw [unsignedVersion32_toNat]
  omega

/-! ## The redelivered job -/

/-- The handler sets the platform image state to accepted. -/
def AcceptsImage (L : Libraries) (r : Results) (s : OtaAgent) : Prop :=
  ∃ calls result, (receivedJobDocumentHandler L r s).1.log = calls ++ s.log ∧
    .otaPalSetPlatformImageState .accepted result ∈ calls

/-- The calls of a self test with its verdict. -/
theorem verdict_log (L : Libraries) (r : Results) (s : OtaAgent) (eState : OtaImageState)
    (status : JobCurrentStatus) :
    ∃ jobId updatedBy handled, (sendFinalJobStatusMessage r
        (otaPalSetPlatformImageState r (newJobParsed L s).1 eState).1 status).log =
      [.jobsUpdate jobId status 3 updatedBy r.mqtt,
        .otaPalSetPlatformImageState eState
          (setPlatformImageStateResult r (newJobParsed L s).1 eState),
        .jobDocumentParser handled, .jobIdRecorded (s.jobId L)] ++ s.log :=
  ⟨_, _, _, rfl⟩

/-- The `updatedBy` text of the latest status update. -/
def publishedUpdatedBy : List Call → Bytes
  | .jobsUpdate _ _ _ updatedBy _ :: _ => updatedBy
  | _ => []

@[simp] theorem publishedUpdatedBy_jobsUpdate (jobId : Bytes) (status : JobCurrentStatus)
    (expectedVersion : ℕ) (updatedBy : Bytes) (outcome : MqttOutcome) (log : List Call) :
    publishedUpdatedBy (.jobsUpdate jobId status expectedVersion updatedBy outcome :: log) =
      updatedBy := rfl

/-- The image of version `previous` sends its status details, and the image of
    version `running` gets the job with these details in pending commit state. -/
structure Redelivery (L : Libraries) (r₁ : Results) (s₁ : OtaAgent) (r₂ : Results) (s₂ : OtaAgent)
    (previous running : AppVersion32) : Prop where
  previousVersion : otaPalGetPlatformImageVersion r₁ s₁ = some previous
  newJob : NewJob L s₂
  parsed : (newJobParsed L s₂).2 = true
  pendingCommit : otaPalGetPlatformImageState r₂ (newJobParsed L s₂).1 = .pendingCommit
  runningVersion : otaPalGetPlatformImageVersion r₂ (newJobParsed L s₂).1 = some running
  updatedBy : (newJobParsed L s₂).1.read (newJobParsed L s₂).1.jobStatusDetails.updatedBy
    (newJobParsed L s₂).1.jobStatusDetails.updatedByLen =
      publishedUpdatedBy (sendStatusDetailsMessage r₁ s₁).log

section Redelivery

variable {L : Libraries} {r₁ r₂ : Results} {s₁ s₂ : OtaAgent} {previous running : AppVersion32}
  (h : Redelivery L r₁ s₁ r₂ s₂ previous running)
include h

/-- The version that comes back is the build number of the one that was sent. -/
theorem updatedByVer_eq : updatedByVer (newJobParsed L s₂).1 = previous.build := by
  have hsent : publishedUpdatedBy (sendStatusDetailsMessage r₁ s₁).log =
      decimal previous.unsignedVersion32.toNat := by
    rw [sendStatusDetailsMessage_log, publishedUpdatedBy_jobsUpdate, h.previousVersion,
      Option.getD_some]
  have hread := congrArg strtoul (h.updatedBy.trans hsent)
  rw [strtoul_decimal] at hread
  apply UInt16.toNat_inj.mp
  rw [updatedByVer, hread, UInt32.toNat_toUInt16, unsignedVersion32_mod]

/-- The self test compares with the version that comes back. -/
theorem acceptsImage_iff :
    AcceptsImage L r₂ s₂ ↔
      (updatedByVer (newJobParsed L s₂).1).toNat < running.unsignedVersion32.toNat := by
  have hhandler := receivedJobDocumentHandler_selfTest L r₂ s₂ h.newJob h.parsed h.pendingCommit
  have hself : selfTest r₂ (newJobParsed L s₂).1 =
      if (updatedByVer (newJobParsed L s₂).1).toNat < running.unsignedVersion32.toNat then
        (sendFinalJobStatusMessage r₂
          (otaPalSetPlatformImageState r₂ (newJobParsed L s₂).1 .accepted).1 .succeeded,
          .newImageBooted)
      else
        (sendFinalJobStatusMessage r₂
          (otaPalSetPlatformImageState r₂ (newJobParsed L s₂).1 .rejected).1 .failed,
          .newImageBootFailed) := by
    rw [selfTest, h.runningVersion, Option.getD_some]
  rw [AcceptsImage, hhandler, hself]
  constructor
  · rintro ⟨calls, result, hlog, hmem⟩
    by_contra hle
    obtain ⟨jobId, updatedBy, handled, hverdict⟩ := verdict_log L r₂ s₂ .rejected .failed
    rw [if_neg hle, hverdict, List.append_left_inj] at hlog
    rw [← hlog] at hmem
    simp at hmem
  · intro hlt
    obtain ⟨jobId, updatedBy, handled, hverdict⟩ := verdict_log L r₂ s₂ .accepted .succeeded
    rw [if_pos hlt]
    exact ⟨_, setPlatformImageStateResult r₂ (newJobParsed L s₂).1 .accepted, hverdict, by simp⟩

/-- **Anti-rollback.** The old version comes back as it was sent, and the new
    image is accepted exactly when it is newer, iff the old version is nothing
    but a build number. -/
theorem antiRollback_iff :
    ((AcceptsImage L r₂ s₂ ↔ previous.unsignedVersion32 < running.unsignedVersion32) ∧
        (updatedByVer (newJobParsed L s₂).1).toNat = previous.unsignedVersion32.toNat) ↔
      previous.major = 0 ∧ previous.minor = 0 := by
  have hback := updatedByVer_eq h
  have hpacked := unsignedVersion32_toNat previous
  rw [acceptsImage_iff h, hback, UInt32.lt_iff_toNat_lt, ← UInt8.toNat_inj, ← UInt8.toNat_inj]
  constructor
  · rintro ⟨_, hbuild⟩
    rw [hpacked] at hbuild
    exact ⟨by simp; omega, by simp; omega⟩
  · rintro ⟨hmajor, hminor⟩
    have hbuild : previous.unsignedVersion32.toNat = previous.build.toNat := by
      rw [hpacked, hmajor, hminor]
      simp
    rw [hbuild]
    exact ⟨Iff.rfl, rfl⟩

end Redelivery

/-! ## Two updates -/

/-- A device whose job document has just been parsed. -/
def parsedJob (details : Bytes) : OtaAgent :=
  (newJobParsed jsonDevice (fillJobDocBuffer (.boot jsonDevice)
    (startNextAccepted (ascii "A") details 3 (ascii "MEUC")))).1

/-- A device that has booted and received the job with its status details. -/
def bootedWithJob (updatedBy : Bytes) : OtaAgent :=
  fillJobDocBuffer (.boot jsonDevice)
    (startNextAccepted (ascii "A") (statusDetails updatedBy) 3 (ascii "MEUC"))

/-- The results of a device that runs `version` in pending commit state. -/
def runs (version : FwuImageVersion) : Results :=
  { componentVersion := version, platformImageState := .pendingCommit }

set_option maxRecDepth 20000 in
/-- Version 0.0.7 is followed by 0.0.8. -/
theorem antiRollback_upgrade :
    (AcceptsImage jsonDevice (runs ⟨0, 0, 8⟩) (bootedWithJob (ascii "7")) ↔
        (⟨0, 0, 7⟩ : AppVersion32).unsignedVersion32 <
          (⟨0, 0, 8⟩ : AppVersion32).unsignedVersion32) ∧
      (updatedByVer (newJobParsed jsonDevice (bootedWithJob (ascii "7"))).1).toNat =
        (⟨0, 0, 7⟩ : AppVersion32).unsignedVersion32.toNat :=
  (@antiRollback_iff _ (runs ⟨0, 0, 7⟩) _ (parsedJob []) _ _ _
    ⟨by decide, by decide, by decide, by decide, by decide, by decide⟩).mpr ⟨rfl, rfl⟩

set_option maxRecDepth 20000 in
/-- Version 1.0.0 is followed by 0.0.1. -/
theorem not_antiRollback_downgrade :
    Redelivery jsonDevice (runs ⟨1, 0, 0⟩) (parsedJob []) (runs ⟨0, 0, 1⟩)
        (bootedWithJob (ascii "16777216")) ⟨1, 0, 0⟩ ⟨0, 0, 1⟩ ∧
      AcceptsImage jsonDevice (runs ⟨0, 0, 1⟩) (bootedWithJob (ascii "16777216")) ∧
      ¬ (⟨1, 0, 0⟩ : AppVersion32).unsignedVersion32 <
        (⟨0, 0, 1⟩ : AppVersion32).unsignedVersion32 := by
  have h : Redelivery jsonDevice (runs ⟨1, 0, 0⟩) (parsedJob []) (runs ⟨0, 0, 1⟩)
      (bootedWithJob (ascii "16777216")) ⟨1, 0, 0⟩ ⟨0, 0, 1⟩ :=
    ⟨by decide, by decide, by decide, by decide, by decide, by decide⟩
  refine ⟨h, ?_, by decide⟩
  rw [acceptsImage_iff h, updatedByVer_eq h]
  decide

end Corstone.Ota
