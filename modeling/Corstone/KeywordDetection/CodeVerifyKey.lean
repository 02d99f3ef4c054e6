import Corstone.Lib.Run

/-!
# The code-verification key across boots

Models of `main` (`keyword_detection/main.c`) up to the start of the scheduler,
and of `uxIsDeviceProvisioned`, `xOtaProvisionCodeSigningKey` and
`xWriteDeviceProvisioned` (`provisioning/dev_mode_key_provisioning.c`) with the
crypto service of TF-M. A boot is one step. It keeps the internal trusted
storage and starts with new variables and without volatile keys, and the
code-signing key is one of these.

* `main_codeVerifyKey_iff`: what a boot leaves in `xOTACodeVerifyKeyHandle`.
* `codeVerifyKey_iff`: the OTA task has its key in all boots of a sequence iff no
  boot that starts the task finds the device provisioned.
* `not_codeVerifyKey_secondBoot`: the second boot.
-/

namespace Corstone.KeywordDetection

open Corstone.Lib

/-- A key of the PSA key store. -/
inductive PsaKey
  /-- `codeSigningPublicKey` of the provisioning bundle. -/
  | codeSigningPublicKey
  | other
  deriving DecidableEq

/-- `AWS_OTA_SIGN_RSA` or `AWS_OTA_SIGN_ECDSA`. -/
inductive SignatureType
  | rsa | ecdsa
  deriving DecidableEq

/-- `BOOT_PATTERN`. -/
def bootPattern : UInt8 := 0x55

/-- The device. -/
structure Device where
  /-- What the internal trusted storage has under `FIRST_BOOT_ITS_UID`. -/
  its : Option UInt8
  /-- The volatile keys; the handle `n + 1` is that of the key `n`. -/
  volatileKeys : List PsaKey
  xOTACodeVerifyKeyHandle : ℕ
  /-- `main` has called `vStartOtaTask`. -/
  otaTaskStarted : Bool

/-- The results of the calls of a boot. -/
structure BootResults where
  tfmNsInterfaceInit : Bool := true
  eventHelperInit : Bool := true
  psaItsGet : Bool := true
  devModeKeyProvisioning : Bool := true
  convertPemToDer : Bool := true
  /-- `mbedtls_pk_parse_public_key` and `mbedtls_pk_get_psa_attributes`. -/
  parsePublicKey : Bool := true
  psaImportKey : Bool := true
  psaItsSet : Bool := true
  queueCreate : Bool := true
  awsCredentialsValid : Bool := true
  networkStartup : Bool := true

namespace Device

/-- The device before its first boot. -/
def new : Device := ⟨none, [], 0, false⟩

/-- The memory is lost. -/
def reset (d : Device) : Device := { new with its := d.its }

/-- The key that a handle denotes. `PSA_KEY_HANDLE_NULL` denotes none. -/
def key (d : Device) : ℕ → Option PsaKey
  | 0 => none
  | n + 1 => d.volatileKeys[n]?

/-- `psa_import_key` or `mbedtls_pk_import_into_psa`: a new volatile key. -/
def importKey (d : Device) (key : PsaKey) : Device × ℕ :=
  ({ d with volatileKeys := d.volatileKeys ++ [key] }, d.volatileKeys.length + 1)

@[simp] theorem key_importKey (d : Device) (key : PsaKey) :
    (d.importKey key).1.key (d.importKey key).2 = some key := by
  simp [importKey, Device.key]

end Device

section Provisioning

variable (signature : SignatureType) (r : BootResults)

/-- `uxIsDeviceProvisioned` (lines 1473–1503). -/
def uxIsDeviceProvisioned (d : Device) : Bool :=
  match r.psaItsGet, d.its with
  | true, some bootPatternInIts => bootPatternInIts = bootPattern
  | _, _ => false

/-- `xWriteDeviceProvisioned` (lines 1505–1524): an entry that is written once
    stays. -/
def xWriteDeviceProvisioned (d : Device) : Device × Bool :=
  if r.psaItsSet = true ∧ d.its = none then ({ d with its := some bootPattern }, true)
  else (d, false)

/-- `xOtaProvisionCodeSigningKey` (lines 1378–1471) for the handle of `main`. The
    attributes keep the lifetime of `PSA_KEY_ATTRIBUTES_INIT`, a volatile one. -/
def xOtaProvisionCodeSigningKey (d : Device) : Device × Bool :=
  if r.convertPemToDer = false then (d, false)
  else if signature = .rsa ∧ r.parsePublicKey = false then (d, false)
  else if r.psaImportKey = false then ({ d with xOTACodeVerifyKeyHandle := 0 }, false)
  else
    let (d, handle) := d.importKey .codeSigningPublicKey
    ({ d with xOTACodeVerifyKeyHandle := handle }, true)

/-- The provisioning of `main` (lines 198–231): whether it goes on. -/
def provision (d : Device) : Device × Bool :=
  if uxIsDeviceProvisioned r d then (d, true)
  else if r.devModeKeyProvisioning = false then (d, false)
  else
    match xOtaProvisionCodeSigningKey signature r d with
    | (d, false) => (d, false)
    | (d, true) => xWriteDeviceProvisioned r d

/-- `main` (lines 158–289) until the scheduler starts. -/
def main (d : Device) : Device :=
  if r.tfmNsInterfaceInit = false ∨ r.eventHelperInit = false then d
  else
    match provision signature r d with
    | (d, false) => d
    | (d, true) =>
      if r.queueCreate = true ∧ r.awsCredentialsValid = true ∧ r.networkStartup = true then
        { d with otaTaskStarted := true }
      else d

/-- A boot. -/
def boot (d : Device) (r : BootResults) : Device := main signature r d.reset

end Provisioning

/-- When the OTA task has been started, the handle denotes the code-signing
    key. -/
def CodeVerifyKey (d : Device) : Prop :=
  d.otaTaskStarted = true → d.key d.xOTACodeVerifyKeyHandle = some .codeSigningPublicKey

/-- All calls of `main` that do not depend on the provisioning succeed. -/
def BootResults.Starts (r : BootResults) : Prop :=
  r.tfmNsInterfaceInit = true ∧ r.eventHelperInit = true ∧ r.queueCreate = true ∧
    r.awsCredentialsValid = true ∧ r.networkStartup = true

/-- A boot that finds the device provisioned does not get as far as
    `vStartOtaTask`. -/
def BootCondition (d : Device) (r : BootResults) : Prop :=
  uxIsDeviceProvisioned r d.reset = true → ¬ r.Starts

section Boots

variable {signature : SignatureType} {r : BootResults} {d : Device}

/-- The provisioning does not start the task. -/
theorem otaTaskStarted_provision (signature : SignatureType) (r : BootResults) (d : Device) :
    (provision signature r d).1.otaTaskStarted = d.otaTaskStarted := by
  unfold provision
  split_ifs
  · rfl
  · rfl
  · unfold xOtaProvisionCodeSigningKey xWriteDeviceProvisioned
    split_ifs <;> (try rfl)
    dsimp only [Device.importKey]
    split_ifs <;> rfl

/-- On a provisioned device the provisioning does nothing. -/
theorem provision_of_provisioned (signature : SignatureType)
    (h : uxIsDeviceProvisioned r d = true) :
    provision signature r d = (d, true) := by
  unfold provision
  rw [if_pos h]

/-- A boot that provisions the device and goes on has the key. -/
theorem key_provision (hnew : uxIsDeviceProvisioned r d = false)
    (hgoes : (provision signature r d).2 = true) :
    (provision signature r d).1.key (provision signature r d).1.xOTACodeVerifyKeyHandle =
      some .codeSigningPublicKey := by
  have hkey := d.key_importKey .codeSigningPublicKey
  revert hgoes
  unfold provision
  rw [hnew, if_neg Bool.false_ne_true]
  split_ifs
  · exact fun hgoes => hgoes.elim
  · unfold xOtaProvisionCodeSigningKey
    split_ifs
    · exact fun hgoes => hgoes.elim
    · exact fun hgoes => hgoes.elim
    · exact fun hgoes => hgoes.elim
    · dsimp only
      unfold xWriteDeviceProvisioned
      split_ifs
      · exact fun _ => hkey
      · exact fun _ => hkey

/-- `main` starts the task iff the calls succeed and the provisioning goes on. -/
theorem otaTaskStarted_boot_iff (signature : SignatureType) (d : Device) (r : BootResults) :
    (boot signature d r).otaTaskStarted = true ↔
      r.Starts ∧ (provision signature r d.reset).2 = true := by
  have hstarted := otaTaskStarted_provision signature r d.reset
  have hreset : d.reset.otaTaskStarted = false := rfl
  unfold boot main BootResults.Starts
  generalize provision signature r d.reset = p at hstarted ⊢
  obtain ⟨d', goes⟩ := p
  rw [hreset] at hstarted
  by_cases hinit : r.tfmNsInterfaceInit = false ∨ r.eventHelperInit = false
  · rw [if_pos hinit, hreset]
    obtain htfm | hevent := hinit
    · simp [htfm]
    · simp [hevent]
  · rw [if_neg hinit]
    simp only [not_or, Bool.not_eq_false] at hinit
    cases goes <;> split_ifs <;> simp_all

/-- When `main` starts the task it leaves what the provisioning left. -/
theorem boot_eq_provision (hstarted : (boot signature d r).otaTaskStarted = true) :
    (boot signature d r).key (boot signature d r).xOTACodeVerifyKeyHandle =
      (provision signature r d.reset).1.key
        (provision signature r d.reset).1.xOTACodeVerifyKeyHandle := by
  obtain ⟨⟨htfm, hevent, hqueue, hcredentials, hnetwork⟩, hgoes⟩ :=
    (otaTaskStarted_boot_iff signature d r).1 hstarted
  unfold boot main
  generalize provision signature r d.reset = p at hgoes ⊢
  obtain ⟨d', goes⟩ := p
  obtain rfl : goes = true := hgoes
  simp only [htfm, hevent, hqueue, hcredentials, hnetwork, Bool.true_eq_false, or_self,
    and_self, if_true, if_false]
  rfl

/-- **One boot.** It leaves the key for the OTA task iff it meets the condition. -/
theorem main_codeVerifyKey_iff (d : Device) (r : BootResults) :
    CodeVerifyKey (boot signature d r) ↔ BootCondition d r := by
  unfold CodeVerifyKey BootCondition
  constructor
  · intro hkey hprov hstarts
    have hgoes := provision_of_provisioned signature hprov
    have hstarted := (otaTaskStarted_boot_iff signature d r).2
      ⟨hstarts, by rw [hgoes]⟩
    have hnone := hkey hstarted
    rw [boot_eq_provision hstarted, hgoes] at hnone
    -- the reset left no key for the handle 0
    exact absurd hnone.symm (Option.some_ne_none _)
  · intro hcond hstarted
    obtain ⟨hstarts, hgoes⟩ := (otaTaskStarted_boot_iff signature d r).1 hstarted
    have hnew : uxIsDeviceProvisioned r d.reset = false :=
      Bool.eq_false_iff.2 fun hprov => hcond hprov hstarts
    rw [boot_eq_provision hstarted]
    exact key_provision hnew hgoes

/-- **The code-verification key.** In all boots of a sequence the OTA task has its
    key iff no boot that starts it finds the device provisioned. -/
theorem codeVerifyKey_iff (signature : SignatureType) (boots : List BootResults) :
    (∀ pre, pre <+: boots → CodeVerifyKey (run (boot signature) .new pre)) ↔
      Along (boot signature) BootCondition .new boots :=
  forall_prefix_iff_along (J := CodeVerifyKey) (fun d r _ => main_codeVerifyKey_iff d r)
    (fun hstarted => absurd hstarted Bool.false_ne_true) boots

/-- The first boot provisions the device, and the second finds it so. -/
theorem not_codeVerifyKey_secondBoot :
    ¬ CodeVerifyKey (run (boot .ecdsa) .new [{}, {}]) := by
  intro h
  have hkey := h (by decide)
  revert hkey
  decide

end Boots

end Corstone.KeywordDetection
