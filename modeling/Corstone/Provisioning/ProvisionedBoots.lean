import Corstone.KeywordDetection.CodeVerifyKey
import Corstone.Provisioning.ProvisionDevice

/-!
# The credentials across boots

Models of `vAlternateKeyProvisioning` and `vDevModeKeyProvisioning`
(`dev_mode_key_provisioning.c`, lines 1294–1376), and of the boots of a board whose token
and whose trusted storage are kept. `main` is that of `KeywordDetection`, with what
`vDevModeKeyProvisioning` returns. A new public key is taken as a token object, though
its template has no `CKA_TOKEN`, and `C_CloseSession` is left out.

* `its_boot`: only a provisioning that succeeds stores the boot pattern.
* `credentials_of_its`: where the boot pattern is stored, the token has the credentials of the
  bundle, as long as no boot fails to read it.
-/

namespace Corstone.Provisioning

open Corstone.Lib
open Corstone.KeywordDetection (SignatureType BootResults bootPattern uxIsDeviceProvisioned)

def ckrGeneralError : CkRv := 5

/-! ## Model -/

/-- `PROVISIONING_MAGIC`. -/
def provisioningMagic : UInt32 := 0xC0DEFEED

/-- `ProvisioningParamsBundle_t`, without the key for code signing: a pointer that is not NULL,
    and the bytes behind it. -/
structure ProvisioningParamsBundle where
  provisioningMagic1 : UInt32 := provisioningMagic
  pucClientPrivateKey : Option Bytes
  pucClientCertificate : Option Bytes
  pucJITPCertificate : Option Bytes
  provisioningMagic2 : UInt32 := provisioningMagic

/-- A string that is not empty, with its NUL; an empty one is replaced by NULL (lines
    1334–1373). -/
def credential (p : Option Bytes) : Option Bytes :=
  p.bind fun s => if cstr s = [] then none else some (cstr s ++ [0])

theorem credential_ne_nil (p : Option Bytes) : ∀ c ∈ credential p, c ≠ [] := by
  intro c hc
  rw [credential, Option.mem_def, Option.bind_eq_some_iff] at hc
  obtain ⟨s, -, hs⟩ := hc
  split_ifs at hs
  rw [← Option.some.inj hs]
  exact List.append_ne_nil_of_right_ne_nil _ (List.cons_ne_nil 0 [])

def ProvisioningParamsBundle.provisioningParams (bundle : ProvisioningParamsBundle) :
    ProvisioningParams where
  pucJITPCertificate := credential bundle.pucJITPCertificate
  pucClientPrivateKey := credential bundle.pucClientPrivateKey
  pucClientCertificate := credential bundle.pucClientCertificate
  jitp_ne_nil := credential_ne_nil _
  certificate_ne_nil := credential_ne_nil _

/-- The decoders of mbedTLS, which are the same in every boot. -/
structure Decoders where
  pem : PemToDer
  parse : Bytes → Option ParsedKey

def ProvisionResults.decodedBy (r : ProvisionResults) (decoders : Decoders) : ProvisionResults :=
  { r with pem := decoders.pem, privateKey := { r.privateKey with parse := decoders.parse } }

/-- The results of `xInitializePkcs11Token`, of `xInitializePkcs11Session`, and of a run of
    `xProvisionDevice`. -/
structure KeyProvisioningResults where
  initializeToken : CkRv := ckrOk
  initializeSession : CkRv := ckrOk
  device : ProvisionResults

/-- `vAlternateKeyProvisioning`. -/
def vAlternateKeyProvisioning (config : ProvisioningConfig) (params : ProvisioningParams)
    (r : KeyProvisioningResults) (d : Device) : Option (CkRv × Device) :=
  if r.initializeToken ≠ ckrOk then some (r.initializeToken, d)
  else if r.initializeSession ≠ ckrOk then some (r.initializeSession, d)
  else (xProvisionDevice config params r.device d).map fun s => (s.xResult, s.device)

/-- `vDevModeKeyProvisioning`. -/
def vDevModeKeyProvisioning (config : ProvisioningConfig) (bundle : ProvisioningParamsBundle)
    (r : KeyProvisioningResults) (d : Device) : Option (CkRv × Device) :=
  if bundle.provisioningMagic1 ≠ provisioningMagic ∨
      bundle.provisioningMagic2 ≠ provisioningMagic then some (ckrGeneralError, d)
  else vAlternateKeyProvisioning config bundle.provisioningParams r d

/-- What `main` works on, and the token; a boot starts with another heap. -/
structure Board where
  memory : KeywordDetection.Device
  device : Device

/-- The results of the calls of a boot, where `devModeKeyProvisioning` is not read, and the heap
    that the provisioning finds. -/
structure BoardResults where
  main : BootResults := {}
  keys : KeyProvisioningResults
  heap : Heap UInt8

/-- `main` comes to `vDevModeKeyProvisioning` (lines 158–200). -/
def Provisions (r : BootResults) (memory : KeywordDetection.Device) : Prop :=
  r.tfmNsInterfaceInit = true ∧ r.eventHelperInit = true ∧
    uxIsDeviceProvisioned r memory.reset = false

instance (r : BootResults) (memory : KeywordDetection.Device) : Decidable (Provisions r memory) :=
  inferInstanceAs (Decidable (_ ∧ _ ∧ _))

section Boots

variable (config : ProvisioningConfig) (bundle : ProvisioningParamsBundle)
  (signature : SignatureType) (decoders : Decoders)

/-- A boot. -/
def Board.boot (b : Board) (r : BoardResults) : Option Board :=
  if Provisions r.main b.memory then
    (vDevModeKeyProvisioning config bundle
      { r.keys with device := r.keys.device.decodedBy decoders }
      { b.device with heap := r.heap }).map fun (xResult, device) =>
        ⟨KeywordDetection.boot signature b.memory
          { r.main with devModeKeyProvisioning := decide (xResult = ckrOk) }, device⟩
  else some { b with memory := KeywordDetection.boot signature b.memory r.main }

/-- A boot of a board that has a state. -/
def bootStep (s : Option Board) (r : BoardResults) : Option Board :=
  s.bind fun b => b.boot config bundle signature decoders r

/-- The certificate of the bundle, if it has one, and its private key or a pair of keys. -/
structure Credentials (d : Device) : Prop where
  certificate : ∀ c ∈ bundle.provisioningParams.pucClientCertificate,
    d.Stores certificateKey fun v =>
      ∃ der, decoders.pem.run c c.length = some der ∧ v = .certificate der
  keys : (∃ key ∈ bundle.provisioningParams.pucClientPrivateKey,
      d.Stores privateKeyKey fun v =>
        ∃ parsed, decoders.parse key = some parsed ∧ parsed.IsValue v) ∨
    ∃ xPrivateKey xPublicKey, ⟨xPrivateKey, privateKeyKey⟩ ∈ d.token.objects ∧
      ⟨xPublicKey, publicKeyKey⟩ ∈ d.token.objects

end Boots

/-- A boot pattern that is stored is read. -/
def ReadsPattern (s : Option Board) (r : BoardResults) : Prop :=
  ∀ b ∈ s, b.memory.its = some bootPattern → r.main.psaItsGet = true

/-! ## One boot -/

theorem its_provision (signature : SignatureType) (r : BootResults)
    (d : KeywordDetection.Device) :
    (KeywordDetection.provision signature r d).1.its = d.its ∨
      uxIsDeviceProvisioned r d = false ∧ r.devModeKeyProvisioning = true := by
  unfold KeywordDetection.provision
  split_ifs with hprovisioned hfailed
  · exact .inl rfl
  · exact .inl rfl
  · exact .inr ⟨Bool.eq_false_iff.mpr hprovisioned, Bool.eq_true_of_not_eq_false hfailed⟩

/-- The trusted storage changes only behind a provisioning that succeeds. -/
theorem its_boot {signature : SignatureType} {r : BootResults} {memory : KeywordDetection.Device}
    (h : (KeywordDetection.boot signature memory r).its ≠ memory.its) :
    Provisions r memory ∧ r.devModeKeyProvisioning = true := by
  rw [KeywordDetection.boot, KeywordDetection.main] at h
  by_cases hinit : r.tfmNsInterfaceInit = false ∨ r.eventHelperInit = false
  · rw [if_pos hinit] at h
    exact absurd rfl h
  · rw [if_neg hinit] at h
    rw [not_or, Bool.not_eq_false, Bool.not_eq_false] at hinit
    rcases its_provision signature r memory.reset with hsame | ⟨hnew, hok⟩
    · exfalso
      apply h
      show _ = memory.reset.its
      rw [← hsame]
      generalize KeywordDetection.provision signature r memory.reset = p
      obtain ⟨d, goes⟩ := p
      cases goes
      · rfl
      · dsimp only
        split_ifs <;> rfl
    · exact ⟨⟨hinit.1, hinit.2, hnew⟩, hok⟩

section Boots

variable {config : ProvisioningConfig} {bundle : ProvisioningParamsBundle}
  {signature : SignatureType} {decoders : Decoders}

/-- `CKR_OK` stands for the credentials. -/
theorem credentials_of_ok {r : KeyProvisioningResults} {d d' : Device}
    (h : vDevModeKeyProvisioning config bundle
      { r with device := r.device.decodedBy decoders } d = some (ckrOk, d')) :
    Credentials bundle decoders d' := by
  rw [vDevModeKeyProvisioning, vAlternateKeyProvisioning] at h
  split_ifs at h with hmagic htoken hsession
  · have hfailed : ckrGeneralError = ckrOk := congrArg Prod.fst (Option.some.inj h)
    exact absurd hfailed (by decide)
  · exact absurd (congrArg Prod.fst (Option.some.inj h)) htoken
  · exact absurd (congrArg Prod.fst (Option.some.inj h)) hsession
  · obtain ⟨s, hs, heq⟩ := Option.map_eq_some_iff.mp h
    rw [Prod.mk.injEq] at heq
    obtain ⟨hok, rfl⟩ := heq
    have husable := usable_of_ok config bundle.provisioningParams
      (r.device.decodedBy decoders) d hs hok
    exact ⟨husable.certificate, husable.keys⟩

/-- Where the boot pattern is stored, the token has the credentials. -/
def Provisioned (bundle : ProvisioningParamsBundle) (decoders : Decoders) (b : Board) : Prop :=
  b.memory.its = some bootPattern → Credentials bundle decoders b.device

theorem Provisioned.boot {b b' : Board} {r : BoardResults} (h : Provisioned bundle decoders b)
    (hread : b.memory.its = some bootPattern → r.main.psaItsGet = true)
    (hboot : b.boot config bundle signature decoders r = some b') :
    Provisioned bundle decoders b' := by
  intro hits
  rw [Board.boot] at hboot
  split_ifs at hboot with hprovisions
  · obtain ⟨⟨xResult, device⟩, hkeys, rfl⟩ := Option.map_eq_some_iff.mp hboot
    -- a pattern that is there would have been read
    have hchanged : b.memory.its ≠ some bootPattern := by
      intro hold
      have hnew := hprovisions.2.2
      rw [uxIsDeviceProvisioned, hread hold, show b.memory.reset.its = some bootPattern from hold]
        at hnew
      exact absurd hnew (by decide)
    have hok := (its_boot (fun hsame => hchanged (hsame.symm.trans hits))).2
    obtain rfl : xResult = ckrOk := of_decide_eq_true hok
    exact credentials_of_ok hkeys
  · obtain rfl := Option.some.inj hboot
    by_cases hsame : (KeywordDetection.boot signature b.memory r.main).its = b.memory.its
    · exact h (hsame.symm.trans hits)
    · exact absurd (its_boot hsame).1 hprovisions

/-! ## The boots -/

/-- In whatever order provisionings succeed and fail, over whatever was on the token, a boot
    pattern stands for the credentials of the bundle. -/
theorem credentials_of_its {b : Board} (hnew : b.memory.its = none) {boots : List BoardResults}
    (hread : Along (bootStep config bundle signature decoders) ReadsPattern (some b) boots) :
    ∀ b' ∈ run (bootStep config bundle signature decoders) (some b) boots,
      b'.memory.its = some bootPattern → Credentials bundle decoders b'.device := by
  have hstep (s : Option Board) (r : BoardResults) (h : ∀ b ∈ s, Provisioned bundle decoders b)
      (hread : ReadsPattern s r) :
      ∀ b ∈ bootStep config bundle signature decoders s r, Provisioned bundle decoders b := by
    intro b' hb'
    obtain ⟨b, hb, hboot⟩ := Option.bind_eq_some_iff.mp hb'
    exact (h b hb).boot (hread b hb) hboot
  apply hread.inv hstep
  intro b' hb'
  obtain rfl := Option.some.inj hb'
  intro hits
  rw [hnew] at hits
  exact absurd hits.symm (Option.some_ne_none bootPattern)

end Boots

def newBoard : Board := ⟨.new, newDevice⟩

def bundleWithKey : ProvisioningParamsBundle where
  pucClientPrivateKey := some keyText
  pucClientCertificate := some certificateText
  pucJITPCertificate := none

/-- The decoders of `succeeding`. -/
def textDecoders : Decoders := ⟨succeeding.pem, succeeding.privateKey.parse⟩

/-- A boot where no call fails. -/
def succeedingBoot : BoardResults where
  keys := { device := succeeding }
  heap := newDevice.heap

theorem credentials_of_its_secondBoot :
    ∃ b, run (bootStep ⟨true, false⟩ bundleWithKey .ecdsa textDecoders) (some newBoard)
        [succeedingBoot, succeedingBoot] = some b ∧
      Credentials bundleWithKey textDecoders b.device := by
  have hrun : (run (bootStep ⟨true, false⟩ bundleWithKey .ecdsa textDecoders) (some newBoard)
      [succeedingBoot, succeedingBoot]).map (fun b => b.memory.its) = some (some bootPattern) := by
    decide +kernel
  obtain ⟨b, hb, hits⟩ := Option.map_eq_some_iff.mp hrun
  refine ⟨b, hb, credentials_of_its rfl ?_ b hb hits⟩
  exact ⟨fun _ _ _ => rfl, fun _ _ _ => rfl, trivial⟩

/-- A boot that does not read the pattern, and has no memory for the certificate. -/
def failingBoot : BoardResults where
  main := { psaItsGet := false }
  keys := { device := { succeeding with
    certificate := { succeeding.certificate with malloc := none } } }
  heap := newDevice.heap

-- the clean-up has left no object, and the pattern stays
example :
    (run (bootStep ⟨true, false⟩ bundleWithKey .ecdsa textDecoders) (some newBoard)
      [succeedingBoot, failingBoot]).map (fun b => (b.memory.its, b.device.token.objects)) =
        some (some bootPattern, []) := by
  decide +kernel

end Corstone.Provisioning
