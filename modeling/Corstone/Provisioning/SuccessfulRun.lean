import Corstone.Provisioning.ProvisionDevice

/-!
# A provisioning without failures

What is on the token does not make `xProvisionDevice` fail: it returns `CKR_OK` where the
calls of PKCS#11, the decoders and the heap do what they are asked for.

* `destroyEntries_ok`, `xProvisionCertificate_ok`, `xProvisionPrivateKey_ok`: the parts of a run.
* `xProvisionDevice_ok`: the run.
-/

namespace Corstone.Provisioning

open Corstone.Lib

/-! ## Calls that succeed -/

structure Results.Succeeds (r : Results) : Prop where
  find : ∀ k, r.find k = ckrOk
  destroy : ∀ k, r.destroy k = ckrOk

/-- There is a handle for a new object, as long as there are fewer than `capacity`. -/
def CreateObject.Succeeds (create : CreateObject) (capacity : ℕ) : Prop :=
  ∀ t, t.objects.length < capacity → ∃ h, create t = .ok h

/-- The existing object need not be destroyed. -/
structure CertificateResults.Succeeds (r : CertificateResults) (capacity : ℕ) : Prop where
  malloc : r.malloc.isSome
  create : CreateObject.Succeeds r.create capacity

structure KeyResults.Succeeds (r : KeyResults) (capacity : ℕ) : Prop where
  seeded : r.seeded = true
  malloc : r.malloc.isSome
  create : CreateObject.Succeeds r.create capacity

/-- A certificate in PEM that the decoder takes. -/
def PemToDer.Takes (pem : PemToDer) (certificate : Bytes) : Prop :=
  certificate.head? = some 0x2d ∧ (pem.run certificate certificate.length).isSome

structure ProvisionResults.Succeeds (r : ProvisionResults) (capacity : ℕ) : Prop where
  destroyDefaults : ∀ i, (r.destroyDefaults i).Succeeds
  certificate : r.certificate.Succeeds capacity
  privateKey : r.privateKey.Succeeds capacity
  jitp : r.jitp.Succeeds capacity
  generate : ∀ t, t.objects.length + 1 < capacity → ∃ pair, r.generate t = .ok pair
  exportKey : ∀ handle, r.exportKey.Exports (r.attributes handle)
  /-- There is a slot, or there is no list. -/
  slotList : ∀ pxSlotId, r.state.slotList = .ok pxSlotId → ckSlotIdSize ≤ pxSlotId.length

/-- What is given can be decoded. -/
structure ProvisionResults.Accepts (r : ProvisionResults) (params : ProvisioningParams) :
    Prop where
  certificate : ∀ c ∈ params.pucClientCertificate, r.pem.Takes c
  privateKey : ∀ key ∈ params.pucClientPrivateKey, r.privateKey.Takes key
  jitp : ∀ c ∈ params.pucJITPCertificate, r.pem.Takes c

/-! ## The parts -/

section Parts

variable {capacity : ℕ}

theorem KeepsOthers.length_le {keys : List Key} {t t' : Token} (h : KeepsOthers keys t t') :
    t'.objects.length ≤ t.objects.length :=
  ((List.Nodup.of_map _ t'.nodup).subperm h.1).length_le

/-- An import adds one object at most. -/
theorem Imports.length_le {key : Key} {replaced : List Key} {value : ObjectValue → Prop}
    {d : Device} {o : Outcome} (h : Imports key replaced value d o) :
    o.device.token.objects.length ≤ d.token.objects.length + 1 := by
  have hsub : o.device.token.objects ⊆ ⟨o.xObject, key⟩ :: d.token.objects := by
    intro obj hobj
    exact List.mem_cons.mpr (h.origin obj hobj).symm
  exact ((List.Nodup.of_map _ o.device.token.nodup).subperm hsub).length_le

/-- By induction on the fuel: each search and each destroy succeeds. -/
theorem destroyLoop_ok {e : Entry} (he : e.Succeeds) :
    ∀ (fuel k : ℕ) (s s' : Session), destroyLoop e fuel k (s.find e k) = some s' →
      s'.xResult = ckrOk := by
  intro fuel
  induction fuel with
  | zero =>
    intro k s s' h
    exact absurd h.symm (Option.some_ne_none s')
  | succ fuel ih =>
    intro k s s' h
    rw [destroyLoop] at h
    split_ifs at h
    · have hdestroy : ((s.find e k).destroy e k).xResult = ckrOk := he.destroy k
      dsimp only at h
      rw [if_pos hdestroy] at h
      exact ih (k + 1) _ s' h
    · rw [← Option.some.inj h]
      exact he.find k

theorem destroyEntries_ok (fuel : ℕ) {entries : List Entry} (he : ∀ e ∈ entries, e.Succeeds) :
    ∀ s s' : Session, s.xResult = ckrOk → destroyEntries fuel entries s = some s' →
      s'.xResult = ckrOk := by
  induction entries with
  | nil =>
    intro s s' hok h
    rwa [← Option.some.inj h]
  | cons e entries ih =>
    intro s s' hok h
    rw [destroyEntries] at h
    cases hloop : destroyLoop e fuel 0 (s.find e 0) with
    | none =>
      rw [hloop] at h
      exact absurd h.symm (Option.some_ne_none s')
    | some s₁ =>
      have hok₁ := destroyLoop_ok (he e (List.mem_cons_self ..)) fuel 0 s s₁ hloop
      have hsupported : s₁.xResult ≠ ckrFunctionNotSupported := by
        rw [hok₁]
        decide
      rw [hloop] at h
      dsimp only at h
      rw [if_neg hsupported] at h
      exact ih (fun e he' => he e (List.mem_cons_of_mem _ he')) s₁ s' hok₁ h

theorem defaultEntries_succeed {results : ℕ → Results} (h : ∀ i, (results i).Succeeds) :
    ∀ e ∈ defaultEntries results, e.Succeeds := by
  intro e he
  obtain ⟨i, -, rfl⟩ := List.mem_mapIdx.mp he
  exact ⟨(h i).find, (h i).destroy⟩

theorem createObject_ok {create : CreateObject} (h : create.Succeeds capacity) {d : Device}
    (hroom : d.token.objects.length < capacity) (key : Key) (value : ObjectValue)
    (xObject : CkObjectHandle) : (d.createObject create key value xObject).xResult = ckrOk := by
  obtain ⟨handle, hcreate⟩ := h d.token hroom
  rw [Device.createObject, hcreate]

theorem Outcome.free_xResult {o o' : Outcome} {a : ℕ} (h : o.free a = some o') :
    o'.xResult = o.xResult := by
  obtain ⟨heap, -, rfl⟩ := Option.map_eq_some_iff.mp h
  rfl

theorem xProvisionCertificate_ok {pem : PemToDer} {r : CertificateResults} {certificate : Bytes}
    (hr : r.Succeeds capacity) (htakes : pem.Takes certificate) {label : Bytes}
    {xObject : CkObjectHandle} {d : Device} {o : Outcome}
    (hroom : d.token.objects.length < capacity)
    (h : xProvisionCertificate pem r certificate label xObject d = some o) :
    o.xResult = ckrOk := by
  obtain ⟨memory, hmalloc⟩ := Option.isSome_iff_exists.mp hr.malloc
  obtain ⟨der, hder⟩ := Option.isSome_iff_exists.mp htakes.2
  rw [xProvisionCertificate, htakes.1, Option.bind_some, if_neg (by decide), hmalloc] at h
  dsimp only at h
  rw [hder] at h
  obtain ⟨heap, -, h⟩ := Option.bind_eq_some_iff.mp h
  obtain ⟨o', ho', hfree⟩ := Option.bind_eq_some_iff.mp h
  obtain ⟨session, hsession, ho'⟩ := Option.bind_eq_some_iff.mp ho'
  obtain ⟨der', -, rfl⟩ := Option.map_eq_some_iff.mp ho'
  have hlength := (keepsOthers_destroyEntries _ _ _ _ hsession).length_le
  rw [Outcome.free_xResult hfree]
  exact createObject_ok hr.create (lt_of_le_of_lt hlength hroom) ..

theorem xProvisionPrivateKey_ok {r : KeyResults} (hr : r.Succeeds capacity) {key : Bytes}
    (htakes : r.Takes key) {label : Bytes} {xObject : CkObjectHandle} {d : Device} {o : Outcome}
    (hroom : d.token.objects.length < capacity)
    (h : xProvisionPrivateKey r key label xObject d = some o) : o.xResult = ckrOk := by
  obtain ⟨o', ho', -, -, hok⟩ := xProvisionPrivateKey_spec r key label xObject d
  rw [h, Option.some.injEq] at ho'
  rw [ho', hok]
  exact ⟨hr.seeded, hr.malloc, htakes, hr.create _ hroom⟩

end Parts

/-! ## The run -/

section Runs

variable {config : ProvisioningConfig} {params : ProvisioningParams} {r : ProvisionResults}
  {capacity n : ℕ} {s s' : ProvisionRun}

/-- No call has failed, and `n` objects can be created. -/
structure ProvisionRun.Room (s : ProvisionRun) (capacity n : ℕ) : Prop where
  ok : s.xResult = ckrOk
  length : s.device.token.objects.length + n ≤ capacity

theorem ProvisionRun.Room.lt (h : s.Room capacity (n + 1)) :
    s.device.token.objects.length < capacity := by
  have hlength := h.length
  omega

/-- A step that needs no room. -/
theorem ProvisionRun.Room.succ (h : s.Room capacity (n + 1)) : s.Room capacity n := by
  refine ⟨h.ok, ?_⟩
  have hlength := h.length
  omega

theorem ProvisionRun.Room.imported {key : Key} {replaced : List Key} {value : ObjectValue → Prop}
    {o : Outcome} (h : s.Room capacity (n + 1)) (hok : o.xResult = ckrOk)
    (himports : Imports key replaced value s.device o) : (s.imported o).Room capacity n := by
  refine ⟨hok, ?_⟩
  have hlength := h.length
  have himported := himports.length_le
  show o.device.token.objects.length + n ≤ capacity
  omega

theorem cleanUp_ok (hr : r.Succeeds capacity) (h : cleanUp config params r s = some s')
    (hroom : s.Room capacity n) : s'.Room capacity n := by
  rw [cleanUp] at h
  split_ifs at h
  · obtain ⟨session, hsession, rfl⟩ := Option.map_eq_some_iff.mp h
    refine ⟨destroyEntries_ok _ (defaultEntries_succeed hr.destroyDefaults) _ session rfl hsession,
      ?_⟩
    have hlength := (keepsOthers_destroyEntries _ _ _ _ hsession).length_le
    exact (Nat.add_le_add_right hlength n).trans hroom.length
  · rwa [← Option.some.inj h]

theorem importCertificate_ok (hr : r.Succeeds capacity) (hparams : r.Accepts params)
    (h : importCertificate params r s = some s') (hroom : s.Room capacity (n + 1)) :
    s'.Room capacity n := by
  rw [importCertificate] at h
  cases hgiven : params.pucClientCertificate with
  | none =>
    rw [hgiven] at h
    rw [← Option.some.inj h]
    exact hroom.succ
  | some certificate =>
    obtain ⟨o, ho, himports, -⟩ := xProvisionCertificate_completes r.pem r.certificate certificate
      certificateLabel (params.certificate_ne_nil _ hgiven) s.xObject s.device
    have hok := xProvisionCertificate_ok hr.certificate (hparams.certificate _ hgiven) hroom.lt ho
    rw [hgiven] at h
    dsimp only at h
    rw [if_pos hroom.ok, ho] at h
    rw [← Option.some.inj h]
    exact hroom.imported hok himports

theorem importPrivateKey_ok (hr : r.Succeeds capacity) (hparams : r.Accepts params)
    (h : importPrivateKey config params r s = some s') (hroom : s.Room capacity (n + 1)) :
    s'.Room capacity n := by
  rw [importPrivateKey] at h
  cases hgiven : params.pucClientPrivateKey with
  | none =>
    rw [hgiven] at h
    rw [← Option.some.inj h]
    exact hroom.succ
  | some key =>
    obtain ⟨o, ho, himports, -, -⟩ := xProvisionPrivateKey_spec r.privateKey key privateKeyLabel
      s.xObject s.device
    have hok := xProvisionPrivateKey_ok hr.privateKey (hparams.privateKey _ hgiven) hroom.lt ho
    rw [hgiven] at h
    dsimp only at h
    split_ifs at h
    · rw [ho] at h
      rw [← Option.some.inj h]
      have himported := hroom.imported hok himports
      exact ⟨himported.ok, himported.length⟩
    · rw [← Option.some.inj h]
      exact hroom.succ

theorem importJitp_ok (hr : r.Succeeds capacity) (hparams : r.Accepts params)
    (h : importJitp params r s = some s') (hroom : s.Room capacity (n + 1)) :
    s'.Room capacity n := by
  rw [importJitp] at h
  cases hgiven : params.pucJITPCertificate with
  | none =>
    rw [hgiven] at h
    rw [← Option.some.inj h]
    exact hroom.succ
  | some certificate =>
    obtain ⟨o, ho, himports, -⟩ := xProvisionCertificate_completes r.pem r.jitp certificate
      jitpLabel (params.jitp_ne_nil _ hgiven) s.xObject s.device
    have hok := xProvisionCertificate_ok hr.jitp (hparams.jitp _ hgiven) hroom.lt ho
    have himported := hroom.imported hok himports
    rw [hgiven] at h
    dsimp only at h
    rw [if_pos hroom.ok, ho, Option.map_some] at h
    rw [← Option.some.inj h]
    split_ifs
    · exact ⟨rfl, himported.length⟩
    · exact himported

theorem checkKeyPair_ok (h : checkKeyPair config r s = some s') (hroom : s.Room capacity n) :
    s'.Room capacity n := by
  rw [checkKeyPair] at h
  split_ifs at h
  · obtain ⟨f, -, rfl⟩ := Option.map_eq_some_iff.mp h
    exact ⟨hroom.ok, hroom.length⟩
  · rw [← Option.some.inj h]
    exact ⟨hroom.ok, hroom.length⟩

/-- The new key is exported. -/
theorem exportNewKey_ok (hr : r.Succeeds capacity) (h : exportNewKey r s = some s') :
    s'.xProvisionedState.derKey.pucDerPublicKey ≠ none ∧
      s' = { s with
        xProvisionedState := { s.xProvisionedState with derKey := s'.xProvisionedState.derKey }
        device := { s.device with heap := s'.device.heap } } := by
  obtain ⟨heap, -, h⟩ := Option.bind_eq_some_iff.mp h
  obtain ⟨⟨xResult, p, heap'⟩, hexport, rfl⟩ := Option.map_eq_some_iff.mp h
  have hexports := hr.exportKey s.xProvisionedState.xPublicKey
  obtain ⟨xResult', p', heap'', hspec, hexported⟩ := exportPublicKey_spec
    (fun hover => hover.2 hexports.2)
    { s.xProvisionedState.derKey with pucDerPublicKey := none } heap rfl
  rw [hspec, Option.some.injEq, Prod.mk.injEq, Prod.mk.injEq] at hexport
  obtain ⟨-, rfl, -⟩ := hexport
  have hsome := hexported.isSome_iff.mpr hexports
  exact ⟨Option.isSome_iff_ne_none.mp hsome, rfl⟩

theorem generateKeyPair_ok (hr : r.Succeeds capacity) (h : generateKeyPair r s = some s')
    (hroom : s.Room capacity 2) :
    s'.xResult = ckrOk ∧ (s'.xKeyPairGenerationMode = true →
      s'.xProvisionedState.derKey.pucDerPublicKey ≠ none) := by
  rw [generateKeyPair] at h
  split_ifs at h with hgenerate
  · obtain ⟨pair, hpair⟩ := hr.generate s.device.token hroom.length
    rw [hpair] at h
    obtain ⟨s₁, hs₁, rfl⟩ := Option.map_eq_some_iff.mp h
    obtain ⟨hsome, heq⟩ := exportNewKey_ok hr hs₁
    have hvalid : ¬ (s₁.xProvisionedState.xPrivateKey = ckInvalidHandle ∨
        s₁.xProvisionedState.xPublicKey = ckInvalidHandle) := by
      rw [heq, not_or]
      exact ⟨pair.privateKey.valid, pair.publicKey.valid⟩
    rw [if_neg hvalid]
    refine ⟨?_, fun _ => hsome⟩
    rw [heq]
    exact hroom.ok
  · rw [← Option.some.inj h]
    exact ⟨hroom.ok, fun hmode => absurd ⟨hroom.ok, hmode⟩ hgenerate⟩

theorem importObjects_ok (hr : r.Succeeds capacity) (hparams : r.Accepts params) {d : Device}
    (hroom : d.token.objects.length + 5 ≤ capacity)
    (h : importObjects config params r d = some s) : s.Room capacity 2 := by
  obtain ⟨s₁, hs₁, h⟩ := Option.bind_eq_some_iff.mp h
  obtain ⟨s₂, hs₂, h⟩ := Option.bind_eq_some_iff.mp h
  obtain ⟨s₃, hs₃, h⟩ := Option.bind_eq_some_iff.mp h
  have hroom₀ : (ProvisionRun.start d).Room capacity 5 := ⟨rfl, hroom⟩
  have hroom₁ := cleanUp_ok hr hs₁ hroom₀
  have hroom₂ := importCertificate_ok hr hparams hs₂ hroom₁
  have hroom₃ := importPrivateKey_ok hr hparams hs₃ hroom₂
  exact importJitp_ok hr hparams h hroom₃

theorem provisionKeys_ok (hr : r.Succeeds capacity) (hparams : r.Accepts params) {d : Device}
    (hroom : d.token.objects.length + 5 ≤ capacity)
    (h : provisionKeys config params r d = some s) :
    s.xResult = ckrOk ∧ (s.xKeyPairGenerationMode = true →
      s.xProvisionedState.derKey.pucDerPublicKey ≠ none) := by
  obtain ⟨s₁, hs₁, h⟩ := Option.bind_eq_some_iff.mp h
  obtain ⟨s₂, hs₂, h⟩ := Option.bind_eq_some_iff.mp h
  exact generateKeyPair_ok hr h (checkKeyPair_ok hs₂ (importObjects_ok hr hparams hroom hs₁))

/-- No access leaves a buffer: every point has room for the header, and there is a slot. -/
theorem not_provisionFault (hr : r.Succeeds capacity) (hparams : r.Accepts params) {d : Device}
    (hroom : d.token.objects.length + 5 ≤ capacity) : ¬ ProvisionFault config params r d := by
  rintro ((⟨-, -, hover | ⟨f, -, -, pxSlotId, hlist, hshort⟩⟩ | ⟨-, -, -, pair, -, hover⟩) |
    ⟨s, hs, hunread⟩)
  · exact hover.2.2 (hr.exportKey _).2
  · exact absurd (hr.slotList pxSlotId hlist) (not_le.mpr hshort)
  · exact hover.2 (hr.exportKey _).2
  · exact (provisionKeys_ok hr hparams hroom hs).2 hunread.generated.2 hunread.null

/-- Whichever objects are on the token, a run in which no call fails returns `CKR_OK`, as long as
    there is room for five more. -/
theorem xProvisionDevice_ok (hr : r.Succeeds capacity) (hparams : r.Accepts params)
    (config : ProvisioningConfig) (d : Device) (hroom : d.token.objects.length + 5 ≤ capacity) :
    ∃ s, xProvisionDevice config params r d = some s ∧ s.xResult = ckrOk := by
  rcases xProvisionDevice_cases config params r d with
    ⟨hfault, -⟩ | ⟨-, s, -, s', hs, -, -, -, -, hs', -, heq, -⟩
  · exact absurd hfault (not_provisionFault hr hparams hroom)
  · refine ⟨s', hs', ?_⟩
    rw [heq]
    exact (provisionKeys_ok hr hparams hroom hs).1

end Runs

/-! ## A token with a number of handles -/

theorem exists_createFree {handles : List CkObjectHandle} {t : Token} {handle : CkObjectHandle}
    (hmem : handle ∈ handles) (hvalid : handle ≠ ckInvalidHandle)
    (hnew : ∀ o ∈ t.objects, o.handle ≠ handle) : ∃ h, createFree handles t = .ok h := by
  induction handles with
  | nil => exact absurd hmem List.not_mem_nil
  | cons first handles ih =>
    rw [createFree]
    by_cases hfirst : first ≠ ckInvalidHandle ∧ ∀ o ∈ t.objects, o.handle ≠ first
    · rw [dif_pos hfirst]
      exact ⟨_, rfl⟩
    · rw [dif_neg hfirst]
      rcases List.mem_cons.mp hmem with rfl | hmem
      · exact absurd ⟨hvalid, hnew⟩ hfirst
      · exact ih hmem

/-- With fewer objects than handles, one of these is free. -/
theorem createFree_succeeds {handles : List CkObjectHandle} (hnodup : handles.Nodup)
    (hvalid : ckInvalidHandle ∉ handles) : (createFree handles).Succeeds handles.length := by
  intro t hroom
  by_contra hnone
  have hsub : handles ⊆ t.objects.map TokenObject.handle := by
    intro handle hmem
    by_contra hfree
    apply hnone
    apply exists_createFree hmem
    · rintro rfl
      exact hvalid hmem
    · intro o ho heq
      exact hfree (List.mem_map.mpr ⟨o, ho, heq⟩)
  have hlength := (hnodup.subperm hsub).length_le
  rw [List.length_map] at hlength
  omega

theorem generateFree_succeeds {handles : List CkObjectHandle} (hnodup : handles.Nodup)
    (hvalid : ckInvalidHandle ∉ handles) {t : Token}
    (hroom : t.objects.length + 1 < handles.length) :
    ∃ pair, generateFree handles t = .ok pair := by
  obtain ⟨publicKey, hpublic⟩ := createFree_succeeds hnodup hvalid t (by omega)
  obtain ⟨privateKey, hprivate⟩ := createFree_succeeds hnodup hvalid
    (t.create publicKeyKey publicKey) hroom
  rw [generateFree, hpublic]
  dsimp only
  rw [hprivate]
  exact ⟨_, rfl⟩

theorem succeeding_succeeds : succeeding.Succeeds handles.length := by
  have hcreate : (createFree handles).Succeeds handles.length :=
    createFree_succeeds (by decide) (by decide)
  refine ⟨fun _ => ⟨fun _ => rfl, fun _ => rfl⟩, ⟨rfl, hcreate⟩, ⟨rfl, rfl, hcreate⟩,
    ⟨rfl, hcreate⟩, ?_, fun _ => ⟨⟨⟨rfl, rfl, rfl⟩, rfl, rfl⟩, ?_⟩, ?_⟩
  · intro t hroom
    exact generateFree_succeeds (by decide) (by decide) hroom
  · show basePoint.Fits
    decide +kernel
  · rintro _ ⟨⟩
    decide

theorem succeeding_accepts : succeeding.Accepts (given (some keyText)) := by
  refine ⟨?_, ?_, ?_⟩
  · rintro _ ⟨⟩
    exact ⟨by decide +kernel, by decide +kernel⟩
  · rintro _ ⟨⟩
    refine ⟨.ec true 5, ?_, rfl, by decide +kernel⟩
    show (if keyText = keyText then some (ParsedKey.ec true 5) else none) = _
    exact if_pos rfl
  · rintro _ ⟨⟩

/-- A token with what a run that was interrupted has left. -/
def leftDevice : Device :=
  { newDevice with
    token := ⟨[⟨6, privateKeyKey⟩, ⟨7, certificateKey⟩], by decide, by decide⟩ }

theorem xProvisionDevice_ok_left :
    ∃ s, xProvisionDevice ⟨true, false⟩ (given (some keyText)) succeeding leftDevice = some s ∧
      s.xResult = ckrOk :=
  xProvisionDevice_ok succeeding_succeeds succeeding_accepts ⟨true, false⟩ leftDevice (by decide)

end Corstone.Provisioning
