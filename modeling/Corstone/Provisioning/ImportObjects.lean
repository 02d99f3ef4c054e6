import Corstone.Lib.Layout
import Corstone.Lib.RecordFile
import Corstone.Provisioning.ExportPublicKey

/-!
# The import of a certificate and of a private key

Models of `xProvisionCertificate` (`dev_mode_key_provisioning.c`, lines 660–762), of
`xProvisionPrivateKey` and of the two functions below it (141–389). The PEM decoder, the key
parser and the export of the numbers of mbedTLS are parameters. No result means that memory is used
which is not allocated.

* `Imports`: what an import leaves on the token and on the heap.
* `importKey_spec`: the import of a private key through a buffer on the heap.
* `prvProvisionPrivateRSAKey_iff`: when an RSA key is imported, and when its numbers arrive
  unchanged.
* `xProvisionCertificate_completes`, `xProvisionPrivateKey_spec`: both imports.
-/

namespace Corstone.Provisioning

open Corstone.Lib
open Corstone.Ota (ascii)

def ckrArgumentsBad : CkRv := 7

def ckrAttributeValueInvalid : CkRv := 0x13

def ckrDeviceMemory : CkRv := 0x31

def ckrCurveNotSupported : CkRv := 0x140

/-! ## New objects -/

/-- `CKR_*` other than `CKR_OK`. -/
abbrev Failure := { rv : CkRv // rv ≠ ckrOk }

/-- A valid handle that no object of the token has. -/
structure FreshHandle (t : Token) where
  handle : CkObjectHandle
  valid : handle ≠ ckInvalidHandle
  new : ∀ o ∈ t.objects, o.handle ≠ handle

def Token.create (t : Token) (key : Key) (h : FreshHandle t) : Token where
  objects := ⟨h.handle, key⟩ :: t.objects
  nodup := by
    rw [List.map_cons, List.nodup_cons]
    refine ⟨?_, t.nodup⟩
    intro hmem
    obtain ⟨o, ho, heq⟩ := List.mem_map.mp hmem
    exact h.new o ho heq
  valid o ho := by
    rcases List.mem_cons.mp ho with rfl | ho
    · exact h.valid
    · exact t.valid o ho

/-- What a template gives to `C_CreateObject`, beside the label and the class. -/
inductive ObjectValue
  | certificate (value : Bytes)
  | ecPrivateKey (value : Bytes)
  | rsaPrivateKey (numbers : List Bytes)

/-- The token with the values of the objects that have been created, and the heap. -/
structure Device where
  token : Token
  values : CkObjectHandle → Option ObjectValue
  heap : Heap UInt8

/-- What an import returns, with `*pxObjectHandle`. -/
structure Outcome where
  xResult : CkRv
  xObject : CkObjectHandle
  device : Device

/-- `C_CreateObject`: it fails, or the object gets a new handle. -/
abbrev CreateObject := (t : Token) → Except Failure (FreshHandle t)

def Device.createObject (d : Device) (create : CreateObject) (key : Key) (value : ObjectValue)
    (xObject : CkObjectHandle) : Outcome :=
  match create d.token with
  | .error rv => ⟨rv, xObject, d⟩
  | .ok h =>
    ⟨ckrOk, h.handle,
      { d with
        token := d.token.create key h
        values := Function.update d.values h.handle (some value) }⟩

/-- `vPortFree`. -/
def Outcome.free (a : ℕ) (o : Outcome) : Option Outcome :=
  (o.device.heap.free a).map fun heap => { o with device := { o.device with heap := heap } }

/-! ## The certificate -/

/-- `convert_pem_to_der`: the bytes fit into the buffer. -/
structure PemToDer where
  run : Bytes → ℕ → Option Bytes
  length_le : ∀ input xLen der, run input xLen = some der → der.length ≤ xLen

/-- The results of `pvPortMalloc`, of the calls of `xDestroyProvidedObjects` with its
    uninitialised handle, and of `C_CreateObject`. -/
structure CertificateResults where
  malloc : Option (ℕ → UInt8)
  destroy : Results
  xObjectHandle : CkObjectHandle
  create : CreateObject

/-- `xDestroyProvidedObjects`, with fuel enough. -/
def destroyProvidedObjects (entries : List Entry) (t : Token) (xObjectHandle : CkObjectHandle) :
    Option Session :=
  xDestroyProvidedObjects (t.objects.length + 1) entries t xObjectHandle

/-- Lines 735–754: best effort clean-up of the existing object, whose result is not read, and
    the new object, with the `xDerLen` bytes of the buffer at `a`. -/
def replaceCertificate (r : CertificateResults) (a xDerLen : ℕ) (key : Key)
    (xObject : CkObjectHandle) (d : Device) : Option Outcome :=
  (destroyProvidedObjects [{ r.destroy with key := key }] d.token r.xObjectHandle).bind fun s =>
    (d.heap.load a 0 xDerLen).map fun der =>
      { d with token := s.token }.createObject r.create key (.certificate der) xObject

/-- `xProvisionCertificate`, for a certificate that is not NULL; the class is `CKO_CERTIFICATE`. -/
def xProvisionCertificate (pem : PemToDer) (r : CertificateResults)
    (pucCertificate pucLabel : Bytes) (xObject : CkObjectHandle) (d : Device) : Option Outcome :=
  pucCertificate.head?.bind fun first =>
    if first ≠ 0x2d then some ⟨ckrAttributeValueInvalid, xObject, d⟩
    else
      match r.malloc with
      | none => some ⟨ckrHostMemory, xObject, d⟩
      | some memory =>
        let a := d.heap.next
        let heap := d.heap.malloc (segment memory 0 pucCertificate.length)
        match pem.run pucCertificate pucCertificate.length with
        | none => Outcome.free a ⟨ckrArgumentsBad, xObject, { d with heap := heap }⟩
        | some der =>
          (heap.store a 0 der).bind fun heap =>
            (replaceCertificate r a der.length ⟨pucLabel, 1⟩ xObject { d with heap := heap }).bind
              (Outcome.free a)

/-! ## The private key -/

/-- The numbers of an RSA key, in the order of `RsaParams_t`. -/
inductive RsaNumber
  | modulus | e | d | prime1 | prime2 | exponent1 | exponent2 | coefficient
  deriving DecidableEq

abbrev RsaKey := RsaNumber → ℕ

/-- `MODULUS_LENGTH`, `E_LENGTH` and the like. -/
def RsaNumber.length : RsaNumber → ℕ
  | modulus | d => 256
  | e => 3
  | prime1 | prime2 | exponent1 | exponent2 | coefficient => 128

/-- `RsaParams_t`: each number has a byte more. -/
def rsaParams : Layout RsaNumber where
  fields := [.modulus, .e, .d, .prime1, .prime2, .exponent1, .exponent2, .coefficient]
  nodup := by decide
  size f := f.length + 1

/-- What `mbedtls_rsa_export_raw` exports, in the order of its arguments. -/
def rawNumbers : List RsaNumber := [.modulus, .prime1, .prime2, .d, .e]

/-- The Chinese Remainder Theorem variables. -/
def crtNumbers : List RsaNumber := [.exponent1, .exponent2, .coefficient]

/-- The numbers in the order of the template. -/
def templateNumbers : List RsaNumber :=
  [.modulus, .d, .e, .prime1, .prime2, .exponent1, .exponent2, .coefficient]

/-- What `mbedtls_pk_parse_key` finds: a key on a curve, which may be `secp256r1`, with its secret
    number. -/
inductive ParsedKey
  | rsa (key : RsaKey)
  | ec (secp256r1 : Bool) (d : ℕ)
  | other

/-- `n` bytes, the highest first. -/
def bigEndian (n x : ℕ) : Bytes := (toBytes n x).reverse

/-- The number of some bytes, the highest first. -/
def ofBigEndian (s : Bytes) : ℕ := ofBytes s.reverse

/-- `mbedtls_mpi_write_binary`, and `mbedtls_rsa_export_raw` with a buffer for each number: what the
    buffers hold behind the call, and whether it has succeeded. A number is written with the highest
    byte first and with leading zeros. Which keys are refused beside those whose numbers do not fit
    is left open. -/
structure KeyExport where
  mpiWriteBinary : ℕ → ℕ → Bytes × Bool
  rsaExportRaw : RsaKey → (RsaNumber → ℕ) → (RsaNumber → Bytes) × Bool
  length_mpiWriteBinary : ∀ x n, (mpiWriteBinary x n).1.length = n
  mpiWriteBinary_iff : ∀ x n, (mpiWriteBinary x n).2 = true ↔ x < 256 ^ n
  ofBigEndian_mpiWriteBinary : ∀ x n, (mpiWriteBinary x n).2 = true →
    ofBigEndian (mpiWriteBinary x n).1 = x
  length_rsaExportRaw : ∀ key size, ∀ f ∈ rawNumbers, ((rsaExportRaw key size).1 f).length = size f
  ofBigEndian_rsaExportRaw : ∀ key size, (rsaExportRaw key size).2 = true → ∀ f ∈ rawNumbers,
    ofBigEndian ((rsaExportRaw key size).1 f) = key f

/-- Whether the random generator can be seeded, what the parser finds, the export, and the results
    of `pvPortMalloc` and of `C_CreateObject`. -/
structure KeyResults where
  seeded : Bool
  parse : Bytes → Option ParsedKey
  keyExport : KeyExport
  malloc : Option (ℕ → UInt8)
  create : CreateObject

/-- The writes into `RsaParams_t`. -/
def rsaWrites (e : KeyExport) (key : RsaKey) : List (RsaNumber × Bytes) :=
  rawNumbers.map (fun f => (f, (e.rsaExportRaw key rsaParams.size).1 f)) ++
    crtNumbers.map fun f => (f, (e.mpiWriteBinary (key f) (rsaParams.size f)).1)

def rsaResult (e : KeyExport) (key : RsaKey) : CkRv :=
  if (e.rsaExportRaw key rsaParams.size).2 = true ∧
      ∀ f ∈ crtNumbers, (e.mpiWriteBinary (key f) (rsaParams.size f)).2 = true then ckrOk
  else ckrAttributeValueInvalid

/-- The export of an RSA key into the buffer at `a` (lines 251–278). After a failure the other
    numbers are written all the same. -/
def exportRsaKey (e : KeyExport) (key : RsaKey) (a : ℕ) (heap : Heap UInt8) :
    Option (CkRv × Heap UInt8) :=
  (heap.store a 0 (List.replicate rsaParams.total 0)).bind fun heap =>
    (rsaParams.storeFields heap a (rsaWrites e key)).map fun heap => (rsaResult e key, heap)

/-- The values of the template, each from the second byte of its field on (lines 293–300). -/
def rsaTemplate (a : ℕ) (heap : Heap UInt8) : Option ObjectValue :=
  (templateNumbers.mapM fun f => heap.load a (rsaParams.offset f + 1) f.length).map .rsaPrivateKey

def ecResult (e : KeyExport) (secp256r1 : Bool) (d : ℕ) : CkRv :=
  if (e.mpiWriteBinary d 32).2 = true then
    if secp256r1 = true then ckrOk else ckrCurveNotSupported
  else ckrAttributeValueInvalid

/-- The export of the secret number of a key on a curve (lines 167–188). -/
def exportEcKey (e : KeyExport) (secp256r1 : Bool) (d : ℕ) (a : ℕ) (heap : Heap UInt8) :
    Option (CkRv × Heap UInt8) :=
  (heap.store a 0 (e.mpiWriteBinary d 32).1).map fun heap => (ecResult e secp256r1 d, heap)

def ecTemplate (a : ℕ) (heap : Heap UInt8) : Option ObjectValue :=
  (heap.load a 0 32).map .ecPrivateKey

/-- `prvProvisionPrivateRSAKey` and `prvProvisionPrivateECKey`: a buffer of `size` bytes that the
    numbers are exported into, the object that is created from it, and the free. -/
def importKey (r : KeyResults) (size : ℕ) (fill : ℕ → Heap UInt8 → Option (CkRv × Heap UInt8))
    (template : ℕ → Heap UInt8 → Option ObjectValue) (key : Key) (xObject : CkObjectHandle)
    (d : Device) : Option Outcome :=
  match r.malloc with
  | none => some ⟨ckrHostMemory, xObject, d⟩
  | some memory =>
    let a := d.heap.next
    (fill a (d.heap.malloc (segment memory 0 size))).bind fun (xResult, heap) =>
      let d := { d with heap := heap }
      if xResult = ckrOk then
        (template a heap).bind fun value =>
          Outcome.free a (d.createObject r.create key value xObject)
      else Outcome.free a ⟨xResult, xObject, d⟩

def prvProvisionPrivateRSAKey (r : KeyResults) (rsa : RsaKey) (key : Key)
    (xObject : CkObjectHandle) (d : Device) : Option Outcome :=
  importKey r rsaParams.total (exportRsaKey r.keyExport rsa) rsaTemplate key xObject d

def prvProvisionPrivateECKey (r : KeyResults) (secp256r1 : Bool) (number : ℕ) (key : Key)
    (xObject : CkObjectHandle) (d : Device) : Option Outcome :=
  importKey r 32 (exportEcKey r.keyExport secp256r1 number) ecTemplate key xObject d

/-- `xProvisionPrivateKey`; the class is `CKO_PRIVATE_KEY`. -/
def xProvisionPrivateKey (r : KeyResults) (pucPrivateKey pucLabel : Bytes)
    (xObject : CkObjectHandle) (d : Device) : Option Outcome :=
  if r.seeded then
    match r.parse pucPrivateKey with
    | none => some ⟨ckrArgumentsBad, xObject, d⟩
    | some (.rsa rsa) => prvProvisionPrivateRSAKey r rsa ⟨pucLabel, 3⟩ xObject d
    | some (.ec secp256r1 number) =>
      prvProvisionPrivateECKey r secp256r1 number ⟨pucLabel, 3⟩ xObject d
    | some .other => some ⟨ckrArgumentsBad, xObject, d⟩
  else some ⟨ckrArgumentsBad, xObject, d⟩

/-! ## Numbers -/

@[simp] theorem length_bigEndian (n x : ℕ) : (bigEndian n x).length = n := by
  rw [bigEndian, List.length_reverse, length_toBytes]

theorem take_toBytes (n x : ℕ) : (toBytes (n + 1) x).take n = toBytes n x := by
  induction n generalizing x with
  | zero => rfl
  | succ n ih =>
    rw [toBytes, List.take_succ_cons, ih, toBytes]

/-- The highest byte is left out. -/
theorem drop_one_bigEndian (n x : ℕ) : (bigEndian (n + 1) x).drop 1 = bigEndian n x := by
  rw [bigEndian, List.drop_reverse, length_toBytes, Nat.add_sub_cancel, take_toBytes, bigEndian]

theorem ofBigEndian_bigEndian (n x : ℕ) : ofBigEndian (bigEndian n x) = x % 256 ^ n := by
  rw [ofBigEndian, bigEndian, List.reverse_reverse, ofBytes_toBytes]

theorem toBytes_ofBytes (s : Bytes) : toBytes s.length (ofBytes s) = s := by
  induction s with
  | nil => rfl
  | cons b s ih =>
    have hb := b.toNat_lt
    have hbyte : UInt8.ofNat (b.toNat + 256 * ofBytes s) = b := by
      apply UInt8.toNat_inj.mp
      rw [UInt8.toNat_ofNat']
      omega
    have hrest : (b.toNat + 256 * ofBytes s) / 256 = ofBytes s := by omega
    rw [List.length_cons, ofBytes, toBytes, hbyte, hrest, ih]

/-- Bytes are those of their number. -/
theorem eq_bigEndian {s : Bytes} {n x : ℕ} (hlength : s.length = n) (hx : ofBigEndian s = x) :
    s = bigEndian n x := by
  rw [← hx, ← hlength, bigEndian, ofBigEndian, ← List.length_reverse, toBytes_ofBytes,
    List.reverse_reverse]

theorem ofBigEndian_lt (s : Bytes) : ofBigEndian s < 256 ^ s.length := by
  have heq : ofBigEndian s = ofBigEndian (bigEndian s.length (ofBigEndian s)) :=
    congrArg ofBigEndian (eq_bigEndian rfl rfl)
  rw [heq, ofBigEndian_bigEndian]
  exact Nat.mod_lt _ (by positivity)

/-- Each number fits into `n` bytes more than it has in the template. -/
def FitFields (n : ℕ) (key : RsaKey) : Prop := ∀ f : RsaNumber, key f < 256 ^ (f.length + n)

/-! ## What is left of the other objects -/

/-- No object is new, and those with another key are left. -/
def KeepsOthers (keys : List Key) (t t' : Token) : Prop :=
  (∀ o ∈ t'.objects, o ∈ t.objects) ∧ ∀ o ∈ t.objects, o.key ∉ keys → o ∈ t'.objects

theorem KeepsOthers.refl (keys : List Key) (t : Token) : KeepsOthers keys t t :=
  ⟨fun _ ho => ho, fun _ ho _ => ho⟩

theorem KeepsOthers.trans {keys : List Key} {t t' t'' : Token} (h : KeepsOthers keys t t')
    (h' : KeepsOthers keys t' t'') : KeepsOthers keys t t'' :=
  ⟨fun o ho => h.1 o (h'.1 o ho), fun o ho hkey => h'.2 o (h.2 o ho hkey) hkey⟩

theorem KeepsOthers.mono {keys keys' : List Key} {t t' : Token} (h : KeepsOthers keys t t')
    (hsub : ∀ key ∈ keys, key ∈ keys') : KeepsOthers keys' t t' :=
  ⟨h.1, fun o ho hkey => h.2 o ho fun hmem => hkey (hsub _ hmem)⟩

/-- A search names an object with the key, or none. -/
theorem eq_of_handle_eq_handleOf {t : Token} {key : Key} {pick : ℕ} {o : TokenObject}
    (ho : o ∈ t.objects) (h : o.handle = t.handleOf key pick) : o.key = key := by
  rcases Nat.eq_zero_or_pos (t.count key) with hzero | hpos
  · rw [handleOf_of_count_zero t key pick hzero] at h
    exact absurd h (t.valid o ho)
  · obtain ⟨o', ho', hkey, hhandle⟩ := handleOf_of_count_pos t key pick hpos
    have heq : o = o' := List.inj_on_of_nodup_map t.nodup ho ho' (h.trans hhandle)
    rw [heq, hkey]

/-- A destroy of what a search has found. -/
theorem keepsOthers_destroy (s : Session) (e : Entry) (k : ℕ) (hfind : e.find k = ckrOk) :
    KeepsOthers [e.key] s.token ((s.find e k).destroy e k).token := by
  have hhandle : (s.find e k).xObjectHandle = s.token.handleOf e.key (e.pick k) := if_pos hfind
  show KeepsOthers _ _ (if e.destroy k = ckrOk then (s.find e k).token.remove _ else _)
  split_ifs
  · refine ⟨fun o ho => List.mem_of_mem_filter ho, fun o ho hkey => ?_⟩
    apply List.mem_filter.mpr
    refine ⟨ho, ?_⟩
    rw [hhandle]
    simp only [decide_eq_true_eq]
    intro heq
    exact hkey (List.mem_singleton.mpr (eq_of_handle_eq_handleOf ho heq))
  · exact KeepsOthers.refl _ _

/-- The calls for one entry: by induction on the fuel. -/
theorem keepsOthers_destroyLoop (e : Entry) :
    ∀ (fuel k : ℕ) (s s' : Session), destroyLoop e fuel k (s.find e k) = some s' →
      KeepsOthers [e.key] s.token s'.token := by
  intro fuel
  induction fuel with
  | zero =>
    intro k s s' h
    exact absurd h.symm (Option.some_ne_none s')
  | succ fuel ih =>
    intro k s s' h
    rw [destroyLoop] at h
    split_ifs at h with hfound
    · dsimp only at h
      split_ifs at h
      · exact (keepsOthers_destroy s e k hfound.1).trans (ih (k + 1) _ s' h)
      · rw [← Option.some.inj h]
        exact keepsOthers_destroy s e k hfound.1
    · rw [← Option.some.inj h]
      exact KeepsOthers.refl _ _

theorem keepsOthers_destroyEntries (fuel : ℕ) (entries : List Entry) :
    ∀ s s' : Session, destroyEntries fuel entries s = some s' →
      KeepsOthers (entries.map Entry.key) s.token s'.token := by
  induction entries with
  | nil =>
    intro s s' h
    rw [← Option.some.inj h]
    exact KeepsOthers.refl _ _
  | cons e entries ih =>
    intro s s' h
    rw [destroyEntries] at h
    cases hloop : destroyLoop e fuel 0 (s.find e 0) with
    | none =>
      rw [hloop] at h
      exact absurd h.symm (Option.some_ne_none s')
    | some s₁ =>
      rw [hloop] at h
      dsimp only at h
      have hfirst : KeepsOthers ((e :: entries).map Entry.key) s.token s₁.token :=
        (keepsOthers_destroyLoop e fuel 0 s s₁ hloop).mono fun key hkey => by
          rw [List.mem_singleton.mp hkey]
          exact List.mem_cons_self ..
      split_ifs at h
      · rwa [← Option.some.inj h]
      · exact hfirst.trans ((ih s₁ s' h).mono fun key hkey => List.mem_cons_of_mem _ hkey)

/-- The function returns, and leaves the objects with other keys. -/
theorem exists_destroyProvidedObjects (entries : List Entry) (t : Token)
    (xObjectHandle : CkObjectHandle) :
    ∃ s, destroyProvidedObjects entries t xObjectHandle = some s ∧
      KeepsOthers (entries.map Entry.key) t s.token := by
  obtain ⟨s, hs, -⟩ := destroyEntries_spec (t.objects.length + 1) entries
    ⟨t, ckrOk, xObjectHandle, []⟩ fun key => Nat.lt_succ_of_le (count_le_length t key)
  exact ⟨s, hs, keepsOthers_destroyEntries _ entries _ s hs⟩

/-! ## What an import does -/

/-- What an import does to the token: objects with the keys `replaced` may go, and at most one
    object is new, with the key `key` and a value of the kind `value`. -/
structure Imports (key : Key) (replaced : List Key) (value : ObjectValue → Prop) (d : Device)
    (o : Outcome) : Prop where
  keep : ∀ obj ∈ d.token.objects, obj.key ∉ replaced →
    obj ∈ o.device.token.objects ∧ o.device.values obj.handle = d.values obj.handle
  origin : ∀ obj ∈ o.device.token.objects, obj ∈ d.token.objects ∨ obj = ⟨o.xObject, key⟩
  new : o.xResult = ckrOk → ∀ obj ∈ d.token.objects, obj.key ∉ replaced → obj.handle ≠ o.xObject
  stored : o.xResult = ckrOk → o.xObject ≠ ckInvalidHandle ∧
    ⟨o.xObject, key⟩ ∈ o.device.token.objects ∧
      ∃ v, value v ∧ o.device.values o.xObject = some v

/-- What is on the heap does not matter. -/
theorem Imports.of_heap {key : Key} {replaced : List Key} {value : ObjectValue → Prop} {d : Device}
    {heap : Heap UInt8} {o : Outcome} (h : Imports key replaced value { d with heap := heap } o) :
    Imports key replaced value d o := ⟨h.keep, h.origin, h.new, h.stored⟩

theorem Imports.mono {key : Key} {replaced : List Key} {value value' : ObjectValue → Prop}
    {d : Device} {o : Outcome} (h : Imports key replaced value d o)
    (hvalue : ∀ v, value v → value' v) : Imports key replaced value' d o := by
  refine ⟨h.keep, h.origin, h.new, fun hok => ?_⟩
  obtain ⟨hvalid, hmem, v, hv, heq⟩ := h.stored hok
  exact ⟨hvalid, hmem, v, hvalue v hv, heq⟩

/-- A failure before `C_CreateObject`. -/
theorem Imports.of_failure {key : Key} {replaced : List Key} {value : ObjectValue → Prop}
    {xResult : CkRv} (h : xResult ≠ ckrOk) (d : Device) (xObject : CkObjectHandle) :
    Imports key replaced value d ⟨xResult, xObject, d⟩ :=
  ⟨fun _ ho _ => ⟨ho, rfl⟩, fun _ ho => .inl ho, fun hok => absurd hok h, fun hok => absurd hok h⟩

theorem createObject_imports (d : Device) (create : CreateObject) (key : Key) (v : ObjectValue)
    (xObject : CkObjectHandle) :
    Imports key [] (· = v) d (d.createObject create key v xObject) := by
  rw [Device.createObject]
  cases hcreate : create d.token with
  | error rv => exact Imports.of_failure rv.property d xObject
  | ok h =>
    refine ⟨fun obj ho _ => ⟨List.mem_cons_of_mem _ ho, ?_⟩, fun obj ho => ?_,
      fun _ obj ho _ => h.new obj ho, fun _ => ?_⟩
    · exact Function.update_of_ne (h.new obj ho) ..
    · rcases List.mem_cons.mp ho with rfl | ho
      · exact .inr rfl
      · exact .inl ho
    · exact ⟨h.valid, List.mem_cons_self .., v, rfl, Function.update_self ..⟩

@[simp] theorem createObject_heap (d : Device) (create : CreateObject) (key : Key)
    (v : ObjectValue) (xObject : CkObjectHandle) :
    (d.createObject create key v xObject).device.heap = d.heap := by
  rw [Device.createObject]
  cases create d.token <;> rfl

/-- An import with a buffer that is freed at the end. -/
theorem Imports.exists_free {key : Key} {replaced : List Key} {value : ObjectValue → Prop}
    {d : Device} {o : Outcome} {a : ℕ} (himports : Imports key replaced value d o)
    (hext : d.heap.Extends [a] o.device.heap) :
    ∃ o', o.free a = some o' ∧ Imports key replaced value d o' ∧
      o'.device.heap.block = d.heap.block ∧ o'.xResult = o.xResult := by
  obtain ⟨heap, hfree, -, hext'⟩ := hext.free (List.mem_singleton_self a)
  rw [List.erase_cons_head] at hext'
  refine ⟨{ o with device := { o.device with heap := heap } }, ?_,
    ⟨himports.keep, himports.origin, himports.new, himports.stored⟩,
    Heap.extends_nil_iff.mp hext', rfl⟩
  rw [Outcome.free, hfree]
  rfl

/-! ## The import of a private key -/

theorem createObject_ok_iff (d : Device) (create : CreateObject) (key : Key) (v : ObjectValue)
    (xObject : CkObjectHandle) :
    (d.createObject create key v xObject).xResult = ckrOk ↔ ∃ h, create d.token = .ok h := by
  rw [Device.createObject]
  cases hcreate : create d.token with
  | error rv =>
    refine iff_of_false rv.property ?_
    rintro ⟨h, ⟨⟩⟩
  | ok h => exact iff_of_true rfl ⟨h, rfl⟩

/-- In a buffer of `size` bytes the export writes inside it, and succeeds exactly if `exports`; then
    the template reads `v` from it. -/
def Fills (size : ℕ) (fill : ℕ → Heap UInt8 → Option (CkRv × Heap UInt8))
    (template : ℕ → Heap UInt8 → Option ObjectValue) (exports : Prop) (v : ObjectValue) : Prop :=
  ∀ (heap : Heap UInt8) (a : ℕ) (block : Bytes), heap.block a = some block →
    block.length = size → ∃ xResult heap' block', fill a heap = some (xResult, heap') ∧
      heap'.block = Function.update heap.block a (some block') ∧ (xResult = ckrOk ↔ exports) ∧
      (exports → template a heap' = some v)

/-- The import returns, leaves no block on the heap, and creates the object with `v` exactly if the
    buffer is allocated, the numbers are exported and the token takes the object. -/
theorem importKey_spec {r : KeyResults} {size : ℕ}
    {fill : ℕ → Heap UInt8 → Option (CkRv × Heap UInt8)}
    {template : ℕ → Heap UInt8 → Option ObjectValue} {exports : Prop} {v : ObjectValue}
    (hfills : Fills size fill template exports v) (key : Key) (xObject : CkObjectHandle)
    (d : Device) :
    ∃ o, importKey r size fill template key xObject d = some o ∧
      Imports key [] (fun v' => exports ∧ v' = v) d o ∧ o.device.heap.block = d.heap.block ∧
      (o.xResult = ckrOk ↔ r.malloc.isSome ∧ exports ∧ ∃ h, r.create d.token = .ok h) := by
  rw [importKey]
  cases hmalloc : r.malloc with
  | none =>
    refine ⟨_, rfl, Imports.of_failure (by decide) d xObject, rfl, ?_⟩
    exact iff_of_false (show ckrHostMemory ≠ ckrOk by decide) fun h => Bool.false_ne_true h.1
  | some memory =>
    obtain ⟨xResult, heap, block, hfill, hblock, hok, hread⟩ := hfills _ d.heap.next _
      (d.heap.block_malloc (segment memory 0 size)) (length_segment ..)
    have hext := ((Heap.Extends.refl (h := d.heap)).malloc (segment memory 0 size)).update
      (List.mem_cons_self ..) hblock
    dsimp only
    rw [hfill, Option.bind_some]
    dsimp only
    by_cases hexports : xResult = ckrOk
    · have himports : Imports key [] (fun v' => exports ∧ v' = v) d
          ({ d with heap := heap }.createObject r.create key v xObject) :=
        (createObject_imports { d with heap := heap } r.create key v xObject).of_heap.mono
          fun v' hv' => ⟨hok.mp hexports, hv'⟩
      obtain ⟨o, hfree, himports', hblocks, hres⟩ := himports.exists_free (a := d.heap.next)
        (by rwa [createObject_heap])
      rw [if_pos hexports, hread (hok.mp hexports), Option.bind_some, hfree]
      refine ⟨o, rfl, himports', hblocks, ?_⟩
      rw [hres, createObject_ok_iff]
      simp [hok.mp hexports]
    · have himports : Imports key [] (fun v' => exports ∧ v' = v) d
          ⟨xResult, xObject, { d with heap := heap }⟩ :=
        (Imports.of_failure hexports { d with heap := heap } xObject).of_heap
      obtain ⟨o, hfree, himports', hblocks, hres⟩ := himports.exists_free hext
      rw [if_neg hexports, hfree]
      refine ⟨o, rfl, himports', hblocks, ?_⟩
      rw [hres]
      exact iff_of_false hexports fun h => hexports (hok.mpr h.2.1)

/-- The numbers of the key can be exported. -/
def KeyExport.Exports (e : KeyExport) : ParsedKey → Prop
  | .rsa key => (e.rsaExportRaw key rsaParams.size).2 = true ∧
    ∀ f ∈ crtNumbers, key f < 256 ^ (f.length + 1)
  | .ec secp256r1 d => secp256r1 = true ∧ d < 256 ^ 32
  | .other => False

/-- The value that arrives on the token. -/
def rsaValue (key : RsaKey) : ObjectValue :=
  .rsaPrivateKey (templateNumbers.map fun f => bigEndian f.length (key f))

theorem rsaResult_ok_iff (e : KeyExport) (key : RsaKey) :
    rsaResult e key = ckrOk ↔ e.Exports (.rsa key) := by
  have hexports : e.Exports (.rsa key) ↔ (e.rsaExportRaw key rsaParams.size).2 = true ∧
      ∀ f ∈ crtNumbers, (e.mpiWriteBinary (key f) (rsaParams.size f)).2 = true := by
    simp only [e.mpiWriteBinary_iff]
    rfl
  rw [hexports, rsaResult]
  split_ifs with h
  · exact iff_of_true rfl h
  · exact iff_of_false (by decide) h

theorem ecResult_ok_iff (e : KeyExport) (secp256r1 : Bool) (d : ℕ) :
    ecResult e secp256r1 d = ckrOk ↔ e.Exports (.ec secp256r1 d) := by
  show _ ↔ secp256r1 = true ∧ d < 256 ^ 32
  rw [← e.mpiWriteBinary_iff, ecResult]
  cases (e.mpiWriteBinary d 32).2 <;> cases secp256r1 <;> decide

/-- What `RsaParams_t` holds behind the export. -/
def rsaContents (e : KeyExport) (key : RsaKey) (f : RsaNumber) : Bytes :=
  if f ∈ rawNumbers then (e.rsaExportRaw key rsaParams.size).1 f
  else (e.mpiWriteBinary (key f) (rsaParams.size f)).1

theorem written_rsaWrites (e : KeyExport) (key : RsaKey) (contents : RsaNumber → Bytes) :
    Layout.written contents (rsaWrites e key) = rsaContents e key := by
  funext f
  cases f <;> rfl

theorem mem_fields (f : RsaNumber) : f ∈ rsaParams.fields := by
  cases f <;> decide

theorem rsaWrites_inside (e : KeyExport) (key : RsaKey) :
    ∀ w ∈ rsaWrites e key, w.1 ∈ rsaParams.fields ∧ w.2.length = rsaParams.size w.1 := by
  intro w hw
  refine ⟨mem_fields _, ?_⟩
  rcases List.mem_append.mp hw with hw | hw
  · obtain ⟨f, hf, rfl⟩ := List.mem_map.mp hw
    exact e.length_rsaExportRaw key _ f hf
  · obtain ⟨f, -, rfl⟩ := List.mem_map.mp hw
    exact e.length_mpiWriteBinary ..

/-- Each number is either raw or one of the Chinese Remainder Theorem. -/
theorem mem_crtNumbers {f : RsaNumber} (hf : f ∉ rawNumbers) : f ∈ crtNumbers := by
  revert hf
  cases f <;> decide

theorem rsaContents_of_exports {e : KeyExport} {key : RsaKey} (h : e.Exports (.rsa key))
    (f : RsaNumber) : rsaContents e key f = bigEndian (f.length + 1) (key f) := by
  rw [rsaContents]
  split_ifs with hraw
  · exact eq_bigEndian (e.length_rsaExportRaw key _ f hraw)
      (e.ofBigEndian_rsaExportRaw key _ h.1 f hraw)
  · apply eq_bigEndian (e.length_mpiWriteBinary ..)
    apply e.ofBigEndian_mpiWriteBinary
    rw [e.mpiWriteBinary_iff]
    exact h.2 f (mem_crtNumbers hraw)

theorem fitFields_of_exports {e : KeyExport} {key : RsaKey} (h : e.Exports (.rsa key)) :
    FitFields 1 key := by
  intro f
  by_cases hraw : f ∈ rawNumbers
  · have hlt := ofBigEndian_lt ((e.rsaExportRaw key rsaParams.size).1 f)
    rw [e.ofBigEndian_rsaExportRaw key _ h.1 f hraw, e.length_rsaExportRaw key _ f hraw] at hlt
    exact hlt
  · exact h.2 f (mem_crtNumbers hraw)

theorem mapM_eq_some_map {α β : Type} {f : α → Option β} {g : α → β} (xs : List α)
    (h : ∀ x, f x = some (g x)) : xs.mapM f = some (xs.map g) := by
  induction xs with
  | nil => rfl
  | cons x xs ih =>
    rw [List.mapM_cons, h, ih]
    rfl

/-- The buffer is cleared and filled, and the numbers of the template are read without their
    highest bytes. -/
theorem rsa_fills (e : KeyExport) (key : RsaKey) :
    Fills rsaParams.total (exportRsaKey e key) rsaTemplate (e.Exports (.rsa key))
      (rsaValue key) := by
  intro heap a block ha hlength
  obtain ⟨heap₁, hstore₁, hblock₁⟩ := heap.exists_store_all
    (List.replicate rsaParams.total 0) ha (by rw [List.length_replicate, hlength])
  rw [← Layout.block_replicate] at hblock₁
  obtain ⟨heap₂, hstore₂, hholds, hblock₂⟩ := Layout.exists_storeFields (a := a)
    (rsaWrites e key) (rsaWrites_inside e key) _ heap₁ (Layout.holds_replicate rsaParams 0)
    (by rw [hblock₁, Function.update_self])
  rw [written_rsaWrites] at hholds hblock₂
  refine ⟨rsaResult e key, heap₂, rsaParams.block (rsaContents e key), ?_, ?_, ?_, ?_⟩
  · rw [exportRsaKey, hstore₁, Option.bind_some, hstore₂, Option.map_some]
  · rw [hblock₂, hblock₁, Function.update_idem]
  · exact rsaResult_ok_iff e key
  · intro hexports
    have hload (f : RsaNumber) : heap₂.load a (rsaParams.offset f + 1) f.length =
        some (bigEndian f.length (key f)) := by
      rw [hholds.load_field (by rw [hblock₂, Function.update_self]) (mem_fields f)
          (show 1 + f.length ≤ f.length + 1 by omega), rsaContents_of_exports hexports,
        drop_one_bigEndian, List.take_of_length_le (by rw [length_bigEndian])]
    rw [rsaTemplate, mapM_eq_some_map _ hload]
    rfl

theorem ec_fills (e : KeyExport) (secp256r1 : Bool) (d : ℕ) :
    Fills 32 (exportEcKey e secp256r1 d) ecTemplate (e.Exports (.ec secp256r1 d))
      (.ecPrivateKey (bigEndian 32 d)) := by
  intro heap a block ha hlength
  have hwritten : (e.mpiWriteBinary d 32).1.length = 32 := e.length_mpiWriteBinary ..
  obtain ⟨heap₁, hstore, hblock⟩ := heap.exists_store_all (e.mpiWriteBinary d 32).1 ha
    (by rw [hwritten, hlength])
  refine ⟨ecResult e secp256r1 d, heap₁, _, ?_, hblock, ecResult_ok_iff e secp256r1 d, ?_⟩
  · rw [exportEcKey, hstore, Option.map_some]
  · rintro ⟨-, hfits⟩
    have hnumber := e.ofBigEndian_mpiWriteBinary d 32 ((e.mpiWriteBinary_iff d 32).mpr hfits)
    rw [ecTemplate, heap₁.load_eq_some (by rw [hblock, Function.update_self]) (by omega),
      eq_bigEndian hwritten hnumber, List.drop_zero,
      List.take_of_length_le (by rw [length_bigEndian])]
    rfl

/-- An RSA key is imported exactly if the buffer is allocated, its numbers are exported and the
    token takes the object. Each number may have a byte more than the template gives it, and loses
    it: the numbers arrive unchanged exactly if none has. -/
theorem prvProvisionPrivateRSAKey_iff (r : KeyResults) (rsa : RsaKey) (key : Key)
    (xObject : CkObjectHandle) (d : Device) :
    ∃ o, prvProvisionPrivateRSAKey r rsa key xObject d = some o ∧
      (o.xResult = ckrOk ↔ r.malloc.isSome ∧ r.keyExport.Exports (.rsa rsa) ∧
        ∃ h, r.create d.token = .ok h) ∧
      (o.xResult = ckrOk → FitFields 1 rsa ∧ ∃ numbers : RsaNumber → Bytes,
        o.device.values o.xObject = some (.rsaPrivateKey (templateNumbers.map numbers)) ∧
        (∀ f, (numbers f).length = f.length ∧
          ofBigEndian (numbers f) = rsa f % 256 ^ f.length) ∧
        ((∀ f, ofBigEndian (numbers f) = rsa f) ↔ FitFields 0 rsa)) := by
  obtain ⟨o, ho, himports, -, hok⟩ := importKey_spec (r := r) (rsa_fills r.keyExport rsa) key
    xObject d
  refine ⟨o, ho, hok, fun hres => ⟨fitFields_of_exports (hok.mp hres).2.1,
    fun f => bigEndian f.length (rsa f), ?_, fun f => ⟨length_bigEndian _ _,
      ofBigEndian_bigEndian _ _⟩, ?_⟩⟩
  · obtain ⟨-, -, v, ⟨-, rfl⟩, hvalue⟩ := himports.stored hres
    exact hvalue
  · simp only [ofBigEndian_bigEndian]
    constructor
    · intro h f
      have hlt : rsa f % 256 ^ f.length < 256 ^ f.length := Nat.mod_lt _ (by positivity)
      rwa [h f] at hlt
    · exact fun h f => Nat.mod_eq_of_lt (h f)

/-! ### A key that loses a byte -/

/-- A device with no objects. -/
def newDevice : Device where
  token := ⟨[], List.nodup_nil, fun _ ho => absurd ho List.not_mem_nil⟩
  values _ := none
  heap := ⟨fun _ => none, 0, fun _ _ => rfl⟩

/-- `C_CreateObject` with the first handle that is free. -/
def createFree : List CkObjectHandle → CreateObject
  | [], _ => .error ⟨ckrDeviceMemory, by decide⟩
  | handle :: handles, t =>
    if h : handle ≠ ckInvalidHandle ∧ ∀ o ∈ t.objects, o.handle ≠ handle then
      .ok ⟨handle, h.1, h.2⟩
    else createFree handles t

/-- An export that refuses what does not fit, and RSA keys that lack a number. -/
def bigEndianExport : KeyExport where
  mpiWriteBinary x n := (bigEndian n x, decide (x < 256 ^ n))
  rsaExportRaw key size :=
    (fun f => bigEndian (size f) (key f),
      decide (∀ f ∈ rawNumbers, key f ≠ 0 ∧ key f < 256 ^ size f))
  length_mpiWriteBinary x n := length_bigEndian n x
  mpiWriteBinary_iff x n := decide_eq_true_iff
  ofBigEndian_mpiWriteBinary x n h := by
    rw [ofBigEndian_bigEndian, Nat.mod_eq_of_lt (of_decide_eq_true h)]
  length_rsaExportRaw key size f _ := length_bigEndian _ _
  ofBigEndian_rsaExportRaw key size h f hf := by
    rw [ofBigEndian_bigEndian, Nat.mod_eq_of_lt (of_decide_eq_true h f hf).2]

/-- A public exponent of four bytes. -/
def longExponent : RsaKey
  | .e => 2 ^ 24 + 3
  | _ => 5

/-- The exponent of four bytes arrives as 3. -/
theorem prvProvisionPrivateRSAKey_iff_longExponent :
    ∃ o, prvProvisionPrivateRSAKey
        ⟨true, fun _ => none, bigEndianExport, some fun _ => 0, createFree [1]⟩ longExponent
        ⟨[], 3⟩ ckInvalidHandle newDevice = some o ∧ o.xResult = ckrOk ∧
      ∃ numbers : RsaNumber → Bytes,
        o.device.values o.xObject = some (.rsaPrivateKey (templateNumbers.map numbers)) ∧
        ofBigEndian (numbers .e) = 3 := by
  obtain ⟨o, ho, hok, hnumbers⟩ := prvProvisionPrivateRSAKey_iff
    ⟨true, fun _ => none, bigEndianExport, some fun _ => 0, createFree [1]⟩ longExponent
    ⟨[], 3⟩ ckInvalidHandle newDevice
  have hres : o.xResult = ckrOk :=
    hok.mpr ⟨rfl, ⟨by decide +kernel, by decide +kernel⟩, _, rfl⟩
  obtain ⟨-, numbers, hvalues, hread, -⟩ := hnumbers hres
  exact ⟨o, ho, hres, numbers, hvalues, (hread .e).2.trans (by decide)⟩

/-! ### All keys -/

/-- The value is that of the key that has been parsed. -/
def ParsedKey.IsValue : ParsedKey → ObjectValue → Prop
  | rsa key, v => FitFields 1 key ∧ v = rsaValue key
  | ec secp256r1 d, v => secp256r1 = true ∧ d < 256 ^ 32 ∧ v = .ecPrivateKey (bigEndian 32 d)
  | other, _ => False

/-- A private key that the parser takes, with numbers that are exported and a curve that is
    supported. -/
def KeyResults.Takes (r : KeyResults) (key : Bytes) : Prop :=
  ∃ parsed, r.parse key = some parsed ∧ r.keyExport.Exports parsed

/-- The import of a private key removes no object: the cases are those of the function. -/
theorem xProvisionPrivateKey_spec (r : KeyResults) (pucPrivateKey pucLabel : Bytes)
    (xObject : CkObjectHandle) (d : Device) :
    ∃ o, xProvisionPrivateKey r pucPrivateKey pucLabel xObject d = some o ∧
      Imports ⟨pucLabel, 3⟩ [] (fun v => ∃ parsed, r.parse pucPrivateKey = some parsed ∧
        parsed.IsValue v) d o ∧ o.device.heap.block = d.heap.block ∧
      (o.xResult = ckrOk ↔ r.seeded = true ∧ r.malloc.isSome ∧ r.Takes pucPrivateKey ∧
        ∃ h, r.create d.token = .ok h) := by
  rw [xProvisionPrivateKey, KeyResults.Takes]
  by_cases hseeded : r.seeded = true
  · rw [if_pos hseeded]
    cases hparse : r.parse pucPrivateKey with
    | none =>
      refine ⟨_, rfl, Imports.of_failure (by decide) d xObject, rfl, ?_⟩
      refine iff_of_false (show ckrArgumentsBad ≠ ckrOk by decide) ?_
      rintro ⟨-, -, ⟨parsed, ⟨⟩, -⟩, -⟩
    | some parsed =>
      cases parsed with
      | rsa rsa =>
        obtain ⟨o, ho, himports, hheap, hok⟩ := importKey_spec (r := r)
          (rsa_fills r.keyExport rsa) ⟨pucLabel, 3⟩ xObject d
        refine ⟨o, ho, himports.mono fun v hv => ⟨_, rfl, fitFields_of_exports hv.1, hv.2⟩,
          hheap, ?_⟩
        rw [hok]
        simp [hseeded]
      | ec secp256r1 number =>
        obtain ⟨o, ho, himports, hheap, hok⟩ := importKey_spec (r := r)
          (ec_fills r.keyExport secp256r1 number) ⟨pucLabel, 3⟩ xObject d
        refine ⟨o, ho, himports.mono fun v hv => ⟨_, rfl, hv.1.1, hv.1.2, hv.2⟩, hheap, ?_⟩
        rw [hok]
        simp [hseeded]
      | other =>
        refine ⟨_, rfl, Imports.of_failure (by decide) d xObject, rfl, ?_⟩
        refine iff_of_false (show ckrArgumentsBad ≠ ckrOk by decide) ?_
        rintro ⟨-, -, ⟨parsed, hparsed, hexports⟩, -⟩
        rw [← Option.some.inj hparsed] at hexports
        exact hexports
  · rw [if_neg hseeded]
    refine ⟨_, rfl, Imports.of_failure (by decide) d xObject, rfl, ?_⟩
    exact iff_of_false (show ckrArgumentsBad ≠ ckrOk by decide) fun h => hseeded h.1

/-! ## The import of a certificate -/

/-- The import returns, does this to the token, and leaves no block on the heap. -/
def Completes (key : Key) (replaced : List Key) (value : ObjectValue → Prop) (d : Device)
    (result : Option Outcome) : Prop :=
  ∃ o, result = some o ∧ Imports key replaced value d o ∧ o.device.heap.block = d.heap.block

theorem completes_of_failure {key : Key} {replaced : List Key} {value : ObjectValue → Prop}
    {xResult : CkRv} (h : xResult ≠ ckrOk) (d : Device) (xObject : CkObjectHandle) :
    Completes key replaced value d (some ⟨xResult, xObject, d⟩) :=
  ⟨_, rfl, Imports.of_failure h d xObject, rfl⟩

/-- With a buffer that is freed at the end. -/
theorem completes_free {key : Key} {replaced : List Key} {value : ObjectValue → Prop} {d : Device}
    {o : Outcome} {a : ℕ} (himports : Imports key replaced value d o)
    (hext : d.heap.Extends [a] o.device.heap) : Completes key replaced value d (o.free a) := by
  obtain ⟨o', hfree, himports', hblock, -⟩ := himports.exists_free hext
  exact ⟨o', hfree, himports', hblock⟩

/-- The existing certificate may go, and no other object. The new one has the bytes of the
    buffer. -/
theorem exists_replaceCertificate (r : CertificateResults) {a : ℕ} {block : Bytes} (xDerLen : ℕ)
    (key : Key) (xObject : CkObjectHandle) {d : Device} (ha : d.heap.block a = some block)
    (hlength : xDerLen ≤ block.length) :
    ∃ o, replaceCertificate r a xDerLen key xObject d = some o ∧
      Imports key [key] (· = .certificate (block.take xDerLen)) d o ∧
      o.device.heap = d.heap := by
  obtain ⟨s, hs, horigin, hkeep⟩ :=
    exists_destroyProvidedObjects [{ r.destroy with key := key }] d.token r.xObjectHandle
  have himports := createObject_imports { d with token := s.token } r.create key
    (.certificate (block.take xDerLen)) xObject
  refine ⟨_, ?_, ⟨?_, ?_, ?_, himports.stored⟩, createObject_heap ..⟩
  · rw [replaceCertificate, hs, Option.bind_some, d.heap.load_eq_some ha (by omega),
      Option.map_some, List.drop_zero]
  · intro obj ho hkey
    exact himports.keep obj (hkeep obj ho hkey) List.not_mem_nil
  · intro obj ho
    rcases himports.origin obj ho with ho | hnew
    · exact .inl (horigin obj ho)
    · exact .inr hnew
  · intro hok obj ho hkey
    exact himports.new hok obj (hkeep obj ho hkey) List.not_mem_nil

/-- The import of a certificate: the cases are those of the function, in their order. -/
theorem xProvisionCertificate_completes (pem : PemToDer) (r : CertificateResults)
    (pucCertificate pucLabel : Bytes) (hcertificate : pucCertificate ≠ [])
    (xObject : CkObjectHandle) (d : Device) :
    Completes ⟨pucLabel, 1⟩ [⟨pucLabel, 1⟩]
      (fun v => ∃ der, pem.run pucCertificate pucCertificate.length = some der ∧
        v = .certificate der) d
      (xProvisionCertificate pem r pucCertificate pucLabel xObject d) := by
  obtain ⟨first, rest, hcons⟩ := List.exists_cons_of_ne_nil hcertificate
  have hhead : pucCertificate.head? = some first := by
    rw [hcons]
    rfl
  rw [xProvisionCertificate, hhead, Option.bind_some]
  by_cases hpem : first ≠ 0x2d
  · rw [if_pos hpem]
    exact completes_of_failure (by decide) d xObject
  · rw [if_neg hpem]
    cases r.malloc with
    | none => exact completes_of_failure (by decide) d xObject
    | some memory =>
      dsimp only
      have hext := (Heap.Extends.refl (h := d.heap)).malloc
        (segment memory 0 pucCertificate.length)
      cases hder : pem.run pucCertificate pucCertificate.length with
      | none => exact completes_free (Imports.of_failure (by decide) _ xObject).of_heap hext
      | some der =>
        have hlength := pem.length_le _ _ _ hder
        have hmemory : (segment memory 0 pucCertificate.length).length = pucCertificate.length :=
          length_segment ..
        obtain ⟨heap, hstore, hblock⟩ := (d.heap.malloc _).exists_store 0 der
          (d.heap.block_malloc (segment memory 0 pucCertificate.length)) (by omega)
        rw [List.take_zero, List.nil_append] at hblock
        obtain ⟨o, ho, himports, hheap⟩ := exists_replaceCertificate r der.length
          ⟨pucLabel, 1⟩ xObject (d := { d with heap := heap })
          ((congrFun hblock d.heap.next).trans (Function.update_self ..))
          (by rw [List.length_append]; omega)
        rw [List.take_left] at himports
        dsimp only
        rw [hstore, Option.bind_some, ho, Option.bind_some]
        refine completes_free (himports.of_heap.mono fun v hv => ⟨der, rfl, hv⟩) ?_
        rw [hheap]
        exact hext.update (List.mem_cons_self ..) hblock

end Corstone.Provisioning
