import Corstone.Lib.Heap
import Corstone.Lib.Segment
import Corstone.Provisioning.DestroyObjects

/-!
# The export of the public key

Model of `prvExportPublicKey` (`dev_mode_key_provisioning.c`, lines 851–942). The value of
`CKA_EC_POINT` is written into a heap buffer 24 bytes behind its start, and a header of 26
bytes over its tag and its length.

* `exportPublicKey_spec`: the buffer, the length that is recorded, and what is left on the heap, or
  an access outside the buffer.
* `subjectPublicKeyInfo_eq_iff`: when the bytes are a `SubjectPublicKeyInfo` of the point.
-/

namespace Corstone.Provisioning

open Corstone.Lib

def ckrHostMemory : CkRv := 2

/-- `CKK_EC`, which is `CKK_ECDSA`. -/
def ckkEc : UInt32 := 3

/-! ## Model -/

/-- The attributes of a public key. The size of the point is a `CK_ULONG`. -/
structure PublicKey where
  keyType : UInt32
  ecPoint : Bytes
  lt_size : ecPoint.length < 2 ^ 32

/-- `pucEcP256AsnAndOid`. -/
def pucEcP256AsnAndOid : Bytes :=
  [0x30, 0x59, 0x30, 0x13, 0x06, 0x07, 0x2a, 0x86,
    0x48, 0xce, 0x3d, 0x02, 0x01, 0x06, 0x08, 0x2a,
    0x86, 0x48, 0xce, 0x3d, 0x03, 0x01, 0x07, 0x03,
    0x42, 0x00]

/-- `sizeof( pucEcP256AsnAndOid ) - sizeof( pucUnusedKeyTag )`. -/
def derOffset : ℕ := 24

/-- The results of the three calls of `C_GetAttributeValue`, and of `pvPortMalloc`: NULL, or
    memory that holds anything. -/
structure ExportResults where
  keyType : CkRv := ckrOk
  size : CkRv := ckrOk
  malloc : Option (ℕ → UInt8) := some fun _ => 0
  value : CkRv := ckrOk

/-- `*ppucDerPublicKey` and `*pulDerPublicKeyLength`. -/
structure DerKey where
  pucDerPublicKey : Option ℕ
  ulDerPublicKeyLength : UInt32

/-- Free memory if there was an error after allocation (lines 934–939). -/
def freeOnError (xResult : CkRv) (p : DerKey) (heap : Heap UInt8) :
    Option (CkRv × DerKey × Heap UInt8) :=
  match p.pucDerPublicKey with
  | none => some (xResult, p, heap)
  | some a =>
    if xResult = ckrOk then some (xResult, p, heap)
    else (heap.free a).map fun heap => (xResult, { p with pucDerPublicKey := none }, heap)

/-- Export the public key and prepend the full DER header (lines 916–931), into the buffer at
    `a`. -/
def writeDerKey (r : ExportResults) (key : PublicKey) (p : DerKey) (a : ℕ) (heap : Heap UInt8) :
    Option (CkRv × DerKey × Heap UInt8) :=
  if r.value = ckrOk then
    (heap.store a derOffset key.ecPoint).bind fun heap =>
      (heap.store a 0 pucEcP256AsnAndOid).bind fun heap => freeOnError ckrOk p heap
  else freeOnError r.value p heap

/-- `prvExportPublicKey`, for an object with the attributes `key`. -/
def prvExportPublicKey (r : ExportResults) (key : PublicKey) (p : DerKey) (heap : Heap UInt8) :
    Option (CkRv × DerKey × Heap UInt8) :=
  if r.keyType = ckrOk ∧ key.keyType = ckkEc then
    if r.size = ckrOk then
      let ulValueLen := UInt32.ofNat key.ecPoint.length + 24
      match r.malloc with
      | none => freeOnError ckrHostMemory ⟨none, ulValueLen⟩ heap
      | some memory =>
        writeDerKey r key ⟨some heap.next, ulValueLen⟩ heap.next
          (heap.malloc (segment memory 0 ulValueLen.toNat))
    else freeOnError r.size p heap
  else freeOnError r.keyType p heap

/-! ## What is exported -/

/-- The header, and the value without the tag and the length of the octet string. -/
def derKey (key : PublicKey) : Bytes := pucEcP256AsnAndOid ++ key.ecPoint.drop 2

/-- The length of the buffer is recorded. -/
def ExportResults.Sized (r : ExportResults) (key : PublicKey) : Prop :=
  r.keyType = ckrOk ∧ key.keyType = ckkEc ∧ r.size = ckrOk

/-- The point has a tag and a length, which the header is written over, and the size of the buffer
    is a `CK_ULONG`. -/
def PublicKey.Fits (key : PublicKey) : Prop :=
  2 ≤ key.ecPoint.length ∧ key.ecPoint.length + 24 < 2 ^ 32

/-- All calls succeed. -/
def ExportResults.Writes (r : ExportResults) (key : PublicKey) : Prop :=
  r.Sized key ∧ r.malloc.isSome ∧ r.value = ckrOk

/-- The key is exported. -/
def ExportResults.Exports (r : ExportResults) (key : PublicKey) : Prop :=
  r.Writes key ∧ key.Fits

/-- The header or the point leaves the buffer. -/
def ExportResults.Overruns (r : ExportResults) (key : PublicKey) : Prop :=
  r.Writes key ∧ ¬ key.Fits

instance (r : ExportResults) (key : PublicKey) : Decidable (r.Sized key) :=
  inferInstanceAs (Decidable (_ ∧ _ ∧ _))

instance (key : PublicKey) : Decidable key.Fits := inferInstanceAs (Decidable (_ ∧ _))

instance (r : ExportResults) (key : PublicKey) : Decidable (r.Writes key) :=
  inferInstanceAs (Decidable (_ ∧ _ ∧ _))

instance (r : ExportResults) (key : PublicKey) : Decidable (r.Exports key) :=
  inferInstanceAs (Decidable (_ ∧ _))

theorem length_derKey {key : PublicKey} (h : key.Fits) :
    (derKey key).length = key.ecPoint.length + 24 := by
  have htwo := h.1
  have hheader : pucEcP256AsnAndOid.length = 26 := rfl
  rw [derKey, List.length_append, List.length_drop, hheader]
  omega

theorem length_derKey_pos (key : PublicKey) : 0 < (derKey key).length := by
  rw [derKey, List.length_append]
  exact Nat.add_pos_left (by decide) _

/-- The size of the buffer, which may wrap. -/
theorem toNat_valueLen (key : PublicKey) :
    (UInt32.ofNat key.ecPoint.length + 24).toNat = (key.ecPoint.length + 24) % 2 ^ 32 := by
  have hlt := key.lt_size
  have h24 : (24 : UInt32).toNat = 24 := rfl
  rw [UInt32.toNat_add, UInt32.toNat_ofNat', h24]
  omega

theorem toNat_valueLen_of_fits {key : PublicKey} (h : key.Fits) :
    (UInt32.ofNat key.ecPoint.length + 24).toNat = (derKey key).length := by
  rw [toNat_valueLen, length_derKey h, Nat.mod_eq_of_lt h.2]

/-- The point goes behind 24 bytes, and the header over its first two. -/
theorem header_over_point {key : PublicKey} (hfits : key.Fits) (memory : Bytes)
    (h : memory.length = (derKey key).length) :
    pucEcP256AsnAndOid ++ (memory.take derOffset ++ key.ecPoint).drop 26 = derKey key := by
  have htwo := hfits.1
  have hlength := length_derKey hfits
  have htake : (memory.take derOffset).length = 24 := by
    show (memory.take 24).length = 24
    rw [List.length_take]
    omega
  have hdrop : (memory.take derOffset ++ key.ecPoint).drop 26 = key.ecPoint.drop 2 := by
    rw [List.drop_append, htake, List.drop_of_length_le (by omega), List.nil_append]
  rw [hdrop, derKey]

/-- The value and the header are written inside the buffer. -/
theorem writeDerKey_of_ok {r : ExportResults} (hvalue : r.value = ckrOk) {key : PublicKey}
    (hfits : key.Fits) (p : DerKey) {a : ℕ} {heap : Heap UInt8} {memory : Bytes}
    (ha : heap.block a = some memory)
    (hlength : memory.length = (derKey key).length) (hp : p.pucDerPublicKey = some a) :
    ∃ heap', writeDerKey r key p a heap = some (ckrOk, p, heap') ∧
      heap'.block = Function.update heap.block a (some (derKey key)) := by
  have hder := length_derKey hfits
  have htwo := hfits.1
  have hheader : pucEcP256AsnAndOid.length = 26 := rfl
  have hoffset : derOffset = 24 := rfl
  obtain ⟨heap₁, hstore₁, hblock₁⟩ :=
    heap.exists_store derOffset key.ecPoint ha (by omega)
  have hrest : memory.drop (derOffset + key.ecPoint.length) = [] :=
    List.drop_of_length_le (by omega)
  rw [hrest, List.append_nil] at hblock₁
  have ha₁ : heap₁.block a = some (memory.take derOffset ++ key.ecPoint) := by
    rw [hblock₁, Function.update_self]
  have hlength₁ : (memory.take derOffset ++ key.ecPoint).length = (derKey key).length := by
    rw [List.length_append, List.length_take]
    omega
  obtain ⟨heap₂, hstore₂, hblock₂⟩ :=
    heap₁.exists_store 0 pucEcP256AsnAndOid ha₁ (by omega)
  refine ⟨heap₂, ?_, ?_⟩
  · rw [writeDerKey, if_pos hvalue, hstore₁, Option.bind_some, hstore₂, Option.bind_some,
      freeOnError, hp]
    rfl
  · rw [hblock₂, hblock₁, Function.update_idem, List.take_zero, List.nil_append, Nat.zero_add,
      hheader, header_over_point hfits memory hlength]

/-- A point of less than two bytes leaves no room for the header, and one whose size wraps none for
    itself. -/
theorem writeDerKey_of_not_fits {r : ExportResults} (hvalue : r.value = ckrOk) {key : PublicKey}
    (hfits : ¬ key.Fits) (p : DerKey) {a : ℕ} {heap : Heap UInt8} {memory : Bytes}
    (ha : heap.block a = some memory)
    (hlength : memory.length = (key.ecPoint.length + 24) % 2 ^ 32) :
    writeDerKey r key p a heap = none := by
  have hheader : pucEcP256AsnAndOid.length = 26 := rfl
  have hoffset : derOffset = 24 := rfl
  have hlt := key.lt_size
  rw [writeDerKey, if_pos hvalue]
  by_cases hwraps : key.ecPoint.length + 24 < 2 ^ 32
  · have hshort : key.ecPoint.length < 2 := by
      by_contra htwo
      exact hfits ⟨not_lt.mp htwo, hwraps⟩
    rw [Nat.mod_eq_of_lt hwraps] at hlength
    obtain ⟨heap₁, hstore₁, hblock₁⟩ := heap.exists_store derOffset key.ecPoint ha (by omega)
    have ha₁ : heap₁.block a = some (memory.take derOffset ++ key.ecPoint ++
        memory.drop (derOffset + key.ecPoint.length)) := by
      rw [hblock₁, Function.update_self]
    rw [hstore₁, Option.bind_some, heap₁.store_eq_none ha₁, Option.bind_none]
    simp only [List.length_append, List.length_take, List.length_drop]
    omega
  · rw [heap.store_eq_none ha (by omega), Option.bind_none]

/-- A failed export of a new buffer leaves no block. -/
theorem freeOnError_new {xResult : CkRv} (h : xResult ≠ ckrOk) (p : DerKey) (heap : Heap UInt8)
    (xs : Bytes) (hp : p.pucDerPublicKey = some heap.next) :
    ∃ heap', freeOnError xResult p (heap.malloc xs) =
        some (xResult, { p with pucDerPublicKey := none }, heap') ∧ heap.Extends [] heap' := by
  obtain ⟨heap', hfree, -, hext⟩ := ((Heap.Extends.refl (h := heap)).malloc xs).free
    (List.mem_cons_self ..)
  refine ⟨heap', ?_, ?_⟩
  · rw [freeOnError, hp]
    dsimp only
    rw [if_neg h, hfree]
    rfl
  · rwa [List.erase_cons_head] at hext

/-- What the export does to a pointer that was NULL. -/
structure Exported (r : ExportResults) (key : PublicKey) (p : DerKey) (heap : Heap UInt8)
    (p' : DerKey) (heap' : Heap UInt8) : Prop where
  heap : heap.Extends p'.pucDerPublicKey.toList heap'
  block : ∀ a, p'.pucDerPublicKey = some a → heap'.block a = some (derKey key)
  isSome_iff : p'.pucDerPublicKey.isSome ↔ r.Exports key
  length : p'.ulDerPublicKeyLength =
    if r.Sized key then UInt32.ofNat key.ecPoint.length + 24 else p.ulDerPublicKeyLength

/-- The buffer holds the key, and its length is what is recorded. -/
theorem Exported.key {r : ExportResults} {key : PublicKey} {p p' : DerKey} {heap heap' : Heap UInt8}
    (h : Exported r key p heap p' heap') {a : ℕ} (ha : p'.pucDerPublicKey = some a) :
    heap'.block a = some (derKey key) ∧ p'.ulDerPublicKeyLength.toNat = (derKey key).length := by
  have hexports : r.Exports key := by
    rw [← h.isSome_iff, ha]
    rfl
  refine ⟨h.block a ha, ?_⟩
  rw [h.length, if_pos hexports.1.1, toNat_valueLen_of_fits hexports.2]

/-- Without a buffer. -/
theorem Exported.of_none {r : ExportResults} {key : PublicKey} {p p' : DerKey}
    {heap heap' : Heap UInt8} (hheap : heap.Extends [] heap') (hnull : p'.pucDerPublicKey = none)
    (hexports : ¬ r.Exports key) (hlength : p'.ulDerPublicKeyLength =
      if r.Sized key then UInt32.ofNat key.ecPoint.length + 24 else p.ulDerPublicKeyLength) :
    Exported r key p heap p' heap' := by
  refine ⟨?_, ?_, ?_, hlength⟩
  · rw [hnull]
    exact hheap
  · intro a ha
    rw [hnull] at ha
    exact absurd ha.symm (Option.some_ne_none a)
  · simp [hnull, hexports]

theorem not_exports_of_not_sized {r : ExportResults} {key : PublicKey} (h : ¬ r.Sized key) :
    ¬ r.Exports key := fun hexports => h hexports.1.1

/-- The point that is written overruns the buffer. -/
theorem prvExportPublicKey_of_overruns {r : ExportResults} {key : PublicKey}
    (h : r.Overruns key) (p : DerKey) (heap : Heap UInt8) :
    prvExportPublicKey r key p heap = none := by
  obtain ⟨⟨⟨hkey, htype, hsize⟩, hsome, hvalue⟩, hfits⟩ := h
  obtain ⟨memory, hmalloc⟩ := Option.isSome_iff_exists.mp hsome
  rw [prvExportPublicKey, if_pos ⟨hkey, htype⟩, if_pos hsize, hmalloc]
  exact writeDerKey_of_not_fits hvalue hfits _ (heap.block_malloc _)
    (by rw [length_segment, toNat_valueLen])

/-- The cases are those of the calls, in their order. -/
theorem exportPublicKey_spec {r : ExportResults} {key : PublicKey} (hinside : ¬ r.Overruns key)
    (p : DerKey) (heap : Heap UInt8) (hp : p.pucDerPublicKey = none) :
    ∃ xResult p' heap', prvExportPublicKey r key p heap = some (xResult, p', heap') ∧
      Exported r key p heap p' heap' := by
  have hnull (xResult : CkRv) : freeOnError xResult p heap = some (xResult, p, heap) := by
    rw [freeOnError, hp]
  by_cases htype : r.keyType = ckrOk ∧ key.keyType = ckkEc
  · rw [prvExportPublicKey, if_pos htype]
    by_cases hsize : r.size = ckrOk
    · have hsized : r.Sized key := ⟨htype.1, htype.2, hsize⟩
      rw [if_pos hsize]
      cases hmalloc : r.malloc with
      | none =>
        refine ⟨_, _, _, rfl, Exported.of_none Heap.Extends.refl rfl ?_ (by rw [if_pos hsized])⟩
        rintro ⟨⟨-, hsome, -⟩, -⟩
        rw [hmalloc] at hsome
        exact Bool.false_ne_true hsome
      | some memory =>
        dsimp only
        by_cases hvalue : r.value = ckrOk
        · have hwrites : r.Writes key := ⟨hsized, by rw [hmalloc]; rfl, hvalue⟩
          have hfits : key.Fits := not_not.mp fun hfits => hinside ⟨hwrites, hfits⟩
          have hexports : r.Exports key := ⟨hwrites, hfits⟩
          obtain ⟨heap', hwrite, hblock⟩ := writeDerKey_of_ok hvalue hfits
            ⟨some heap.next, UInt32.ofNat key.ecPoint.length + 24⟩
            (heap.block_malloc (segment memory 0 (UInt32.ofNat key.ecPoint.length + 24).toNat))
            (by rw [length_segment, toNat_valueLen_of_fits hfits]) rfl
          refine ⟨_, _, _, hwrite, ?_, ?_, by simp [hexports], by rw [if_pos hsized]⟩
          · exact ((Heap.Extends.refl (h := heap)).malloc _).update (List.mem_cons_self ..) hblock
          · intro a ha
            rw [← Option.some.inj ha, hblock, Function.update_self]
        · have hexports : ¬ r.Exports key := fun h => hvalue h.1.2.2
          obtain ⟨heap', hfree, hheap⟩ := freeOnError_new hvalue
            ⟨some heap.next, UInt32.ofNat key.ecPoint.length + 24⟩ heap
            (segment memory 0 (UInt32.ofNat key.ecPoint.length + 24).toNat) rfl
          rw [writeDerKey, if_neg hvalue, hfree]
          exact ⟨_, _, _, rfl, Exported.of_none hheap rfl hexports (by rw [if_pos hsized])⟩
    · have hsized : ¬ r.Sized key := fun h => hsize h.2.2
      rw [if_neg hsize, hnull]
      exact ⟨_, _, _, rfl, Exported.of_none Heap.Extends.refl hp (not_exports_of_not_sized hsized)
        (by rw [if_neg hsized])⟩
  · have hsized : ¬ r.Sized key := fun h => htype ⟨h.1, h.2.1⟩
    rw [prvExportPublicKey, if_neg htype, hnull]
    exact ⟨_, _, _, rfl, Exported.of_none Heap.Extends.refl hp (not_exports_of_not_sized hsized)
      (by rw [if_neg hsized])⟩

/-! ## The format -/

/-- A tag, the length in one byte, and the contents. -/
def tlv (tag : UInt8) (contents : Bytes) : Option Bytes :=
  if contents.length < 128 then some (tag :: UInt8.ofNat contents.length :: contents) else none

/-- The algorithm of the key: `id-ecPublicKey` and `prime256v1`. -/
def ecAlgorithm : Bytes :=
  [0x06, 0x07, 0x2a, 0x86, 0x48, 0xce, 0x3d, 0x02, 0x01,
    0x06, 0x08, 0x2a, 0x86, 0x48, 0xce, 0x3d, 0x03, 0x01, 0x07]

/-- A `SubjectPublicKeyInfo`: the algorithm, and the point as a bit string without unused bits. -/
def subjectPublicKeyInfo (point : Bytes) : Option Bytes := do
  let algorithm ← tlv 0x30 ecAlgorithm
  let bits ← tlv 0x03 (0 :: point)
  tlv 0x30 (algorithm ++ bits)

/-- The header of the code is that of a point of 65 bytes. -/
theorem header_eq_iff {n : ℕ} (h : n + 24 < 128) (point : Bytes) :
    0x30 :: UInt8.ofNat (n + 24) :: ((0x30 :: 0x13 :: ecAlgorithm) ++
      0x03 :: UInt8.ofNat (n + 1) :: 0 :: point) = pucEcP256AsnAndOid ++ point ↔ n = 65 := by
  constructor
  · intro heq
    simp only [pucEcP256AsnAndOid, ecAlgorithm, List.cons_append, List.nil_append,
      List.cons.injEq] at heq
    have hlength := congrArg UInt8.toNat heq.2.1
    have h59 : (0x59 : UInt8).toNat = 89 := rfl
    rw [UInt8.toNat_ofNat', h59] at hlength
    omega
  · rintro rfl
    rfl

/-- The bytes are the encoding of the point iff the value of `CKA_EC_POINT` has 67 bytes, as it
    has for an uncompressed point of P-256. -/
theorem subjectPublicKeyInfo_eq_iff (key : PublicKey) :
    subjectPublicKeyInfo (key.ecPoint.drop 2) = some (derKey key) ↔ key.ecPoint.length = 67 := by
  obtain ⟨n, hn⟩ : ∃ n, (key.ecPoint.drop 2).length = n := ⟨_, rfl⟩
  have hlength : key.ecPoint.length - 2 = n := by rwa [List.length_drop] at hn
  have halgorithm : tlv 0x30 ecAlgorithm = some (0x30 :: 0x13 :: ecAlgorithm) := rfl
  have hbits : (0 :: key.ecPoint.drop 2).length = n + 1 := by rw [List.length_cons, hn]
  have hcontents : ((0x30 :: 0x13 :: ecAlgorithm) ++
      0x03 :: UInt8.ofNat (n + 1) :: 0 :: key.ecPoint.drop 2).length = n + 24 := by
    simp only [ecAlgorithm, List.length_append, List.length_cons, List.length_nil, hn]
    omega
  rw [subjectPublicKeyInfo, halgorithm]
  simp only [Option.bind_eq_bind, Option.bind_some, tlv, hbits]
  by_cases hlt : n + 24 < 128
  · have hcontents : ((0x30 :: 0x13 :: ecAlgorithm) ++
        0x03 :: UInt8.ofNat (n + 1) :: 0 :: key.ecPoint.drop 2).length = n + 24 := by
      simp only [ecAlgorithm, List.length_append, List.length_cons, List.length_nil, hn]
      omega
    rw [if_pos (by omega), Option.bind_some, hcontents, if_pos hlt, Option.some.injEq, derKey,
      header_eq_iff hlt]
    omega
  · -- the length does not fit into one byte
    have hlong : ¬ key.ecPoint.length = 67 := by omega
    by_cases hshort : n + 1 < 128
    · rw [if_pos hshort, Option.bind_some, hcontents, if_neg hlt]
      simpa using hlong
    · rw [if_neg hshort]
      simpa using hlong

end Corstone.Provisioning
