import Corstone.Provisioning.ImportObjects

/-!
# The state that is found on the token

Model of `prvGetProvisionedState` (`dev_mode_key_provisioning.c`, lines 946–1042): the keys and
the certificate that are searched for, the export of the public key, and the name of the token.

* `StateFault`: the accesses outside a buffer.
* `Buffers`: the two buffers that the state may own, and what they hold.
* `getProvisionedState_cases`: the function leaves these, whatever else the calls return.
-/

namespace Corstone.Provisioning

open Corstone.Lib
open Corstone.Ota (ascii)

/-! ## Model -/

def certificateLabel : Bytes := ascii "Device Cert"

def privateKeyLabel : Bytes := ascii "Device Priv TLS Key"

def publicKeyLabel : Bytes := ascii "Device Pub TLS Key"

def jitpLabel : Bytes := ascii "JITP Cert"

/-- `CKO_CERTIFICATE` with the label of the device certificate. -/
def certificateKey : Key := ⟨certificateLabel, 1⟩

/-- `CKO_PRIVATE_KEY` with the label of the private key for TLS. -/
def privateKeyKey : Key := ⟨privateKeyLabel, 3⟩

/-- `CKO_PUBLIC_KEY` with the label of the public key for TLS. -/
def publicKeyKey : Key := ⟨publicKeyLabel, 2⟩

/-- `ProvisionedState_t`. -/
structure ProvisionedState where
  xPrivateKey : CkObjectHandle := ckInvalidHandle
  xClientCertificate : CkObjectHandle := ckInvalidHandle
  xPublicKey : CkObjectHandle := ckInvalidHandle
  derKey : DerKey := ⟨none, 0⟩
  pcIdentifier : Option ℕ := none

/-- The result of `xFindObjectWithLabelAndClass`, and which object it chooses. -/
structure Search where
  rv : CkRv
  pick : ℕ

/-- The results of the calls of `prvGetProvisionedState`: `xGetSlotList` allocates the list of
    the slots, and the label of the token has 32 characters. -/
structure StateResults where
  findPrivateKey : Search
  findPublicKey : Search
  exportKey : ExportResults
  findCertificate : Search
  slotList : Except Failure Bytes
  tokenInfo : Except Failure { label : Bytes // label.length = 32 }
  malloc : Option (ℕ → UInt8)

/-- `xResult`, the state that has been found, and the heap. -/
structure FindState where
  xResult : CkRv
  state : ProvisionedState
  heap : Heap UInt8

/-- The handle is set if the search succeeds. -/
def Token.search (t : Token) (search : Search) (key : Key) (handle : CkObjectHandle) :
    CkObjectHandle :=
  if search.rv = ckrOk then t.handleOf key search.pick else handle

/-- Check for a private key and for the corresponding public one (lines 957–975). -/
def findKeys (r : StateResults) (t : Token) (f : FindState) : FindState :=
  let xPrivateKey := t.search r.findPrivateKey privateKeyKey f.state.xPrivateKey
  let f := { f with
    xResult := r.findPrivateKey.rv
    state := { f.state with xPrivateKey := xPrivateKey } }
  if f.xResult = ckrOk ∧ xPrivateKey ≠ ckInvalidHandle then
    { f with
      xResult := r.findPublicKey.rv
      state := { f.state with
        xPublicKey := t.search r.findPublicKey publicKeyKey f.state.xPublicKey } }
  else f

/-- Export the public key (lines 977–984). -/
def exportFound (r : StateResults) (attributes : CkObjectHandle → PublicKey) (f : FindState) :
    Option FindState :=
  if f.xResult = ckrOk ∧ f.state.xPublicKey ≠ ckInvalidHandle then
    (prvExportPublicKey r.exportKey (attributes f.state.xPublicKey) f.state.derKey f.heap).map
      fun (xResult, derKey, heap) =>
        { f with xResult := xResult, state := { f.state with derKey := derKey }, heap := heap }
  else some f

/-- Check for the client certificate (lines 986–994). -/
def findCertificate (r : StateResults) (t : Token) (f : FindState) : FindState :=
  if f.xResult = ckrOk then
    { f with
      xResult := r.findCertificate.rv
      state := { f.state with
        xClientCertificate :=
          t.search r.findCertificate certificateKey f.state.xClientCertificate } }
  else f

/-- The copy of the label up to its first space (lines 1008–1039), which ends with NUL. -/
def copyLabel (r : StateResults) (label : Bytes) (f : FindState) : Option FindState :=
  if label.head? ≠ some 0 ∧ label.head? ≠ some 32 then
    let name := label.takeWhile fun c => c ≠ 32
    match r.malloc with
    | none => some { f with xResult := ckrHostMemory }
    | some memory =>
      let a := f.heap.next
      (((f.heap.malloc (segment memory 0 (1 + name.length))).store a 0 name).bind fun heap =>
        heap.store a name.length [0]).map fun heap =>
          { f with state := { f.state with pcIdentifier := some a }, heap := heap }
  else some f

/-- `sizeof( CK_SLOT_ID )`. -/
def ckSlotIdSize : ℕ := 4

/-- Check for a crypto element identifier (lines 996–1039). -/
def findIdentifier (r : StateResults) (f : FindState) : Option FindState :=
  if f.xResult = ckrOk then
    match r.slotList with
    | .error rv => some { f with xResult := rv }
    | .ok pxSlotId =>
      -- `pxSlotId[ 0 ]`
      ((f.heap.malloc pxSlotId).load f.heap.next 0 ckSlotIdSize).bind fun _ =>
        ((f.heap.malloc pxSlotId).free f.heap.next).bind fun heap =>
          let f := { f with heap := heap }
          match r.tokenInfo with
          | .error rv => some { f with xResult := rv }
          | .ok label => copyLabel r label f
  else some f

/-- `prvGetProvisionedState`. -/
def prvGetProvisionedState (r : StateResults) (attributes : CkObjectHandle → PublicKey) (t : Token)
    (state : ProvisionedState) (heap : Heap UInt8) : Option FindState :=
  (exportFound r attributes (findKeys r t ⟨ckrOk, state, heap⟩)).bind fun f =>
    findIdentifier r (findCertificate r t f)

/-! ## The accesses outside a buffer -/

/-- The header of the public key that has been found leaves the buffer of its export. -/
def HeaderOverrun (r : StateResults) (attributes : CkObjectHandle → PublicKey) (f : FindState) :
    Prop :=
  (f.xResult = ckrOk ∧ f.state.xPublicKey ≠ ckInvalidHandle) ∧
    r.exportKey.Overruns (attributes f.state.xPublicKey)

/-- The list of the slots has no first element. -/
def SlotUnread (r : StateResults) (f : FindState) : Prop :=
  f.xResult = ckrOk ∧ ∃ pxSlotId, r.slotList = .ok pxSlotId ∧ pxSlotId.length < ckSlotIdSize

/-- `prvGetProvisionedState` leaves a buffer. -/
def StateFault (r : StateResults) (attributes : CkObjectHandle → PublicKey) (t : Token)
    (heap : Heap UInt8) : Prop :=
  HeaderOverrun r attributes (findKeys r t ⟨ckrOk, {}, heap⟩) ∨
    ∃ f, exportFound r attributes (findKeys r t ⟨ckrOk, {}, heap⟩) = some f ∧
      SlotUnread r (findCertificate r t f)

/-! ## The state that is found -/

/-- The buffers beside those of `heap₀`: the exported key, and the name of the token. -/
structure Buffers (r : StateResults) (attributes : CkObjectHandle → PublicKey)
    (heap₀ : Heap UInt8) (state : ProvisionedState) (heap : Heap UInt8) : Prop where
  blocks : heap₀.Extends (state.derKey.pucDerPublicKey.toList ++ state.pcIdentifier.toList) heap
  key : ∀ a, state.derKey.pucDerPublicKey = some a →
    heap.block a = some (derKey (attributes state.xPublicKey)) ∧
      state.derKey.ulDerPublicKeyLength.toNat = (derKey (attributes state.xPublicKey)).length
  name : ∀ a, state.pcIdentifier = some a → ∃ label, r.tokenInfo = .ok label ∧
    heap.block a = some ((label.val.takeWhile fun c => c ≠ 32) ++ [0])

/-- A handle that has been found is that of an object with the key. -/
def IsHandle (t : Token) (key : Key) (handle : CkObjectHandle) : Prop :=
  handle ≠ ckInvalidHandle → ⟨handle, key⟩ ∈ t.objects

/-- The private and the public key that have been found are on the token. -/
def KeysFound (t : Token) (state : ProvisionedState) : Prop :=
  IsHandle t privateKeyKey state.xPrivateKey ∧ IsHandle t publicKeyKey state.xPublicKey

theorem isHandle_search (t : Token) (search : Search) (key : Key) :
    IsHandle t key (t.search search key ckInvalidHandle) := by
  intro hvalid
  rw [Token.search] at hvalid ⊢
  split_ifs at hvalid ⊢ with hrv
  · rcases Nat.eq_zero_or_pos (t.count key) with hzero | hpos
    · exact absurd (handleOf_of_count_zero t key search.pick hzero) hvalid
    · obtain ⟨o, ho, hkey, hhandle⟩ := handleOf_of_count_pos t key search.pick hpos
      rw [hhandle, ← hkey]
      exact ho
  · exact absurd rfl hvalid

theorem findKeys_spec (r : StateResults) (t : Token) (heap : Heap UInt8) :
    KeysFound t (findKeys r t ⟨ckrOk, {}, heap⟩).state ∧
      (findKeys r t ⟨ckrOk, {}, heap⟩).state.derKey = ⟨none, 0⟩ ∧
      (findKeys r t ⟨ckrOk, {}, heap⟩).state.pcIdentifier = none ∧
      (findKeys r t ⟨ckrOk, {}, heap⟩).heap = heap := by
  have hprivate := isHandle_search t r.findPrivateKey privateKeyKey
  have hpublic := isHandle_search t r.findPublicKey publicKeyKey
  have hnone : IsHandle t publicKeyKey ckInvalidHandle := fun h => absurd rfl h
  rw [findKeys]
  dsimp only
  split_ifs
  · exact ⟨⟨hprivate, hpublic⟩, rfl, rfl, rfl⟩
  · exact ⟨⟨hprivate, hnone⟩, rfl, rfl, rfl⟩

theorem exportFound_of_overrun {r : StateResults} {attributes : CkObjectHandle → PublicKey}
    {f : FindState} (h : HeaderOverrun r attributes f) : exportFound r attributes f = none := by
  rw [exportFound, if_pos h.1, prvExportPublicKey_of_overruns h.2]
  rfl

/-- The export of the key that has been found. -/
theorem exists_exportFound {r : StateResults} {attributes : CkObjectHandle → PublicKey}
    {f : FindState} (hinside : ¬ HeaderOverrun r attributes f)
    (hder : f.state.derKey.pucDerPublicKey = none)
    (hname : f.state.pcIdentifier = none) :
    ∃ f', exportFound r attributes f = some f' ∧
      f'.state = { f.state with derKey := f'.state.derKey } ∧
      Buffers r attributes f.heap f'.state f'.heap := by
  by_cases hexport : f.xResult = ckrOk ∧ f.state.xPublicKey ≠ ckInvalidHandle
  · have hwithin : ¬ r.exportKey.Overruns (attributes f.state.xPublicKey) :=
      fun hover => hinside ⟨hexport, hover⟩
    obtain ⟨xResult, p, heap, heq, hexported⟩ :=
      exportPublicKey_spec hwithin f.state.derKey f.heap hder
    refine ⟨⟨xResult, { f.state with derKey := p }, heap⟩, ?_, rfl, ?_, ?_, ?_⟩
    · rw [exportFound, if_pos hexport, heq]
      rfl
    · dsimp only
      rw [hname, Option.toList_none, List.append_nil]
      exact hexported.heap
    · exact fun a ha => hexported.key ha
    · intro a ha
      exact absurd (hname.symm.trans ha) (Option.some_ne_none a).symm
  · refine ⟨f, by rw [exportFound, if_neg hexport], rfl, ?_, ?_, ?_⟩
    · rw [hder, hname]
      exact Heap.Extends.refl
    · intro a ha
      exact absurd (hder.symm.trans ha) (Option.some_ne_none a).symm
    · intro a ha
      exact absurd (hname.symm.trans ha) (Option.some_ne_none a).symm

/-- A name and the NUL behind it, written into a new block. -/
theorem exists_store_name (heap : Heap UInt8) (memory : ℕ → UInt8) (name : Bytes) :
    ∃ heap', (((heap.malloc (segment memory 0 (1 + name.length))).store heap.next 0 name).bind
        fun heap' => heap'.store heap.next name.length [0]) = some heap' ∧
      heap'.block = Function.update heap.block heap.next (some (name ++ [0])) := by
  have hlength : (segment memory 0 (1 + name.length)).length = 1 + name.length := length_segment ..
  obtain ⟨heap₁, hstore₁, hblock₁⟩ :=
    (heap.malloc (segment memory 0 (1 + name.length))).exists_store 0 name
      (heap.block_malloc _) (by omega)
  rw [List.take_zero, List.nil_append, Nat.zero_add] at hblock₁
  have ha : heap₁.block heap.next =
      some (name ++ (segment memory 0 (1 + name.length)).drop name.length) := by
    rw [hblock₁, Function.update_self]
  obtain ⟨heap₂, hstore₂, hblock₂⟩ := heap₁.exists_store name.length [0] ha
    (by rw [List.length_append, List.length_drop, List.length_singleton]; omega)
  have hrest : (name ++ (segment memory 0 (1 + name.length)).drop name.length).drop
      (name.length + [(0 : UInt8)].length) = [] := by
    apply List.drop_of_length_le
    rw [List.length_append, List.length_drop, List.length_singleton]
    omega
  refine ⟨heap₂, by rw [hstore₁, Option.bind_some, hstore₂], ?_⟩
  rw [hblock₂, hrest, List.take_left, List.append_nil, hblock₁, Function.update_idem]
  exact Function.update_idem ..

theorem exists_copyLabel (r : StateResults) (attributes : CkObjectHandle → PublicKey)
    {heap₀ : Heap UInt8} {f : FindState} (h : Buffers r attributes heap₀ f.state f.heap)
    (hname : f.state.pcIdentifier = none) {label : { label : Bytes // label.length = 32 }}
    (hlabel : r.tokenInfo = .ok label) :
    ∃ f', copyLabel r label f = some f' ∧
      f'.state = { f.state with pcIdentifier := f'.state.pcIdentifier } ∧
      Buffers r attributes heap₀ f'.state f'.heap := by
  rw [copyLabel]
  split_ifs
  · cases r.malloc with
    | none => exact ⟨_, rfl, rfl, h⟩
    | some memory =>
      obtain ⟨heap, hstore, hblock⟩ :=
        exists_store_name f.heap memory (label.val.takeWhile fun c => c ≠ 32)
      dsimp only
      rw [hstore]
      refine ⟨_, rfl, rfl, ?_, ?_, ?_⟩
      · have hblocks := h.blocks
        rw [hname, Option.toList_none, List.append_nil] at hblocks
        exact (hblocks.add hblock).perm (List.perm_append_singleton _ _).symm
      · intro a ha
        obtain ⟨hder, hlength⟩ := h.key a ha
        refine ⟨?_, hlength⟩
        show heap.block a = _
        rw [hblock]
        exact f.heap.block_malloc_of_live hder _
      · intro a ha
        refine ⟨label, hlabel, ?_⟩
        rw [← Option.some.inj ha]
        show heap.block f.heap.next = _
        rw [hblock, Function.update_self]
  · exact ⟨f, rfl, rfl, h⟩

theorem findIdentifier_of_unread {r : StateResults} {f : FindState} (h : SlotUnread r f) :
    findIdentifier r f = none := by
  obtain ⟨hok, pxSlotId, hlist, hshort⟩ := h
  rw [findIdentifier, if_pos hok, hlist]
  dsimp only
  rw [Heap.load_eq_none _ (f.heap.block_malloc pxSlotId) (by omega), Option.bind_none]

/-- The identifier is read, or not; the list of the slots is freed. -/
theorem exists_findIdentifier {r : StateResults} (attributes : CkObjectHandle → PublicKey)
    {heap₀ : Heap UInt8} {f : FindState} (hread : ¬ SlotUnread r f)
    (h : Buffers r attributes heap₀ f.state f.heap) (hname : f.state.pcIdentifier = none) :
    ∃ f', findIdentifier r f = some f' ∧
      f'.state = { f.state with pcIdentifier := f'.state.pcIdentifier } ∧
      Buffers r attributes heap₀ f'.state f'.heap := by
  rw [findIdentifier]
  split_ifs with hok
  · cases hlist : r.slotList with
    | error rv => exact ⟨_, rfl, rfl, h⟩
    | ok pxSlotId =>
      have hslot : ckSlotIdSize ≤ pxSlotId.length :=
        not_lt.mp fun hshort => hread ⟨hok, pxSlotId, hlist, hshort⟩
      obtain ⟨heap, hfree, -, hext⟩ := ((Heap.Extends.refl (h := f.heap)).malloc pxSlotId).free
        (List.mem_cons_self ..)
      rw [List.erase_cons_head] at hext
      have hblock := Heap.extends_nil_iff.mp hext
      have h' : Buffers r attributes heap₀ f.state heap := by
        refine ⟨h.blocks.congr heap hblock, ?_, ?_⟩
        · rw [hblock]
          exact h.key
        · rw [hblock]
          exact h.name
      dsimp only
      rw [Heap.load_eq_some _ (f.heap.block_malloc pxSlotId) (by omega), Option.bind_some, hfree,
        Option.bind_some]
      cases hlabel : r.tokenInfo with
      | error rv => exact ⟨_, rfl, rfl, h'⟩
      | ok label =>
        exact exists_copyLabel (f := { f with heap := heap }) r attributes h' hname hlabel
  · exact ⟨f, rfl, rfl, h⟩

/-- What `prvGetProvisionedState` finds, if it does not leave a buffer. -/
theorem getProvisionedState_cases (r : StateResults) (attributes : CkObjectHandle → PublicKey)
    (t : Token) (heap : Heap UInt8) :
    (StateFault r attributes t heap ∧ prvGetProvisionedState r attributes t {} heap = none) ∨
      ¬ StateFault r attributes t heap ∧
        ∃ f, prvGetProvisionedState r attributes t {} heap = some f ∧ KeysFound t f.state ∧
          Buffers r attributes heap f.state f.heap := by
  obtain ⟨hkeys, hder, hname, hheap⟩ := findKeys_spec r t heap
  by_cases hover : HeaderOverrun r attributes (findKeys r t ⟨ckrOk, {}, heap⟩)
  · refine .inl ⟨.inl hover, ?_⟩
    rw [prvGetProvisionedState, exportFound_of_overrun hover, Option.bind_none]
  obtain ⟨f, hf, hstate, hbuffers⟩ := exists_exportFound hover (by rw [hder]) hname
  rw [hheap] at hbuffers
  by_cases hunread : SlotUnread r (findCertificate r t f)
  · refine .inl ⟨.inr ⟨f, hf, hunread⟩, ?_⟩
    rw [prvGetProvisionedState, hf, Option.bind_some, findIdentifier_of_unread hunread]
  have hname' : f.state.pcIdentifier = none := by rw [hstate, hname]
  have hkeys' : KeysFound t f.state := by
    rw [hstate]
    exact hkeys
  -- the search for the certificate changes neither the keys nor the buffers
  obtain ⟨hcertificate, hsame⟩ : (findCertificate r t f).heap = f.heap ∧
      (findCertificate r t f).state = { f.state with
        xClientCertificate := (findCertificate r t f).state.xClientCertificate } := by
    rw [findCertificate]
    split_ifs <;> exact ⟨rfl, rfl⟩
  have hbuffers' : Buffers r attributes heap (findCertificate r t f).state
      (findCertificate r t f).heap := by
    rw [hcertificate, hsame]
    exact ⟨hbuffers.blocks, hbuffers.key, hbuffers.name⟩
  obtain ⟨f', hf', hstate', hbuffers''⟩ := exists_findIdentifier attributes hunread hbuffers'
    (by rw [hsame]; exact hname')
  refine .inr ⟨?_, f', by rw [prvGetProvisionedState, hf, Option.bind_some, hf'], ?_, hbuffers''⟩
  · rintro (hfault | ⟨f₁, hf₁, hfault⟩)
    · exact hover hfault
    · rw [hf, Option.some.injEq] at hf₁
      rw [← hf₁] at hfault
      exact hunread hfault
  · rw [hstate', hsame]
    exact hkeys'

end Corstone.Provisioning
