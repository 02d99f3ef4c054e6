import Corstone.Lib.PrefixTable
import Corstone.Ota.Pal

/-!
# Which component a job names

`PortConvertFilePathtoPSAComponentID` and `otaPal_CreateFileForRx` (`ota_pal.c`
with its patches 0002 and 0003) for any set of components, with the bytes that
they read. The file path is in the job document, without a NUL, and its length is
in a field that neither function looks at.

* `portConvertFilePathtoPSAComponentID_eq`: the search is the one of the OTA
  model.
* `routed_iff`: when the path selects the component that it names.
* `readsFit_toDifference_iff`: the reads of a `memcmp` that stops at the first
  difference.
* `not_routed_longerPath`: a path that continues the name of a component.
-/

namespace Corstone.Ota.ComponentRouting

open Corstone.Lib

/-! ## The functions -/

/-- The components that are compiled in, with their ids. -/
structure ComponentSet where
  /-- `FWU_COMPONENT_ID_SECURE`. -/
  secure : Option UInt32
  /-- `FWU_COMPONENT_ID_NONSECURE`. -/
  nonsecure : Option UInt32
  /-- `FWU_COMPONENT_ID_ML_MODEL`. -/
  mlModel : Option UInt32
  /-- `FWU_COMPONENT_ID_FULL`. -/
  full : Option UInt32

/-- The names in the order of the comparisons. -/
def ComponentSet.paths (K : ComponentSet) : List (Bytes × UInt32) :=
  K.secure.toList.map (ascii "secure image", ·) ++
    (K.nonsecure.toList.map (ascii "non_secure image", ·) ++
      (K.mlModel.toList.map (ascii "ml_model image", ·) ++
        K.full.toList.map (ascii "combined image", ·)))

/-- How much `memcmp` reads: no more than the length that it is given, and as far as
    the bytes agree. -/
structure Memcmp where
  /-- The number of bytes read at an address that is compared with a string. -/
  extent : (ℕ → UInt8) → Bytes → ℕ
  extent_le : ∀ mem s, extent mem s ≤ s.length
  lt_extent : ∀ mem s (i : ℕ), i < s.length → (∀ j < i, s[j]? = some (mem j)) → i < extent mem s

/-- The file path of a job. -/
structure FilePath where
  /-- The bytes at `filepath`, or `NULL`. -/
  filepath : Option (ℕ → UInt8)
  filepathLen : ℕ

/-- The bytes of the path. -/
def FilePath.path (p : FilePath) : Bytes :=
  match p.filepath with
  | none => []
  | some mem => items mem p.filepathLen

/-- `PortConvertFilePathtoPSAComponentID` of a context. -/
def portConvertFilePathtoPSAComponentID (K : ComponentSet) (p : FilePath) : Option UInt32 :=
  match p.filepath with
  | none => none
  | some mem => lookup mem K.paths

/-- The places that it reads. -/
def pathReads (K : ComponentSet) (M : Memcmp) (p : FilePath) : List ℕ :=
  match p.filepath with
  | none => []
  | some mem => (compared mem K.paths).flatMap fun name => List.range (M.extent mem name)

/-- `otaPal_CreateFileForRx`: the components whose update is started, and the
    result. -/
def otaPalCreateFileForRx (K : ComponentSet) (psaFwuStart : PsaStatus) (p : FilePath) :
    List UInt32 × OtaPalJobDocProcessingResult :=
  if p.filepath.isNone then ([], .fileCreateFailed)
  else
    match portConvertFilePathtoPSAComponentID K p with
    | none => ([], .fileCreateFailed)
    | some uxComponent =>
      ([uxComponent], if psaFwuStart ≠ psaSuccess then .fileCreateFailed else .fileCreated)

/-- The components of the platform. -/
def corstone : ComponentSet := ⟨some 0, some 1, some 2, none⟩

/-- The search is that of the OTA model where 16 bytes of the document are left. -/
theorem portConvertFilePathtoPSAComponentID_eq (s : OtaAgent) {mem : ℕ → UInt8}
    (hmem : s.read s.jobFields.filepath 16 = items mem 16) :
    Ota.portConvertFilePathtoPSAComponentID s =
      portConvertFilePathtoPSAComponentID corstone ⟨some mem, s.jobFields.filepathLen⟩ := by
  have hread : ∀ n ≤ 16, s.read s.jobFields.filepath n = items mem n := by
    intro n hn
    rw [← take_items mem hn, ← hmem]
    cases s.jobFields.filepath with
    | null => exact List.take_nil.symm
    | jobDoc offset => exact ((List.take_take ..).trans (by rw [Nat.min_eq_left hn]; rfl)).symm
    | signatureDecoded => exact ((List.take_take ..).trans (by rw [Nat.min_eq_left hn]; rfl)).symm
  have hnull : s.jobFields.filepath ≠ .null := by
    intro hnull
    rw [hnull] at hmem
    have hlength := congrArg List.length hmem
    rw [length_items] at hlength
    exact nomatch hlength
  have hlengths : ∀ c ∈ componentPaths, c.1.length ≤ 16 := by decide
  show _ = lookup mem componentPaths
  rw [lookup_eq_find?, Ota.portConvertFilePathtoPSAComponentID, if_neg hnull]
  congr 1
  refine List.find?_congr fun c hc => ?_
  rw [hread _ (hlengths c hc), beq_eq_decide]

/-! ## The purpose -/

/-- The path is the name of the component. -/
def Names (K : ComponentSet) (p : FilePath) (id : UInt32) : Prop := (p.path, id) ∈ K.paths

instance (K : ComponentSet) (p : FilePath) (id : UInt32) : Decidable (Names K p id) :=
  inferInstanceAs (Decidable (_ ∈ _))

/-- The component that the path names is selected, and no other; only bytes of the path
    are read, and no update is started of a component that the path does not name. -/
structure Routed (K : ComponentSet) (M : Memcmp) (p : FilePath) (psaFwuStart : PsaStatus) :
    Prop where
  selects : ∀ id, portConvertFilePathtoPSAComponentID K p = some id ↔ Names K p id
  reads : ∀ i ∈ pathReads K M p, i < p.filepathLen
  started : ∀ id ∈ (otaPalCreateFileForRx K psaFwuStart p).1, Names K p id

/-- The path is at least as long as what `memcmp` reads of it for each name up to the
    one it starts with. -/
def ReadsFit (K : ComponentSet) (M : Memcmp) (p : FilePath) : Prop :=
  ∀ mem ∈ p.filepath, ∀ name ∈ compared mem K.paths, M.extent mem name ≤ p.filepathLen

/-- The path does not continue the name of a component. -/
def NoContinuation (K : ComponentSet) (p : FilePath) : Prop :=
  ∀ c ∈ K.paths, c.1 <+: p.path → c.1 = p.path

/-! ## The names -/

theorem mem_paths {K : ComponentSet} {c : Bytes × UInt32} :
    c ∈ K.paths ↔ (c.1 = ascii "secure image" ∧ K.secure = some c.2) ∨
      (c.1 = ascii "non_secure image" ∧ K.nonsecure = some c.2) ∨
      (c.1 = ascii "ml_model image" ∧ K.mlModel = some c.2) ∨
      (c.1 = ascii "combined image" ∧ K.full = some c.2) := by
  have hentry : ∀ (id : Option UInt32) (name : Bytes),
      c ∈ id.toList.map (name, ·) ↔ c.1 = name ∧ id = some c.2 := by
    intro id name
    rw [List.mem_map]
    constructor
    · rintro ⟨i, hi, rfl⟩
      exact ⟨rfl, Option.mem_toList.mp hi⟩
    · rintro ⟨hname, hid⟩
      exact ⟨c.2, Option.mem_toList.mpr hid, Prod.ext hname.symm rfl⟩
  unfold ComponentSet.paths
  rw [List.mem_append, List.mem_append, List.mem_append, hentry, hentry, hentry, hentry]

/-- No name is a prefix of another. -/
theorem prefixFree_paths (K : ComponentSet) : PrefixFree K.paths := by
  rintro ⟨name, id⟩ ha ⟨name', id'⟩ hb hprefix
  rw [mem_paths] at ha hb
  dsimp only at ha hb hprefix
  obtain ⟨rfl, ha⟩ | ⟨rfl, ha⟩ | ⟨rfl, ha⟩ | ⟨rfl, ha⟩ := ha <;>
    obtain ⟨rfl, hb⟩ | ⟨rfl, hb⟩ | ⟨rfl, hb⟩ | ⟨rfl, hb⟩ := hb <;>
    first
    | exact absurd hprefix (by decide)
    | rw [Option.some.inj (ha.symm.trans hb)]

theorem ne_nil_of_mem_paths {K : ComponentSet} {c : Bytes × UInt32} (h : c ∈ K.paths) :
    c.1 ≠ [] := by
  rw [mem_paths] at h
  obtain ⟨hname, -⟩ | ⟨hname, -⟩ | ⟨hname, -⟩ | ⟨hname, -⟩ := h <;>
  · rw [hname]
    decide

/-! ## The reads -/

section Reads

variable {K : ComponentSet} {M : Memcmp} {p : FilePath} {mem : ℕ → UInt8}

/-- A name that agrees is read to its end. -/
theorem Memcmp.length_le_extent (M : Memcmp) {name : Bytes} (h : items mem name.length = name) :
    name.length ≤ M.extent mem name := by
  by_contra! hlt
  have hread := M.lt_extent mem name (M.extent mem name) hlt fun j hj => by
    rw [← getElem?_items mem (hj.trans hlt), h]
  omega

theorem forall_pathReads_iff :
    (∀ i ∈ pathReads K M p, i < p.filepathLen) ↔ ReadsFit K M p := by
  unfold pathReads ReadsFit
  cases p.filepath with
  | none => exact iff_of_true nofun nofun
  | some mem =>
    simp only [List.mem_flatMap, List.mem_range, forall_exists_index, and_imp,
      Option.mem_some_iff, forall_eq']
    constructor
    · intro h name hname
      by_contra! hlt
      have hread := h p.filepathLen name hname hlt
      omega
    · intro h i name hname hi
      have hfit := h name hname
      omega

end Reads

/-! ## The routing -/

section Routing

variable {K : ComponentSet} {M : Memcmp} {p : FilePath} {psaFwuStart : PsaStatus}

/-- An update is started of the component that is selected. -/
theorem started_iff {id : UInt32} :
    id ∈ (otaPalCreateFileForRx K psaFwuStart p).1 ↔
      portConvertFilePathtoPSAComponentID K p = some id := by
  unfold otaPalCreateFileForRx
  cases hpath : p.filepath with
  | none =>
    have hnone : portConvertFilePathtoPSAComponentID K p = none := by
      unfold portConvertFilePathtoPSAComponentID
      rw [hpath]
    simp [hnone]
  | some mem =>
    rw [if_neg (by simp)]
    cases portConvertFilePathtoPSAComponentID K p with
    | none => simp
    | some uxComponent => simp [eq_comm]

/-- With reads that fit, the component that is named is selected iff the path does not
    continue a name. -/
theorem selects_iff (hfit : ReadsFit K M p) :
    (∀ id, portConvertFilePathtoPSAComponentID K p = some id ↔ Names K p id) ↔
      NoContinuation K p := by
  unfold portConvertFilePathtoPSAComponentID Names NoContinuation FilePath.path
  cases hpath : p.filepath with
  | none =>
    refine iff_of_true (fun id => iff_of_false nofun fun h => ?_) fun c hc hprefix => ?_
    · exact ne_nil_of_mem_paths h rfl
    · exact List.prefix_nil.mp hprefix
  | some mem =>
    refine lookup_exact_iff (prefixFree_paths K) fun name hname hitems => ?_
    have hle := hfit mem hpath name hname
    have hextent := M.length_le_extent hitems
    omega

end Routing

/-- **Routing**: the path selects the component that it names, no other path selects
    one, nothing behind the path is read, and no other component's update is started,
    iff the reads fit into the path and it does not continue a name. -/
theorem routed_iff (K : ComponentSet) (M : Memcmp) (p : FilePath) (psaFwuStart : PsaStatus) :
    Routed K M p psaFwuStart ↔ ReadsFit K M p ∧ NoContinuation K p := by
  constructor
  · intro h
    have hfit := forall_pathReads_iff.mp h.reads
    exact ⟨hfit, (selects_iff hfit).mp h.selects⟩
  · rintro ⟨hfit, hcontinues⟩
    have hselects := (selects_iff hfit).mpr hcontinues
    exact ⟨hselects, forall_pathReads_iff.mpr hfit,
      fun id hid => (hselects id).mp (started_iff.mp hid)⟩

/-! ## A `memcmp` -/

/-- A `memcmp` that stops at the first difference. -/
def toDifference : Memcmp where
  extent mem s := min s.length ((List.range s.length).findIdx (fun j => s[j]? ≠ some (mem j)) + 1)
  extent_le _ _ := min_le_left _ _
  lt_extent mem s i hi hagree := by
    refine lt_min hi ?_
    by_contra! hlt
    have hindex : (List.range s.length).findIdx (fun j => s[j]? ≠ some (mem j)) <
        (List.range s.length).length := by
      rw [List.length_range]
      omega
    have hdiffers := List.findIdx_getElem (w := hindex)
    rw [List.getElem_range, decide_eq_true_eq] at hdiffers
    exact hdiffers (hagree _ (by omega))

/-- It stays within the path iff the path is no proper prefix of a name that is
    compared. -/
theorem readsFit_toDifference_iff {K : ComponentSet} {mem : ℕ → UInt8} {n : ℕ} :
    ReadsFit K toDifference ⟨some mem, n⟩ ↔
      ∀ name ∈ compared mem K.paths, items mem n <+: name → items mem n = name := by
  have hname : ∀ name : Bytes, toDifference.extent mem name ≤ n ↔
      (items mem n <+: name → items mem n = name) := by
    intro name
    constructor
    · intro hextent hprefix
      refine hprefix.eq_of_length_le ?_
      by_contra! hlt
      rw [length_items] at hlt
      have hread := toDifference.lt_extent mem name n hlt fun j hj => by
        obtain ⟨rest, rfl⟩ := hprefix
        rw [List.getElem?_append_left (by rwa [length_items]), getElem?_items mem hj]
      omega
    · intro h
      by_contra! hlt
      have hlength : n < name.length := hlt.trans_le (toDifference.extent_le mem name)
      have hprefix : items mem n <+: name := by
        refine List.prefix_iff_getElem?.mpr fun j hj => ?_
        rw [length_items] at hj
        have hindex : j < (List.range name.length).findIdx fun j => name[j]? ≠ some (mem j) := by
          have hmin := lt_min_iff.mp hlt
          omega
        have hagree := List.not_of_lt_findIdx hindex
        simpa [items] using hagree
      have heq := congrArg List.length (h hprefix)
      rw [length_items] at heq
      omega
  unfold ReadsFit
  simp only [Option.mem_some_iff, forall_eq', hname]

/-- `secure imageX`. -/
def longerPath : FilePath := ⟨some fun i => (ascii "secure imageX").getD i 0, 13⟩

/-- It selects the secure image, and its update is started. -/
theorem not_routed_longerPath : ¬ Routed corstone toDifference longerPath psaSuccess := by
  intro h
  have hnames : Names corstone longerPath 0 := (h.selects 0).mp (by decide)
  exact absurd hnames (by decide)

end Corstone.Ota.ComponentRouting
