import Corstone.Lib.Run

/-!
# Coherent memory for the ISP

Models of `pvCallbackDmaAllocCoherent` and `vCallbackDmaFreeCoherent` (`acamera_callbacks.c`, lines
25–66), with what their caller holds. The memory is taken up from its base on; one counter tells how
much of it, and every free sets the counter to 0. Only one allocation at a time is supported. In
`vCallbackDmaFreeCoherent` the address is compared for a log message alone.

* `alloc_cases`: a request whose sum does not wrap.
* `coherent_run`: what holds in a run where a region is requested only if none is left from before
  the last free; this is so with one allocation at a time.
* `not_coherent_twoRegions`: two allocations at a time, of which one is freed.
-/

namespace Corstone.ObjectDetection.CoherentDma

open Corstone.Lib

/-! ## The callbacks -/

/-- `isp_configCOHERENT_DMA_MEMORY_SIZE`. -/
def memorySize : ℕ := 2048 * 1080 * 20 / 8

/-- `ISP_SOC_DMA_BUS_OFFSET`. -/
def busOffset : UInt64 := 0

/-- `isp_configCOHERENT_DMA_MEMORY_BASE`: the arena and its end are in the address space, `NULL` is
    outside. -/
structure Arena where
  base : UInt32
  pos : 0 < base.toNat
  end_lt : base.toNat + memorySize < 2 ^ 32

/-- What the caller gets: the address, if it is not `NULL`, and the bus address. -/
structure Allocation where
  address : Option UInt32
  ullDmaAddress : UInt64
  deriving DecidableEq

/-- `pvCallbackDmaAllocCoherent`, on `ulCoherentDmaAllocatedSize`. The sum has 64 bits, the counter
    32. -/
def pvCallbackDmaAllocCoherent (arena : Arena) (ulCoherentDmaAllocatedSize : UInt32)
    (ullSize : UInt64) : UInt32 × Allocation :=
  if ulCoherentDmaAllocatedSize.toUInt64 + ullSize > UInt64.ofNat memorySize then
    (ulCoherentDmaAllocatedSize, ⟨none, 0⟩)
  else
    let ulAddress := arena.base + ulCoherentDmaAllocatedSize
    ((ulCoherentDmaAllocatedSize.toUInt64 + ullSize).toUInt32,
      ⟨some ulAddress, ulAddress.toUInt64 - busOffset⟩)

/-- `vCallbackDmaFreeCoherent`: the new `ulCoherentDmaAllocatedSize`. -/
def vCallbackDmaFreeCoherent : UInt32 := 0

/-! ## The caller -/

/-- What has been obtained with a request. -/
structure Region where
  address : UInt32
  ullSize : UInt64
  deriving DecidableEq

/-- The counter, and the regions that the caller has obtained and not freed: those since the last
    free, and the older ones. -/
structure Dma where
  ulCoherentDmaAllocatedSize : UInt32 := 0
  recent : List Region := []
  older : List Region := []
  deriving DecidableEq

inductive DmaAction
  | alloc (ullSize : UInt64)
  | free (region : Region)

/-- All regions that are allocated. -/
def Dma.regions (s : Dma) : List Region := s.recent ++ s.older

/-- One call. -/
def step (arena : Arena) (s : Dma) : DmaAction → Dma
  | .alloc ullSize =>
    let (counter, allocation) :=
      pvCallbackDmaAllocCoherent arena s.ulCoherentDmaAllocatedSize ullSize
    match allocation.address with
    | none => { s with ulCoherentDmaAllocatedSize := counter }
    | some address =>
      { s with ulCoherentDmaAllocatedSize := counter, recent := ⟨address, ullSize⟩ :: s.recent }
  | .free region => ⟨vCallbackDmaFreeCoherent, [], s.regions.erase region⟩

/-! ## The purpose -/

/-- The bytes of a region. -/
def Region.Contains (r : Region) (x : ℕ) : Prop :=
  r.address.toNat ≤ x ∧ x < r.address.toNat + r.ullSize.toNat

/-- No byte is in both. -/
def Region.Disjoint (r r' : Region) : Prop := ∀ x, r.Contains x → ¬ r'.Contains x

/-- The region is a part of the arena. -/
def Region.Inside (arena : Arena) (r : Region) : Prop :=
  arena.base.toNat ≤ r.address.toNat ∧
    r.address.toNat + r.ullSize.toNat ≤ arena.base.toNat + memorySize

/-- The regions that are allocated. -/
structure Coherent (arena : Arena) (s : Dma) : Prop where
  disjoint : s.regions.Pairwise Region.Disjoint
  inside : ∀ r ∈ s.regions, r.Inside arena

/-- A request: one that is refused changes nothing, one for which there is no place is refused, and
    the bus address is the one of the region. -/
structure Served (arena : Arena) (s : Dma) (ullSize : UInt64) : Prop where
  refused : (pvCallbackDmaAllocCoherent arena s.ulCoherentDmaAllocatedSize ullSize).2.address =
    none → step arena s (.alloc ullSize) = s
  noPlace : (¬ ∃ address, Region.Inside arena ⟨address, ullSize⟩ ∧
      ∀ r ∈ s.regions, Region.Disjoint ⟨address, ullSize⟩ r) →
    (pvCallbackDmaAllocCoherent arena s.ulCoherentDmaAllocatedSize ullSize).2.address = none
  busAddress : ∀ address ∈
      (pvCallbackDmaAllocCoherent arena s.ulCoherentDmaAllocatedSize ullSize).2.address,
    (pvCallbackDmaAllocCoherent arena s.ulCoherentDmaAllocatedSize ullSize).2.ullDmaAddress =
      address.toUInt64 - busOffset

/-- A region is requested only if none is left from before the last free, and if the 64-bit sum does
    not wrap. Only a region that is allocated is freed. -/
def Condition (s : Dma) : DmaAction → Prop
  | .alloc ullSize =>
    s.older = [] ∧ s.ulCoherentDmaAllocatedSize.toNat + ullSize.toNat < 2 ^ 64
  | .free region => region ∈ s.regions

/-- The use that is supported: a region is requested only when none is allocated. -/
def OneAtATime (s : Dma) : DmaAction → Prop
  | .alloc _ => s.regions = []
  | .free region => region ∈ s.regions

instance (s : Dma) : (a : DmaAction) → Decidable (Condition s a)
  | .alloc _ => inferInstanceAs (Decidable (_ ∧ _))
  | .free _ => inferInstanceAs (Decidable (_ ∈ _))

instance (s : Dma) : (a : DmaAction) → Decidable (OneAtATime s a)
  | .alloc _ => inferInstanceAs (Decidable (_ = _))
  | .free _ => inferInstanceAs (Decidable (_ ∈ _))

/-! ## The steps -/

section Steps

variable {arena : Arena} {s : Dma} {ullSize : UInt64}

/-- Without a wrap the request is refused iff there is not enough memory. -/
theorem alloc_cases (arena : Arena)
    (hsize : s.ulCoherentDmaAllocatedSize.toNat + ullSize.toNat < 2 ^ 64) :
    (memorySize < s.ulCoherentDmaAllocatedSize.toNat + ullSize.toNat ∧
      pvCallbackDmaAllocCoherent arena s.ulCoherentDmaAllocatedSize ullSize =
        (s.ulCoherentDmaAllocatedSize, ⟨none, 0⟩)) ∨
    (s.ulCoherentDmaAllocatedSize.toNat + ullSize.toNat ≤ memorySize ∧
      ∃ counter address,
        pvCallbackDmaAllocCoherent arena s.ulCoherentDmaAllocatedSize ullSize =
          (counter, ⟨some address, address.toUInt64 - busOffset⟩) ∧
        counter.toNat = s.ulCoherentDmaAllocatedSize.toNat + ullSize.toNat ∧
        address.toNat = arena.base.toNat + s.ulCoherentDmaAllocatedSize.toNat) := by
  have hmemory : memorySize = 5529600 := rfl
  have hsum : (s.ulCoherentDmaAllocatedSize.toUInt64 + ullSize).toNat =
      s.ulCoherentDmaAllocatedSize.toNat + ullSize.toNat := by
    rw [UInt64.toNat_add, UInt32.toNat_toUInt64, Nat.mod_eq_of_lt hsize]
  have hlimit : (UInt64.ofNat memorySize).toNat = memorySize := rfl
  unfold pvCallbackDmaAllocCoherent
  by_cases hlarge :
      s.ulCoherentDmaAllocatedSize.toUInt64 + ullSize > UInt64.ofNat memorySize
  · have hlt := UInt64.lt_iff_toNat_lt.mp hlarge
    rw [hsum, hlimit] at hlt
    exact .inl ⟨hlt, if_pos hlarge⟩
  · have hle := UInt64.le_iff_toNat_le.mp (UInt64.not_lt.mp hlarge)
    rw [hsum, hlimit] at hle
    refine .inr ⟨hle, _, _, if_neg hlarge, ?_, ?_⟩
    · rw [UInt64.toNat_toUInt32, hsum]
      omega
    · have hend := arena.end_lt
      rw [UInt32.toNat_add]
      omega

/-- The recent regions end before the counter. -/
structure Inv (arena : Arena) (s : Dma) : Prop where
  coherent : Coherent arena s
  counter_le : s.ulCoherentDmaAllocatedSize.toNat ≤ memorySize
  recent_le : ∀ r ∈ s.recent,
    r.address.toNat + r.ullSize.toNat ≤
      arena.base.toNat + s.ulCoherentDmaAllocatedSize.toNat

theorem inv_init (arena : Arena) : Inv arena {} where
  coherent := ⟨List.Pairwise.nil, nofun⟩
  counter_le := Nat.zero_le _
  recent_le := nofun

/-- The place of a request behind the counter. -/
theorem disjoint_recent (h : Inv arena s) {address : UInt32} (ullSize : UInt64)
    (haddress : address.toNat = arena.base.toNat + s.ulCoherentDmaAllocatedSize.toNat) :
    ∀ r ∈ s.recent, Region.Disjoint ⟨address, ullSize⟩ r := by
  intro r hr x hx hx'
  have hend := h.recent_le r hr
  obtain ⟨hstart, -⟩ := hx
  obtain ⟨-, hbefore⟩ := hx'
  dsimp only at hstart
  omega

theorem inside_place {address : UInt32}
    (haddress : address.toNat = arena.base.toNat + s.ulCoherentDmaAllocatedSize.toNat)
    (hsize : s.ulCoherentDmaAllocatedSize.toNat + ullSize.toNat ≤ memorySize) :
    Region.Inside arena ⟨address, ullSize⟩ := by
  constructor
  · show arena.base.toNat ≤ address.toNat
    omega
  · show address.toNat + ullSize.toNat ≤ arena.base.toNat + memorySize
    omega

/-- A request that is refused changes nothing. -/
theorem step_alloc_of_refused (h : (pvCallbackDmaAllocCoherent arena
      s.ulCoherentDmaAllocatedSize ullSize).2.address = none) :
    step arena s (.alloc ullSize) = s := by
  have hcounter : (pvCallbackDmaAllocCoherent arena s.ulCoherentDmaAllocatedSize ullSize).1 =
      s.ulCoherentDmaAllocatedSize := by
    unfold pvCallbackDmaAllocCoherent at h ⊢
    split_ifs at h ⊢
    rfl
  unfold step
  dsimp only
  rw [h, hcounter]

theorem Inv.step_alloc (h : Inv arena s) (hcondition : Condition s (.alloc ullSize)) :
    Inv arena (step arena s (.alloc ullSize)) := by
  obtain ⟨holder, hsize⟩ := hcondition
  rcases alloc_cases arena hsize with
    ⟨-, hrefused⟩ | ⟨hle, counter, address, halloc, hcounter, haddress⟩
  · rw [step_alloc_of_refused (by rw [hrefused])]
    exact h
  · have hstep : step arena s (.alloc ullSize) =
        { s with
          ulCoherentDmaAllocatedSize := counter
          recent := ⟨address, ullSize⟩ :: s.recent } := by
      unfold step
      dsimp only
      rw [halloc]
    have hregions : s.regions = s.recent := by
      rw [Dma.regions, holder, List.append_nil]
    rw [hstep]
    refine ⟨⟨?_, ?_⟩, hcounter.le.trans hle, ?_⟩
    · show (⟨address, ullSize⟩ :: s.regions).Pairwise _
      rw [List.pairwise_cons, hregions]
      refine ⟨disjoint_recent h ullSize haddress, ?_⟩
      rw [← hregions]
      exact h.coherent.disjoint
    · show ∀ r ∈ ⟨address, ullSize⟩ :: s.regions, r.Inside arena
      exact List.forall_mem_cons.mpr ⟨inside_place haddress hle, h.coherent.inside⟩
    · refine List.forall_mem_cons.mpr ⟨?_, fun r hr => (h.recent_le r hr).trans ?_⟩
      · show address.toNat + ullSize.toNat ≤ arena.base.toNat + counter.toNat
        omega
      · show _ ≤ arena.base.toNat + counter.toNat
        omega

theorem Inv.step (h : Inv arena s) (a : DmaAction) (hcondition : Condition s a) :
    Inv arena (step arena s a) := by
  cases a with
  | alloc ullSize => exact h.step_alloc hcondition
  | free region =>
    have hsublist : (s.regions.erase region).Sublist s.regions := List.erase_sublist
    refine ⟨⟨h.coherent.disjoint.sublist hsublist, ?_⟩, Nat.zero_le _, nofun⟩
    intro r hr
    exact h.coherent.inside r (hsublist.subset hr)

theorem Inv.served (h : Inv arena s) (hcondition : Condition s (.alloc ullSize)) :
    Served arena s ullSize := by
  obtain ⟨holder, hsize⟩ := hcondition
  refine ⟨step_alloc_of_refused, ?_, ?_⟩
  · intro hnone
    rcases alloc_cases arena hsize with
      ⟨-, hrefused⟩ | ⟨hle, counter, address, halloc, hcounter, haddress⟩
    · rw [hrefused]
    · refine absurd ⟨address, inside_place haddress hle, ?_⟩ hnone
      rw [Dma.regions, holder, List.append_nil]
      exact disjoint_recent h ullSize haddress
  · rcases alloc_cases arena hsize with
      ⟨-, hrefused⟩ | ⟨hle, counter, address, halloc, hcounter, haddress⟩
    · rw [hrefused]
      exact nofun
    · rw [halloc]
      rintro _ ⟨⟩
      rfl

/-- With no region since the last free nothing is taken up. -/
def Unused (s : Dma) : Prop := s.recent = [] → s.ulCoherentDmaAllocatedSize = 0

theorem unused_step (h : Unused s) (a : DmaAction) : Unused (step arena s a) := by
  cases a with
  | free region => exact fun _ => rfl
  | alloc ullSize =>
    cases halloc : (pvCallbackDmaAllocCoherent arena
        s.ulCoherentDmaAllocatedSize ullSize).2.address with
    | none =>
      rw [step_alloc_of_refused halloc]
      exact h
    | some address =>
      unfold Unused step
      dsimp only
      rw [halloc]
      exact fun hnil => absurd hnil (List.cons_ne_nil _ _)

theorem condition_of_oneAtATime (h : Unused s) {a : DmaAction} (ha : OneAtATime s a) :
    Condition s a := by
  cases a with
  | free region => exact ha
  | alloc ullSize =>
    obtain ⟨hrecent, holder⟩ := List.append_eq_nil_iff.mp ha
    refine ⟨holder, ?_⟩
    rw [h hrecent]
    show 0 + ullSize.toNat < 2 ^ 64
    have := ullSize.toNat_lt
    omega

end Steps

/-- **The regions that are allocated**, in every run where a region is requested only if none is
    left from before the last free, and the sum does not wrap: they are disjoint and inside the
    arena, and the requests are served. A run with one region at a time is such a run. -/
theorem coherent_run (arena : Arena) (as : List DmaAction) :
    (Along (step arena) OneAtATime {} as → Along (step arena) Condition {} as) ∧
    (Along (step arena) Condition {} as →
      Coherent arena (run (step arena) {} as) ∧
      ∀ ullSize, Condition (run (step arena) {} as) (.alloc ullSize) →
        Served arena (run (step arena) {} as) ullSize) := by
  constructor
  · intro h
    exact along_of_inv (I := Unused) (fun s a hs _ => unused_step hs a)
      (fun s a hs ha => condition_of_oneAtATime hs ha) (fun _ => rfl) h
  · intro h
    have hinv := h.inv (I := Inv arena) (fun s a hs ha => hs.step a ha) (inv_init arena)
    exact ⟨hinv.coherent, fun ullSize hcondition => hinv.served hcondition⟩

/-- An arena. -/
def sampleArena : Arena := ⟨0x70000000, by decide, by decide⟩

/-- The temper frame is allocated, freed and allocated again. -/
theorem coherent_run_temperFrame :
    Coherent sampleArena (run (step sampleArena) {}
      [.alloc 5529600, .free ⟨0x70000000, 5529600⟩, .alloc 5529600]) :=
  ((coherent_run sampleArena _).2
    ((coherent_run sampleArena _).1 (by decide +kernel))).1

/-- Two regions, of which one is freed: the second of the next two overlaps the other one. And a
    size that wraps is taken. -/
theorem not_coherent_twoRegions :
    ¬ Coherent sampleArena (run (step sampleArena) {}
      [.alloc 100, .alloc 100, .free ⟨0x70000000, 100⟩, .alloc 100, .alloc 100]) ∧
    ¬ Coherent sampleArena (run (step sampleArena) {} [.alloc 100, .alloc 0xFFFFFFFFFFFFFFCE]) := by
  constructor
  · intro h
    have hrun : (run (step sampleArena) {} [.alloc 100, .alloc 100, .free ⟨0x70000000, 100⟩,
        .alloc 100, .alloc 100]).regions =
          [⟨0x70000064, 100⟩, ⟨0x70000000, 100⟩, ⟨0x70000064, 100⟩] := by decide +kernel
    have hdisjoint := h.disjoint
    rw [hrun, List.pairwise_cons] at hdisjoint
    have hcontains : Region.Contains ⟨0x70000064, 100⟩ 0x70000064 := ⟨by decide, by decide⟩
    exact hdisjoint.1 ⟨0x70000064, 100⟩ (by simp) _ hcontains hcontains
  · intro h
    have hinside := h.inside ⟨0x70000064, 0xFFFFFFFFFFFFFFCE⟩ (by decide +kernel)
    exact absurd hinside.2 (by decide)

end Corstone.ObjectDetection.CoherentDma
