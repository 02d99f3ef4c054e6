import Corstone.Lib.Run

/-!
# The CDMA devices

Models of the device functions of `system_cdma.c`: the pool, the set-up of the
address pairs, the copy of one tasklet and its completion. The constants of the
ISP firmware are parameters, with what the C arrays need of them. An access
through a null pointer or outside of an array gives `none`.

* `Cdma.SameSetup`: what the requests leave of the set-up.
* `Cdma.WellConfigured.execute`: in every state that is reached the configured
  entries of a buffer point back to their device.
-/

namespace Corstone.Isp

/-- `FIRMWARE_CONTEXT_NUMBER`, `SYSTEM_DMA_TOGGLE_COUNT` and
    `SYSTEM_DMA_MAX_CHANNEL`. -/
structure CdmaConfig where
  firmwareContextNumber : ℕ
  systemDmaToggleCount : ℕ
  systemDmaMaxChannel : ℕ
  firmwareContextNumber_pos : 0 < firmwareContextNumber
  systemDmaToggleCount_pos : 0 < systemDmaToggleCount
  systemDmaMaxChannel_lt : systemDmaMaxChannel < 2 ^ 31

/-- A device of `pool_cdma_devices`, of which there are `NUM_CDMA_DEVICES`. -/
abbrev DeviceId := Fin 2

/-- The first device. -/
def firstDevice : DeviceId := 0

/-- A context and a buffer of it. -/
structure Slot (c : CdmaConfig) where
  fwCtxId : Fin c.firmwareContextNumber
  buffLoc : Fin c.systemDmaToggleCount
  deriving DecidableEq

/-- An element of `task_list`. Its `mem_data` is the element of `mem_addrs` with
    the same indices. -/
structure Tasklet (c : CdmaConfig) where
  device : DeviceId
  slot : Slot c
  channel : Fin c.systemDmaMaxChannel
  deriving DecidableEq

/-- `mem_addr_pair_t`. -/
structure MemAddrPair where
  devAddr : ℕ
  fwAddr : ℕ
  size : ℕ
  sysBackPtr : Option DeviceId
  deriving DecidableEq

/-- `dma_addr_pair_t` or `fwmem_addr_pair_t`. -/
structure AddrPair where
  address : ℕ
  size : ℕ

/-- `direction`: `SYS_DMA_TO_DEVICE` or another value. -/
inductive Direction
  | toDevice | other
  deriving DecidableEq

/-- `system_cdma_device_t`. -/
structure Device (c : CdmaConfig) where
  sgDeviceNents : Slot c → ℕ
  sgFwmemNents : Slot c → ℕ
  memAddrs : Slot c → Fin c.systemDmaMaxChannel → MemAddrPair
  buffLoc : Fin c.systemDmaToggleCount
  direction : Direction
  curFwCtxId : Fin c.firmwareContextNumber
  /-- A callback, or `NULL`. -/
  completeFunc : Option ℕ
  nentsDone : ℕ
  /-- `comp.xSemaphore`: `NULL`, or whether it has been given. -/
  comp : Option Bool

/-- What the rest of the firmware sees. -/
inductive Event (c : CdmaConfig)
  /-- `memcpy` for a tasklet. -/
  | copy (task : Tasklet c) (dst src size : ℕ)
  | callback (f : ℕ) (device : DeviceId) (fwCtxId : Fin c.firmwareContextNumber)
  /-- `complete` on a semaphore that exists. -/
  | give (device : DeviceId)
  deriving DecidableEq

/-- The variables of `system_cdma.c`. -/
structure Cdma (c : CdmaConfig) where
  availCdmaDevices : List (Option DeviceId)
  poolCdmaDevices : DeviceId → Device c
  log : List (Event c)

/-- The arguments of `system_cdma_copy_sg` besides the device. -/
structure CopySg (c : CdmaConfig) where
  slot : Slot c
  direction : Direction
  completeFunc : Option ℕ

variable {c : CdmaConfig}

namespace Device

/-- The static initial value. -/
def zero (c : CdmaConfig) : Device c where
  sgDeviceNents _ := 0
  sgFwmemNents _ := 0
  memAddrs _ _ := ⟨0, 0, 0, none⟩
  buffLoc := ⟨0, c.systemDmaToggleCount_pos⟩
  direction := .other
  curFwCtxId := ⟨0, c.firmwareContextNumber_pos⟩
  completeFunc := none
  nentsDone := 0
  comp := none

/-- The buffer that the device is at. -/
def slot (d : Device c) : Slot c := ⟨d.curFwCtxId, d.buffLoc⟩

end Device

namespace Cdma

/-- The static initial value. -/
def zero (c : CdmaConfig) : Cdma c := ⟨[some 0, some 1], fun _ => .zero c, []⟩

variable (s : Cdma c)

def setDevice (dev : DeviceId) (d : Device c) : Cdma c :=
  { s with poolCdmaDevices := Function.update s.poolCdmaDevices dev d }

@[simp] theorem poolCdmaDevices_setDevice (dev : DeviceId) (d : Device c) :
    (s.setDevice dev d).poolCdmaDevices dev = d := Function.update_self _ _ _

/-- `system_cdma_init` (lines 192–244) with a `ctx`: the device that it gives
    out. -/
def init : Cdma c × Option DeviceId :=
  match s.availCdmaDevices.findIdx? Option.isSome with
  | none => (s, none)
  | some i =>
    match (s.availCdmaDevices[i]?).join with
    | none => (s, none)
    | some dev =>
      ({ s.setDevice dev { s.poolCdmaDevices dev with
          sgDeviceNents := fun _ => 0
          sgFwmemNents := fun _ => 0
          memAddrs := fun _ _ => ⟨0, 0, 0, none⟩ } with
        availCdmaDevices := s.availCdmaDevices.set i none }, some dev)

/-- `system_cdma_destroy` (lines 247–296). -/
def destroy (dev : DeviceId) : Cdma c × ℤ :=
  if some dev ∈ s.availCdmaDevices then (s, -1)
  else
    match s.availCdmaDevices.findIdx? Option.isNone with
    | none => (s, 0)
    | some i => ({ s with availCdmaDevices := s.availCdmaDevices.set i (some dev) }, 0)

/-- The element of the arrays at `[ fw_ctx_id ][ buff_loc ]`. -/
def slot? (buffLoc : BitVec 32) (fwCtxId : ℕ) : Option (Slot c) :=
  if h : 0 ≤ buffLoc.toInt ∧ buffLoc.toNat < c.systemDmaToggleCount ∧
      fwCtxId < c.firmwareContextNumber then
    some ⟨⟨fwCtxId, h.2.2⟩, ⟨buffLoc.toNat, h.2.1⟩⟩
  else none

/-- What the two set-up functions share: the check that one of them adds, how
    they store the number of pairs and an address. -/
def sgSetup (tooMany : Bool) (setNents : Device c → (Slot c → ℕ) → Device c)
    (nents : Device c → Slot c → ℕ) (setAddr : MemAddrPair → ℕ → MemAddrPair)
    (ctx : Option DeviceId) (buffLoc : BitVec 32) (pairs : Option (ℕ → AddrPair))
    (addrPairs : BitVec 32) (fwCtxId : ℕ) : Option (Cdma c × ℤ) :=
  match ctx, pairs with
  | some dev, some pairs =>
    if addrPairs = 0 ∨ c.systemDmaToggleCount ≤ buffLoc.toInt ∨ tooMany = true ∨
        c.firmwareContextNumber ≤ fwCtxId then some (s, -1)
    else
      match slot? buffLoc fwCtxId with
      | none => none
      | some slot =>
        -- the loop writes behind the channels
        if c.systemDmaMaxChannel < addrPairs.toInt then none
        else
          let d := s.poolCdmaDevices dev
          let entry (i : Fin c.systemDmaMaxChannel) : MemAddrPair :=
            if (i : ℤ) < addrPairs.toInt then
              { setAddr (d.memAddrs slot i) (pairs i).address with
                size := (pairs i).size, sysBackPtr := some dev }
            else d.memAddrs slot i
          some (s.setDevice dev { setNents d (Function.update (nents d) slot addrPairs.toNat) with
            memAddrs := Function.update d.memAddrs slot entry }, 0)
  | _, _ => some (s, -1)

/-- `system_cdma_sg_device_setup` (lines 327–360). -/
def sgDeviceSetup (ctx : Option DeviceId) (buffLoc : BitVec 32)
    (deviceAddrPair : Option (ℕ → AddrPair)) (addrPairs : BitVec 32) (fwCtxId : ℕ) :
    Option (Cdma c × ℤ) :=
  s.sgSetup (c.systemDmaMaxChannel < addrPairs.toInt)
    (fun d nents => { d with sgDeviceNents := nents }) Device.sgDeviceNents
    (fun pair address => { pair with devAddr := address })
    ctx buffLoc deviceAddrPair addrPairs fwCtxId

/-- `system_cdma_sg_fwmem_setup` (lines 362–396). It does not bound the number of
    pairs. -/
def sgFwmemSetup (ctx : Option DeviceId) (buffLoc : BitVec 32)
    (fwmemPair : Option (ℕ → AddrPair)) (addrPairs : BitVec 32) (fwCtxId : ℕ) :
    Option (Cdma c × ℤ) :=
  s.sgSetup false (fun d nents => { d with sgFwmemNents := nents }) Device.sgFwmemNents
    (fun pair address => { pair with fwAddr := address })
    ctx buffLoc fwmemPair addrPairs fwCtxId

/-- `system_cdma_copy_sg` (lines 431–478) before its loop; `none` is the result
    `-1`. -/
def copySg (ctx : Option DeviceId) (call : CopySg c) : Option (Cdma c) :=
  match ctx with
  | none => none
  | some dev =>
    let d := s.poolCdmaDevices dev
    let srcNents := d.sgDeviceNents call.slot
    let dstNents := d.sgFwmemNents call.slot
    if srcNents ≠ dstNents ∨ srcNents = 0 then none
    else
      some (s.setDevice dev { d with
        curFwCtxId := call.slot.fwCtxId
        nentsDone := 0
        completeFunc := call.completeFunc
        -- `init_completion` when there is no callback
        comp := if call.completeFunc = none then some false else d.comp
        direction := call.direction
        buffLoc := call.slot.buffLoc })

/-- `dma_complete_func` (lines 298–325). -/
def dmaCompleteFunc (dev : DeviceId) : Cdma c :=
  let d := s.poolCdmaDevices dev
  let d := { d with nentsDone := (d.nentsDone + 1) % 2 ^ 32 }
  if d.sgDeviceNents d.slot ≤ d.nentsDone then
    match d.completeFunc, d.comp with
    | some f, _ =>
      { s.setDevice dev d with log := s.log ++ [.callback f dev d.curFwCtxId] }
    | none, some _ =>
      { s.setDevice dev { d with comp := some true } with log := s.log ++ [.give dev] }
    | none, none => s.setDevice dev d
  else s.setDevice dev d

section Completion

variable {s} {dev : DeviceId}

/-- Entries are left to be copied. -/
theorem dmaCompleteFunc_of_lt
    (hlt : ((s.poolCdmaDevices dev).nentsDone + 1) % 2 ^ 32 <
      (s.poolCdmaDevices dev).sgDeviceNents (s.poolCdmaDevices dev).slot) :
    s.dmaCompleteFunc dev = s.setDevice dev { s.poolCdmaDevices dev with
      nentsDone := ((s.poolCdmaDevices dev).nentsDone + 1) % 2 ^ 32 } :=
  if_neg (not_le.2 hlt)

/-- The last entry of a request with a callback. -/
theorem dmaCompleteFunc_callback (f : ℕ)
    (hle : (s.poolCdmaDevices dev).sgDeviceNents (s.poolCdmaDevices dev).slot ≤
      ((s.poolCdmaDevices dev).nentsDone + 1) % 2 ^ 32)
    (hf : (s.poolCdmaDevices dev).completeFunc = some f) :
    s.dmaCompleteFunc dev = { s.setDevice dev { s.poolCdmaDevices dev with
        nentsDone := ((s.poolCdmaDevices dev).nentsDone + 1) % 2 ^ 32 } with
      log := s.log ++ [.callback f dev (s.poolCdmaDevices dev).curFwCtxId] } := by
  unfold dmaCompleteFunc
  dsimp only
  rw [if_pos (by exact hle), hf]

/-- The last entry of a request that is waited for. -/
theorem dmaCompleteFunc_give (given : Bool)
    (hle : (s.poolCdmaDevices dev).sgDeviceNents (s.poolCdmaDevices dev).slot ≤
      ((s.poolCdmaDevices dev).nentsDone + 1) % 2 ^ 32)
    (hf : (s.poolCdmaDevices dev).completeFunc = none)
    (hcomp : (s.poolCdmaDevices dev).comp = some given) :
    s.dmaCompleteFunc dev = { s.setDevice dev { s.poolCdmaDevices dev with
        nentsDone := ((s.poolCdmaDevices dev).nentsDone + 1) % 2 ^ 32, comp := some true } with
      log := s.log ++ [.give dev] } := by
  unfold dmaCompleteFunc
  dsimp only
  rw [if_pos (by exact hle), hf, hcomp]

end Completion

/-- The `memcpy` of `memcopy_func` for an entry of a device. -/
def copyEvent (task : Tasklet c) (dev : DeviceId) : Event c :=
  let memAddr := (s.poolCdmaDevices task.device).memAddrs task.slot task.channel
  if (s.poolCdmaDevices dev).direction = .toDevice then
    .copy task memAddr.devAddr memAddr.fwAddr memAddr.size
  else .copy task memAddr.fwAddr memAddr.devAddr memAddr.size

/-- `memcopy_func` (lines 398–425). -/
def memcopyFunc (task : Tasklet c) : Option (Cdma c) :=
  let memAddr := (s.poolCdmaDevices task.device).memAddrs task.slot task.channel
  match memAddr.sysBackPtr with
  | none => none
  | some dev => some ({ s with log := s.log ++ [s.copyEvent task dev] }.dmaCompleteFunc dev)

/-- `wait_for_completion` (lines 154–162) of a waiting task: it goes on once the
    semaphore has been given. -/
def wake (dev : DeviceId) : Cdma c :=
  let d := s.poolCdmaDevices dev
  if d.comp = some true then s.setDevice dev { d with comp := none } else s

end Cdma

/-- A step of the tasks that use the devices. -/
inductive CdmaAction (c : CdmaConfig)
  | init
  | destroy (dev : DeviceId)
  | sgDeviceSetup (ctx : Option DeviceId) (buffLoc : BitVec 32)
      (deviceAddrPair : Option (ℕ → AddrPair)) (addrPairs : BitVec 32) (fwCtxId : ℕ)
  | sgFwmemSetup (ctx : Option DeviceId) (buffLoc : BitVec 32)
      (fwmemPair : Option (ℕ → AddrPair)) (addrPairs : BitVec 32) (fwCtxId : ℕ)
  | copySg (ctx : Option DeviceId) (call : CopySg c)
  | memcopyFunc (task : Tasklet c)
  | wake (dev : DeviceId)

namespace Cdma

/-- One step. -/
def step (s : Cdma c) : CdmaAction c → Option (Cdma c)
  | .init => some s.init.1
  | .destroy dev => some (s.destroy dev).1
  | .sgDeviceSetup ctx buffLoc pairs addrPairs fwCtxId =>
    (s.sgDeviceSetup ctx buffLoc pairs addrPairs fwCtxId).map Prod.fst
  | .sgFwmemSetup ctx buffLoc pairs addrPairs fwCtxId =>
    (s.sgFwmemSetup ctx buffLoc pairs addrPairs fwCtxId).map Prod.fst
  | .copySg ctx call => some ((s.copySg ctx call).getD s)
  | .memcopyFunc task => s.memcopyFunc task
  | .wake dev => some (s.wake dev)

/-- A sequence of steps; `none` when one of them faults. -/
def execute (s : Cdma c) (as : List (CdmaAction c)) : Option (Cdma c) := as.foldlM step s

@[simp] theorem execute_cons (s : Cdma c) (a : CdmaAction c) (as : List (CdmaAction c)) :
    s.execute (a :: as) = (s.step a).bind fun s => s.execute as := rfl

/-- Two states with the same set-up of all devices. -/
def SameSetup (s s' : Cdma c) : Prop :=
  ∀ dev, (s'.poolCdmaDevices dev).sgDeviceNents = (s.poolCdmaDevices dev).sgDeviceNents ∧
    (s'.poolCdmaDevices dev).memAddrs = (s.poolCdmaDevices dev).memAddrs

section SameSetup

variable {s s' : Cdma c} {dev : DeviceId} {d : Device c}

theorem sameSetup_setDevice (hnents : d.sgDeviceNents = (s.poolCdmaDevices dev).sgDeviceNents)
    (haddrs : d.memAddrs = (s.poolCdmaDevices dev).memAddrs) : SameSetup s (s.setDevice dev d) := by
  intro dev'
  by_cases hdev : dev' = dev
  · subst hdev
    rw [poolCdmaDevices_setDevice]
    exact ⟨hnents, haddrs⟩
  · have hother : (s.setDevice dev d).poolCdmaDevices dev' = s.poolCdmaDevices dev' :=
      Function.update_of_ne hdev _ _
    rw [hother]
    exact ⟨rfl, rfl⟩

theorem sameSetup_copySg {ctx : Option DeviceId} {call : CopySg c}
    (hs' : s.copySg ctx call = some s') : SameSetup s s' := by
  unfold copySg at hs'
  split at hs'
  · exact absurd hs' (by simp)
  · dsimp only at hs'
    split at hs'
    · exact absurd hs' (by simp)
    · obtain rfl := Option.some_injective _ hs'
      exact sameSetup_setDevice rfl rfl

theorem sameSetup_dmaCompleteFunc (s : Cdma c) (dev : DeviceId) :
    SameSetup s (s.dmaCompleteFunc dev) := by
  unfold dmaCompleteFunc
  dsimp only
  split_ifs
  · split
    · exact sameSetup_setDevice rfl rfl
    · exact sameSetup_setDevice rfl rfl
    · exact sameSetup_setDevice rfl rfl
  · exact sameSetup_setDevice rfl rfl

theorem sameSetup_memcopyFunc {task : Tasklet c} (hs' : s.memcopyFunc task = some s') :
    SameSetup s s' := by
  unfold memcopyFunc at hs'
  dsimp only at hs'
  split at hs'
  · exact absurd hs' (by simp)
  · obtain rfl := Option.some_injective _ hs'
    exact sameSetup_dmaCompleteFunc { s with log := _ } _

theorem sameSetup_wake (s : Cdma c) (dev : DeviceId) : SameSetup s (s.wake dev) := by
  unfold wake
  dsimp only
  split_ifs
  · exact sameSetup_setDevice rfl rfl
  · exact fun _ => ⟨rfl, rfl⟩

end SameSetup

end Cdma

/-- The configured entries of its buffers point back to the device. -/
def Device.WellConfigured (d : Device c) (dev : DeviceId) : Prop :=
  ∀ slot, ∀ i : Fin c.systemDmaMaxChannel,
    d.sgDeviceNents slot ≤ c.systemDmaMaxChannel → i < d.sgDeviceNents slot →
    (d.memAddrs slot i).sysBackPtr = some dev

namespace Cdma

/-- All devices are so. -/
def WellConfigured (s : Cdma c) : Prop := ∀ dev, (s.poolCdmaDevices dev).WellConfigured dev

theorem wellConfigured_zero : (zero c).WellConfigured := by
  intro dev slot i _ hi
  exact absurd hi (Nat.not_lt_zero _)

variable {s s' : Cdma c} {dev : DeviceId} {d : Device c}

theorem WellConfigured.setDevice (h : s.WellConfigured) (hd : d.WellConfigured dev) :
    (s.setDevice dev d).WellConfigured := by
  intro dev'
  by_cases hdev : dev' = dev
  · subst hdev
    show (Function.update s.poolCdmaDevices dev' d dev').WellConfigured dev'
    rwa [Function.update_self]
  · show (Function.update s.poolCdmaDevices dev d dev').WellConfigured dev'
    rw [Function.update_of_ne hdev]
    exact h dev'

theorem WellConfigured.of_sameSetup (h : s.WellConfigured) (hs' : SameSetup s s') :
    s'.WellConfigured := by
  intro dev slot i
  rw [(hs' dev).1, (hs' dev).2]
  exact h dev slot i

theorem WellConfigured.init (h : s.WellConfigured) : s.init.1.WellConfigured := by
  unfold Cdma.init
  split
  · exact h
  · split
    · exact h
    · apply h.setDevice
      intro slot i _ hi
      exact absurd hi (Nat.not_lt_zero _)

theorem WellConfigured.destroy (h : s.WellConfigured) : (s.destroy dev).1.WellConfigured := by
  unfold Cdma.destroy
  split_ifs
  · exact h
  · split
    · exact h
    · exact h

/-- A set-up that stores the number of pairs, or another number, where the pairs
    are. -/
theorem WellConfigured.sgSetup (h : s.WellConfigured) {tooMany : Bool}
    {setNents : Device c → (Slot c → ℕ) → Device c} {nents : Device c → Slot c → ℕ}
    {setAddr : MemAddrPair → ℕ → MemAddrPair} {ctx : Option DeviceId} {buffLoc : BitVec 32}
    {pairs : Option (ℕ → AddrPair)} {addrPairs : BitVec 32} {fwCtxId : ℕ} {result : ℤ}
    (hnents : ∀ d slot k slot',
      (setNents d (Function.update (nents d) slot k)).sgDeviceNents slot' =
          d.sgDeviceNents slot' ∨
        slot' = slot ∧ (setNents d (Function.update (nents d) slot k)).sgDeviceNents slot' = k)
    (hs' : s.sgSetup tooMany setNents nents setAddr ctx buffLoc pairs addrPairs fwCtxId =
      some (s', result)) : s'.WellConfigured := by
  unfold Cdma.sgSetup at hs'
  split at hs'
  · rename_i dev pairs
    split at hs'
    · obtain rfl : s = s' := congrArg Prod.fst (Option.some_injective _ hs')
      exact h
    · split at hs'
      · exact absurd hs' (by simp)
      · rename_i slot _
        split at hs'
        · exact absurd hs' (by simp)
        · obtain rfl := congrArg Prod.fst (Option.some_injective _ hs')
          apply h.setDevice
          intro slot' i hmax hi
          dsimp only at hmax hi ⊢
          by_cases hslot : slot' = slot
          · subst hslot
            rw [Function.update_self]
            split_ifs with hpairs
            · rfl
            · -- an entry behind the pairs was configured before
              obtain hsame | ⟨_, hnew⟩ :=
                hnents (s.poolCdmaDevices dev) slot' addrPairs.toNat slot'
              · rw [hsame] at hmax hi
                exact h dev slot' i hmax hi
              · rw [hnew] at hmax hi
                have hlt := c.systemDmaMaxChannel_lt
                rw [BitVec.toInt_eq_toNat_of_lt (by omega)] at hpairs
                omega
          · rw [Function.update_of_ne hslot]
            obtain hsame | ⟨heq, _⟩ := hnents (s.poolCdmaDevices dev) slot addrPairs.toNat slot'
            · rw [hsame] at hmax hi
              exact h dev slot' i hmax hi
            · exact absurd heq hslot
  · obtain rfl : s = s' := congrArg Prod.fst (Option.some_injective _ hs')
    exact h

/-- A step keeps it. -/
theorem WellConfigured.step (h : s.WellConfigured) {a : CdmaAction c}
    (hs' : s.step a = some s') : s'.WellConfigured := by
  cases a with
  | init =>
    obtain rfl := Option.some_injective _ hs'
    exact h.init
  | destroy dev =>
    obtain rfl := Option.some_injective _ hs'
    exact h.destroy
  | sgDeviceSetup ctx buffLoc pairs addrPairs fwCtxId =>
    obtain ⟨⟨s'', result⟩, hsetup, rfl⟩ := Option.map_eq_some_iff.1 hs'
    refine h.sgSetup (fun d slot k slot' => ?_) hsetup
    by_cases hslot : slot' = slot
    · exact Or.inr ⟨hslot, by simp [hslot]⟩
    · exact Or.inl (by simp [hslot])
  | sgFwmemSetup ctx buffLoc pairs addrPairs fwCtxId =>
    obtain ⟨⟨s'', result⟩, hsetup, rfl⟩ := Option.map_eq_some_iff.1 hs'
    exact h.sgSetup (fun d slot k slot' => Or.inl rfl) hsetup
  | copySg ctx call =>
    obtain rfl := Option.some_injective _ hs'
    cases hcall : s.copySg ctx call with
    | none => exact h
    | some s' => exact h.of_sameSetup (sameSetup_copySg hcall)
  | memcopyFunc task => exact h.of_sameSetup (sameSetup_memcopyFunc hs')
  | wake dev =>
    obtain rfl := Option.some_injective _ hs'
    exact h.of_sameSetup (sameSetup_wake s dev)

/-- **Every state that is reached** is well configured. -/
theorem WellConfigured.execute (h : s.WellConfigured) {as : List (CdmaAction c)}
    (hs' : s.execute as = some s') : s'.WellConfigured := by
  induction as generalizing s with
  | nil =>
    obtain rfl := Option.some_injective _ hs'
    exact h
  | cons a as ih =>
    rw [execute_cons] at hs'
    obtain ⟨s'', hstep, hrest⟩ := Option.bind_eq_some_iff.1 hs'
    exact ih (h.step hstep) hrest

/-- The function of a tasklet faults on an entry that has not been set up. -/
theorem memcopyFunc_eq_none_iff {task : Tasklet c} : s.memcopyFunc task = none ↔
    ((s.poolCdmaDevices task.device).memAddrs task.slot task.channel).sysBackPtr = none := by
  unfold Cdma.memcopyFunc
  dsimp only
  split
  · rename_i hback
    simp [hback]
  · rename_i dev hback
    simp [hback]

end Cdma

end Corstone.Isp
