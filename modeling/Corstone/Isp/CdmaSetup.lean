import Corstone.Isp.ScatterGather

/-!
# The bounds of the set-up and of the copies

`system_cdma_sg_device_setup` and `system_cdma_sg_fwmem_setup` write the same entries of `mem_addrs`
(`system_cdma.c`, lines 327–425). Neither checks that the index of the buffer is not negative, and
the second one does not check the number of pairs. An entry has one size for its two regions, that
of the call that has come last, and `memcopy_func` copies as much.

* `apply_ne_none_iff`: when a call stays in bounds.
* `entry_apply`: what a call does to an entry.
* `setup_bounds_iff`: a sequence of calls stays in bounds iff each of them does, and a later copy
  stays inside both regions iff the size that was given last is at most the size of both.
* `unbounded_setup`: two calls and a copy that do not.
-/

namespace Corstone.Isp

variable {c : CdmaConfig}

/-- Which of the two set-up functions is called. -/
inductive SetupKind
  | device | fwmem
  deriving DecidableEq

/-- A call of one of the set-up functions with its arguments. -/
structure SetupCall where
  kind : SetupKind
  ctx : Option DeviceId
  buffLoc : BitVec 32
  pairs : Option (ℕ → AddrPair)
  addrPairs : BitVec 32
  fwCtxId : ℕ

/-- The address that a set-up function stores. -/
def SetupKind.setAddr : SetupKind → MemAddrPair → ℕ → MemAddrPair
  | .device, pair, address => { pair with devAddr := address }
  | .fwmem, pair, address => { pair with fwAddr := address }

namespace SetupCall

/-- The call as a step of the tasks. -/
def action (call : SetupCall) : CdmaAction c :=
  match call.kind with
  | .device => .sgDeviceSetup call.ctx call.buffLoc call.pairs call.addrPairs call.fwCtxId
  | .fwmem => .sgFwmemSetup call.ctx call.buffLoc call.pairs call.addrPairs call.fwCtxId

/-- The state after the call; `none` when it leaves the arrays. -/
def apply (call : SetupCall) (s : Cdma c) : Option (Cdma c) := s.step call.action

/-- The call returns -1. The number of pairs is bounded by `system_cdma_sg_device_setup` only. -/
def Rejected (c : CdmaConfig) (call : SetupCall) : Prop :=
  call.ctx = none ∨ call.pairs = none ∨ call.addrPairs = 0 ∨
    c.systemDmaToggleCount ≤ call.buffLoc.toInt ∨
    (call.kind = .device ∧ c.systemDmaMaxChannel < call.addrPairs.toInt) ∨
    c.firmwareContextNumber ≤ call.fwCtxId

/-- The call is rejected, or its index is not negative and it has not too many pairs. -/
def Bounded (c : CdmaConfig) (call : SetupCall) : Prop :=
  call.Rejected c ∨ (0 ≤ call.buffLoc.toInt ∧ call.addrPairs.toInt ≤ c.systemDmaMaxChannel)

/-- The pair that an accepted call gives for the entry of a tasklet. -/
def pair? (call : SetupCall) (task : Tasklet c) : Option AddrPair :=
  match call.ctx, call.pairs with
  | some dev, some pairs =>
    if task.device = dev ∧ Cdma.slot? call.buffLoc call.fwCtxId = some task.slot ∧
        (task.channel : ℤ) < call.addrPairs.toInt ∧
        call.addrPairs.toInt ≤ c.systemDmaMaxChannel then some (pairs task.channel)
    else none
  | _, _ => none

end SetupCall

/-- The entry of a tasklet. -/
def Cdma.entry (s : Cdma c) (task : Tasklet c) : MemAddrPair :=
  (s.poolCdmaDevices task.device).memAddrs task.slot task.channel

/-! ## One call -/

section Call

variable {s s' : Cdma c} {call : SetupCall}

/-- The element of the arrays at an index that has been checked from above. -/
theorem slot?_eq_none_iff {buffLoc : BitVec 32} {fwCtxId : ℕ}
    (hbuff : buffLoc.toInt < c.systemDmaToggleCount) (hctx : fwCtxId < c.firmwareContextNumber) :
    Cdma.slot? (c := c) buffLoc fwCtxId = none ↔ buffLoc.toInt < 0 := by
  unfold Cdma.slot?
  by_cases hneg : buffLoc.toInt < 0
  · rw [dif_neg (fun h => absurd h.1 (not_le.mpr hneg))]
    exact iff_of_true rfl hneg
  · have htoInt : buffLoc.toInt = buffLoc.toNat := by
      rw [BitVec.toInt_eq_toNat_cond] at hneg ⊢
      split at hneg
      · rw [if_pos ‹_›]
      · have := buffLoc.isLt
        omega
    rw [dif_pos ⟨not_lt.mp hneg, by omega, hctx⟩]
    exact iff_of_false (Option.some_ne_none _) hneg

/-- The index of an element of the arrays. -/
theorem slot?_eq_some {buffLoc : BitVec 32} {fwCtxId : ℕ} {slot : Slot c}
    (hslot : Cdma.slot? buffLoc fwCtxId = some slot) :
    0 ≤ buffLoc.toInt ∧ buffLoc.toInt < c.systemDmaToggleCount ∧
      fwCtxId < c.firmwareContextNumber := by
  unfold Cdma.slot? at hslot
  split_ifs at hslot with h
  obtain ⟨hnonneg, hbuff, hfwCtx⟩ := h
  refine ⟨hnonneg, ?_, hfwCtx⟩
  rw [BitVec.toInt_eq_toNat_cond] at hnonneg ⊢
  split at hnonneg
  · rw [if_pos ‹_›]
    omega
  · omega

/-- A call is one of `sgSetup`, whichever the function. -/
theorem apply_eq (call : SetupCall) (s : Cdma c) :
    ∃ setNents nents, call.apply s = (s.sgSetup
      (call.kind = .device ∧ c.systemDmaMaxChannel < call.addrPairs.toInt) setNents nents
      call.kind.setAddr call.ctx call.buffLoc call.pairs call.addrPairs call.fwCtxId).map
        Prod.fst := by
  obtain ⟨kind, ctx, buffLoc, pairs, addrPairs, fwCtxId⟩ := call
  cases kind with
  | device =>
    refine ⟨fun d nents => { d with sgDeviceNents := nents }, Device.sgDeviceNents, ?_⟩
    have hchecked : decide (SetupKind.device = .device ∧
        c.systemDmaMaxChannel < addrPairs.toInt) =
          decide (c.systemDmaMaxChannel < addrPairs.toInt) := by simp
    rw [hchecked]
    rfl
  | fwmem =>
    refine ⟨fun d nents => { d with sgFwmemNents := nents }, Device.sgFwmemNents, ?_⟩
    have hunchecked : decide (SetupKind.fwmem = .device ∧
        c.systemDmaMaxChannel < addrPairs.toInt) = false := by simp
    rw [hunchecked]
    rfl

/-- A call that is rejected, one that leaves the arrays, and one that writes its pairs. -/
theorem apply_cases (call : SetupCall) (s : Cdma c) :
    (call.Rejected c ∧ call.apply s = some s) ∨
    (¬ call.Bounded c ∧ call.apply s = none) ∨
    (∃ dev pairs slot d, call.ctx = some dev ∧ call.pairs = some pairs ∧
      Cdma.slot? call.buffLoc call.fwCtxId = some slot ∧ call.Bounded c ∧
      call.addrPairs.toInt ≤ c.systemDmaMaxChannel ∧
      call.apply s = some (s.setDevice dev d) ∧
      d.memAddrs = Function.update (s.poolCdmaDevices dev).memAddrs slot fun i =>
        if (i : ℤ) < call.addrPairs.toInt then
          { call.kind.setAddr ((s.poolCdmaDevices dev).memAddrs slot i) (pairs i).address with
            size := (pairs i).size, sysBackPtr := some dev }
        else (s.poolCdmaDevices dev).memAddrs slot i) := by
  obtain ⟨setNents, nents, happly⟩ := apply_eq call s
  cases hctx : call.ctx with
  | none =>
    rw [hctx] at happly
    exact .inl ⟨.inl hctx, happly⟩
  | some dev =>
    cases hpairs : call.pairs with
    | none =>
      rw [hctx, hpairs] at happly
      exact .inl ⟨.inr (.inl hpairs), happly⟩
    | some pairs =>
      rw [hctx, hpairs] at happly
      unfold Cdma.sgSetup at happly
      simp only [decide_eq_true_eq] at happly
      have hrejected : call.Rejected c ↔ call.addrPairs = 0 ∨
          c.systemDmaToggleCount ≤ call.buffLoc.toInt ∨
          (call.kind = .device ∧ c.systemDmaMaxChannel < call.addrPairs.toInt) ∨
          c.firmwareContextNumber ≤ call.fwCtxId := by
        unfold SetupCall.Rejected
        rw [hctx, hpairs, or_iff_right (Option.some_ne_none _),
          or_iff_right (Option.some_ne_none _)]
      by_cases hreject : call.Rejected c
      · rw [if_pos (hrejected.mp hreject)] at happly
        exact .inl ⟨hreject, happly⟩
      have hchecks := fun h => hreject (hrejected.mpr h)
      rw [if_neg hchecks] at happly
      have hbuff : call.buffLoc.toInt < c.systemDmaToggleCount :=
        not_le.mp fun h => hchecks (.inr (.inl h))
      have hfwCtx : call.fwCtxId < c.firmwareContextNumber :=
        not_le.mp fun h => hchecks (.inr (.inr (.inr h)))
      cases hslot : Cdma.slot? (c := c) call.buffLoc call.fwCtxId with
      | none =>
        have hneg := (slot?_eq_none_iff hbuff hfwCtx).mp hslot
        rw [hslot] at happly
        refine .inr (.inl ⟨?_, happly⟩)
        rintro (h | h)
        · exact hreject h
        · exact absurd h.1 (not_le.mpr hneg)
      | some slot =>
        have hnonneg : 0 ≤ call.buffLoc.toInt := by
          rw [← not_lt, ← slot?_eq_none_iff hbuff hfwCtx, hslot]
          exact Option.some_ne_none _
        rw [hslot] at happly
        simp only at happly
        by_cases hmany : c.systemDmaMaxChannel < call.addrPairs.toInt
        · rw [if_pos hmany] at happly
          refine .inr (.inl ⟨?_, happly⟩)
          rintro (h | h)
          · exact hreject h
          · exact absurd h.2 (not_le.mpr hmany)
        · rw [if_neg hmany] at happly
          exact .inr (.inr ⟨dev, pairs, slot, _, rfl, rfl, rfl,
            .inr ⟨hnonneg, not_lt.mp hmany⟩, not_lt.mp hmany, happly, rfl⟩)

/-- A call stays in bounds iff it is rejected, or has an index that is not negative and not more
    pairs than channels. -/
theorem apply_ne_none_iff (call : SetupCall) (s : Cdma c) :
    call.apply s ≠ none ↔ call.Bounded c := by
  rcases apply_cases call s with ⟨hrejected, happly⟩ | ⟨hbounded, happly⟩ |
    ⟨dev, pairs, slot, d, -, -, -, hbounded, -, happly, -⟩
  · rw [happly]
    exact iff_of_true (Option.some_ne_none _) (.inl hrejected)
  · rw [happly]
    exact iff_of_false (fun h => h rfl) hbounded
  · rw [happly]
    exact iff_of_true (Option.some_ne_none _) hbounded

/-- A call that is rejected gives no pair. -/
theorem pair?_of_rejected (h : call.Rejected c) (task : Tasklet c) : call.pair? task = none := by
  unfold SetupCall.pair?
  split
  · rename_i dev pairs hctx hpairs
    apply if_neg
    rintro ⟨-, hslot, hchannel, hmax⟩
    obtain ⟨hnonneg, hbuff, hfwCtx⟩ := slot?_eq_some hslot
    rcases h with h | h | h | h | h | h
    · exact absurd (h.symm.trans hctx) (by simp)
    · exact absurd (h.symm.trans hpairs) (by simp)
    · rw [h] at hchannel
      exact absurd hchannel (by simp)
    · omega
    · omega
    · omega
  · rfl

/-- What a call does to an entry. -/
theorem entry_apply (hs' : call.apply s = some s') (task : Tasklet c) :
    s'.entry task = ((call.pair? task).map fun p =>
      { call.kind.setAddr (s.entry task) p.address with
        size := p.size, sysBackPtr := some task.device }).getD (s.entry task) := by
  rcases apply_cases call s with ⟨hrejected, happly⟩ | ⟨-, happly⟩ |
    ⟨dev, pairs, slot, d, hctx, hpairs, hslot, -, hmax, happly, haddrs⟩
  · obtain rfl := Option.some_injective _ (happly.symm.trans hs')
    rw [pair?_of_rejected hrejected]
    rfl
  · exact absurd (happly.symm.trans hs') (by simp)
  · obtain rfl := Option.some_injective _ (happly.symm.trans hs')
    unfold SetupCall.pair? Cdma.entry
    rw [hctx, hpairs, hslot]
    dsimp only
    by_cases hdev : task.device = dev
    · subst hdev
      rw [Cdma.poolCdmaDevices_setDevice, haddrs]
      by_cases hsame : task.slot = slot
      · subst hsame
        rw [Function.update_self]
        by_cases hchannel : (task.channel : ℤ) < call.addrPairs.toInt
        · rw [if_pos hchannel, if_pos ⟨rfl, rfl, hchannel, hmax⟩]
          rfl
        · rw [if_neg hchannel, if_neg (fun h => hchannel h.2.2.1)]
          rfl
      · rw [Function.update_of_ne hsame,
          if_neg (fun h => hsame (Option.some_injective _ h.2.1).symm)]
        rfl
    · rw [if_neg (fun h => hdev h.1)]
      have hother : (s.setDevice dev d).poolCdmaDevices task.device =
          s.poolCdmaDevices task.device := Function.update_of_ne hdev _ _
      rw [hother]
      rfl

end Call

/-! ## What the calls give -/

/-- The set-up that a step is. -/
def CdmaAction.setupCall? : CdmaAction c → Option SetupCall
  | .sgDeviceSetup ctx buffLoc pairs addrPairs fwCtxId =>
    some ⟨.device, ctx, buffLoc, pairs, addrPairs, fwCtxId⟩
  | .sgFwmemSetup ctx buffLoc pairs addrPairs fwCtxId =>
    some ⟨.fwmem, ctx, buffLoc, pairs, addrPairs, fwCtxId⟩
  | _ => none

/-- The calls in a sequence of steps. -/
def setupCalls (as : List (CdmaAction c)) : List SetupCall := as.filterMap CdmaAction.setupCall?

/-- The pair that was given last for an entry. -/
def lastPair (calls : List SetupCall) (task : Tasklet c) : Option AddrPair :=
  (calls.filterMap fun call => call.pair? task).getLast?

/-- The region that one of the functions has given for an entry. -/
def region (kind : SetupKind) (calls : List SetupCall) (task : Tasklet c) : Option AddrPair :=
  lastPair (calls.filter fun call => call.kind = kind) task

/-- The address of a region; 0 when it has not been given. -/
def regionAddress (r : Option AddrPair) : ℕ := (r.map AddrPair.address).getD 0

/-- The size of a region; 0 when it has not been given. -/
def regionSize (r : Option AddrPair) : ℕ := (r.map AddrPair.size).getD 0

/-- `size` bytes from `address` on lie in a region. -/
def Stays (r : Option AddrPair) (address size : ℕ) : Prop :=
  match r with
  | none => size = 0
  | some p => p.address ≤ address ∧ address + size ≤ p.address + p.size

/-- The `memcpy` of `memcopy_func` for an entry stays inside both regions that the calls have given
    for it. -/
def CopyInside (s : Cdma c) (calls : List SetupCall) (task : Tasklet c) : Prop :=
  ∀ dev dst src size, (s.entry task).sysBackPtr = some dev →
    s.copyEvent task dev = .copy task dst src size →
    if (s.poolCdmaDevices dev).direction = .toDevice then
      Stays (region .device calls task) dst size ∧ Stays (region .fwmem calls task) src size
    else Stays (region .fwmem calls task) dst size ∧ Stays (region .device calls task) src size

/-- The size that was given last for an entry is at most the size of both of its regions. -/
def Fits (calls : List SetupCall) (task : Tasklet c) : Prop :=
  regionSize (lastPair calls task) ≤ regionSize (region .device calls task) ∧
    regionSize (lastPair calls task) ≤ regionSize (region .fwmem calls task)

section Given

variable {s s' : Cdma c} {a : CdmaAction c} {as : List (CdmaAction c)} {calls : List SetupCall}
  {call : SetupCall}

theorem lastPair_concat (calls : List SetupCall) (call : SetupCall) (task : Tasklet c) :
    lastPair (calls ++ [call]) task = (call.pair? task).or (lastPair calls task) := by
  unfold lastPair
  rw [List.filterMap_append, List.getLast?_append]
  cases hpair : call.pair? task with
  | none => simp [hpair]
  | some p => simp [hpair]

theorem region_concat (kind : SetupKind) (calls : List SetupCall) (call : SetupCall)
    (task : Tasklet c) : region kind (calls ++ [call]) task =
      if call.kind = kind then (call.pair? task).or (region kind calls task)
      else region kind calls task := by
  unfold region
  rw [List.filter_append]
  split_ifs with hkind
  · have hkept : [call].filter (fun call => call.kind = kind) = [call] := by simp [hkind]
    rw [hkept, lastPair_concat]
  · have hdropped : [call].filter (fun call => call.kind = kind) = [] := by simp [hkind]
    rw [hdropped, List.append_nil]

theorem action_of_setupCall? (h : a.setupCall? = some call) : call.action = a := by
  cases a with
  | sgDeviceSetup ctx buffLoc pairs addrPairs fwCtxId =>
    obtain rfl := Option.some_injective _ h
    rfl
  | sgFwmemSetup ctx buffLoc pairs addrPairs fwCtxId =>
    obtain rfl := Option.some_injective _ h
    rfl
  | _ => exact absurd h (by simp [CdmaAction.setupCall?])

/-- The requests leave the entries as they are. -/
theorem entry_of_setupCall?_eq_none (hnone : a.setupCall? = none) (ha : a ≠ .init)
    (hs' : s.step a = some s') (task : Tasklet c) : s'.entry task = s.entry task := by
  unfold Cdma.entry
  cases a with
  | init => exact absurd rfl ha
  | destroy dev =>
    obtain rfl := Option.some_injective _ hs'
    show ((s.destroy dev).1.poolCdmaDevices _).memAddrs _ _ = _
    unfold Cdma.destroy
    split_ifs
    · rfl
    · split
      · rfl
      · rfl
  | sgDeviceSetup ctx buffLoc pairs addrPairs fwCtxId =>
    exact absurd hnone (Option.some_ne_none _)
  | sgFwmemSetup ctx buffLoc pairs addrPairs fwCtxId =>
    exact absurd hnone (Option.some_ne_none _)
  | copySg ctx request =>
    obtain rfl := Option.some_injective _ hs'
    cases hrequest : s.copySg ctx request with
    | none => rfl
    | some s'' =>
      show (s''.poolCdmaDevices _).memAddrs _ _ = _
      rw [(Cdma.sameSetup_copySg hrequest task.device).2]
  | memcopyFunc other => rw [(Cdma.sameSetup_memcopyFunc hs' task.device).2]
  | wake dev =>
    obtain rfl := Option.some_injective _ hs'
    rw [(Cdma.sameSetup_wake s dev task.device).2]

/-- The entry that the calls so far leave. -/
def entryOf (calls : List SetupCall) (task : Tasklet c) : MemAddrPair where
  devAddr := regionAddress (region .device calls task)
  fwAddr := regionAddress (region .fwmem calls task)
  size := regionSize (lastPair calls task)
  sysBackPtr := (lastPair calls task).map fun _ => task.device

/-- A call keeps this. -/
theorem entryOf_concat (calls : List SetupCall) (call : SetupCall) (task : Tasklet c) :
    entryOf (calls ++ [call]) task = ((call.pair? task).map fun p =>
      { call.kind.setAddr (entryOf calls task) p.address with
        size := p.size, sysBackPtr := some task.device }).getD (entryOf calls task) := by
  unfold entryOf
  rw [lastPair_concat, region_concat, region_concat]
  cases hpair : call.pair? task with
  | none => simp
  | some p =>
    cases hkind : call.kind with
    | device => rfl
    | fwmem => rfl

/-- `system_cdma_init` leaves an entry that is zero. -/
theorem entry_init (task : Tasklet c) (hs : s.entry task = entryOf [] task) :
    s.init.1.entry task = entryOf [] task := by
  unfold Cdma.init
  split
  · exact hs
  · split
    · exact hs
    · rename_i dev _
      by_cases hdev : task.device = dev
      · subst hdev
        show ((s.setDevice task.device _).poolCdmaDevices task.device).memAddrs _ _ = _
        rw [Cdma.poolCdmaDevices_setDevice]
        rfl
      · rw [← hs]
        show (Function.update s.poolCdmaDevices dev _ task.device).memAddrs _ _ = _
        rw [Function.update_of_ne hdev]
        rfl

theorem execute_append (s : Cdma c) (as bs : List (CdmaAction c)) :
    s.execute (as ++ bs) = (s.execute as).bind fun s => s.execute bs := List.foldlM_append

/-- After calls of `system_cdma_init` all entries are zero. -/
theorem entry_execute_init {n : ℕ} (task : Tasklet c) (hs : s.entry task = entryOf [] task)
    (hs' : s.execute (List.replicate n .init) = some s') : s'.entry task = entryOf [] task := by
  induction n generalizing s with
  | zero =>
    obtain rfl := Option.some_injective _ hs'
    exact hs
  | succ n ih => exact ih (entry_init task hs) hs'

/-- An entry after a sequence of steps from the initial state. -/
theorem entry_execute {n : ℕ} (has : .init ∉ as)
    (hs : (Cdma.zero c).execute (List.replicate n .init ++ as) = some s) (task : Tasklet c) :
    s.entry task = entryOf (setupCalls as) task := by
  induction as using List.reverseRecOn generalizing s with
  | nil =>
    rw [List.append_nil] at hs
    exact entry_execute_init task rfl hs
  | append_singleton as a ih =>
    rw [← List.append_assoc, execute_append] at hs
    obtain ⟨s₁, hs₁, hlast⟩ := Option.bind_eq_some_iff.mp hs
    have hstep : s₁.step a = some s := by
      rw [Cdma.execute_cons] at hlast
      obtain ⟨s₂, hstep, hnil⟩ := Option.bind_eq_some_iff.mp hlast
      obtain rfl := Option.some_injective _ hnil
      exact hstep
    have hentry := ih (fun h => has (List.mem_append_left _ h)) hs₁
    have hsplit : setupCalls (as ++ [a]) = setupCalls as ++ setupCalls [a] :=
      List.filterMap_append
    cases hcall : a.setupCall? with
    | none =>
      have ha : a ≠ .init := fun h => has (by simp [h])
      have hnone : setupCalls [a] = [] := by simp [setupCalls, hcall]
      rw [entry_of_setupCall?_eq_none hcall ha hstep, hentry, hsplit, hnone, List.append_nil]
    | some call =>
      have hsome : setupCalls [a] = [call] := by simp [setupCalls, hcall]
      have happly : call.apply s₁ = some s := by
        rw [SetupCall.apply, action_of_setupCall? hcall]
        exact hstep
      rw [entry_apply happly, hentry, hsplit, hsome, entryOf_concat]

theorem stays_regionAddress (r : Option AddrPair) (size : ℕ) :
    Stays r (regionAddress r) size ↔ size ≤ regionSize r := by
  cases r with
  | none => exact Nat.le_zero.symm
  | some p =>
    show p.address ≤ p.address ∧ p.address + size ≤ p.address + p.size ↔ size ≤ p.size
    omega

/-- The copy of an entry that the calls have left. -/
theorem copyInside_iff {task : Tasklet c} (hs : s.entry task = entryOf calls task) :
    CopyInside s calls task ↔ Fits calls task := by
  unfold CopyInside
  rw [hs]
  cases hlast : lastPair calls task with
  | none =>
    have hback : (entryOf calls task).sysBackPtr = none := by
      show (lastPair calls task).map _ = none
      rw [hlast]
      rfl
    unfold Fits
    rw [hback, hlast]
    exact iff_of_true (fun _ _ _ _ h => absurd h (by simp)) ⟨Nat.zero_le _, Nat.zero_le _⟩
  | some p =>
    have hback : (entryOf calls task).sysBackPtr = some task.device := by
      show (lastPair calls task).map _ = some task.device
      rw [hlast]
      rfl
    have hstays : Fits calls task ↔
        Stays (region .device calls task) (entryOf calls task).devAddr (entryOf calls task).size ∧
        Stays (region .fwmem calls task) (entryOf calls task).fwAddr (entryOf calls task).size :=
      (and_congr (stays_regionAddress _ _) (stays_regionAddress _ _)).symm
    rw [hback, hstays]
    have hevent : s.copyEvent task task.device =
        if (s.poolCdmaDevices task.device).direction = .toDevice then
          .copy task (entryOf calls task).devAddr (entryOf calls task).fwAddr
            (entryOf calls task).size
        else .copy task (entryOf calls task).fwAddr (entryOf calls task).devAddr
          (entryOf calls task).size := by
      rw [← hs]
      rfl
    constructor
    · intro h
      by_cases hdir : (s.poolCdmaDevices task.device).direction = .toDevice
      · rw [if_pos hdir] at hevent
        have hcopy := h task.device _ _ _ rfl hevent
        rwa [if_pos hdir] at hcopy
      · rw [if_neg hdir] at hevent
        have hcopy := h task.device _ _ _ rfl hevent
        rw [if_neg hdir] at hcopy
        exact hcopy.symm
    · rintro h dev dst src size hdev hcopy
      obtain rfl := Option.some_injective _ hdev
      rw [hcopy] at hevent
      by_cases hdir : (s.poolCdmaDevices task.device).direction = .toDevice
      · rw [if_pos hdir] at hevent
        obtain ⟨-, rfl, rfl, rfl⟩ := Event.copy.inj hevent
        rwa [if_pos hdir]
      · rw [if_neg hdir] at hevent
        obtain ⟨-, rfl, rfl, rfl⟩ := Event.copy.inj hevent
        rw [if_neg hdir]
        exact h.symm

/-- A sequence of calls stays in bounds iff each of them does. -/
theorem execute_ne_none_iff (calls : List SetupCall) (s : Cdma c) :
    s.execute (calls.map SetupCall.action) ≠ none ↔ ∀ call ∈ calls, call.Bounded c := by
  induction calls generalizing s with
  | nil => exact iff_of_true (Option.some_ne_none _) (by simp)
  | cons call calls ih =>
    rw [List.forall_mem_cons, ← apply_ne_none_iff call s, List.map_cons, Cdma.execute_cons]
    show ((call.apply s).bind fun s => s.execute _) ≠ none ↔ _
    cases call.apply s with
    | none => exact iff_of_false (fun h => h rfl) (fun h => h.1 rfl)
    | some s₁ => exact (ih s₁).trans (and_iff_right (Option.some_ne_none _)).symm

end Given

/-- **The bounds of the set-up.** From every state a sequence of calls stays inside the arrays iff
    every call is rejected, or has an index that is not negative and not more pairs than channels.
    In every sequence of steps after `system_cdma_init` the copy of an entry stays inside its two
    regions iff the size that was given last for it is at most the size of both. -/
theorem setup_bounds_iff (c : CdmaConfig) :
    (∀ (s : Cdma c) (calls : List SetupCall),
      s.execute (calls.map SetupCall.action) ≠ none ↔ ∀ call ∈ calls, call.Bounded c) ∧
    ∀ (n : ℕ) (as : List (CdmaAction c)) (s : Cdma c), .init ∉ as →
      (Cdma.zero c).execute (List.replicate n .init ++ as) = some s →
      ∀ task, CopyInside s (setupCalls as) task ↔ Fits (setupCalls as) task :=
  ⟨fun s calls => execute_ne_none_iff calls s,
    fun _ _ _ has hs task => copyInside_iff (entry_execute has hs task)⟩

/-- A call for the first device with regions of one size. -/
def bufferCall (kind : SetupKind) (buffLoc addrPairs : BitVec 32) (size : ℕ) : SetupCall :=
  ⟨kind, some firstDevice, buffLoc, some fun _ => ⟨0x1000, size⟩, addrPairs, 0⟩

/-- A firmware region of 4 bytes, then a device region of 8. -/
def fourThenEight : List SetupCall := [bufferCall .fwmem 0 1 4, bufferCall .device 0 1 8]

/-- Both calls stay inside the arrays, and the copy of the entry leaves the firmware region. -/
theorem setup_bounds_iff_fourThenEight :
    (Cdma.zero twoChannels).execute (fourThenEight.map SetupCall.action) ≠ none ∧
      ∃ s : Cdma twoChannels,
        (Cdma.zero twoChannels).execute (List.replicate 1 .init ++
          fourThenEight.map SetupCall.action) = some s ∧
        ¬ CopyInside s (setupCalls (fourThenEight.map (SetupCall.action (c := twoChannels))))
          ⟨firstDevice, waitingCall.slot, ⟨0, by decide⟩⟩ := by
  refine ⟨((setup_bounds_iff twoChannels).1 _ _).mpr ?_, _, rfl, ?_⟩
  · intro call hcall
    fin_cases hcall <;> exact .inr ⟨by decide, by decide⟩
  · rw [(setup_bounds_iff twoChannels).2 1 _ _
      (by simp [fourThenEight, bufferCall, SetupCall.action]) rfl]
    show ¬ (_ ≤ _ ∧ _ ≤ _)
    decide

/-- An index of -1 and three pairs for two channels go out of the arrays. With a device region that
    is larger than the firmware region, which is the destination, the copy leaves the latter. -/
theorem unbounded_setup :
    (bufferCall .device (-1) 1 4).apply (Cdma.zero twoChannels) = none ∧
    (bufferCall .fwmem 0 3 4).apply (Cdma.zero twoChannels) = none ∧
    ∃ s s' : Cdma twoChannels,
      (Cdma.zero twoChannels).execute (fourThenEight.map SetupCall.action) = some s ∧
      s.memcopyFunc ⟨firstDevice, waitingCall.slot, ⟨0, by decide⟩⟩ = some s' ∧
      ¬ CopyInside s fourThenEight ⟨firstDevice, waitingCall.slot, ⟨0, by decide⟩⟩ := by
  refine ⟨rfl, rfl, _, _, rfl, rfl, ?_⟩
  intro h
  have hcopy := h firstDevice 0x1000 0x1000 8 rfl rfl
  have hfwmem : 0x1000 + 8 ≤ 0x1000 + 4 := hcopy.1.2
  omega

end Corstone.Isp
