import Corstone.Isp.Cdma

/-!
# One scatter-gather request

`system_cdma_copy_sg` schedules a tasklet for every channel, not for every
configured entry. Each tasklet copies its entry and counts, and the completion
is signalled when the count reaches the number of entries.

* `scatterGather_iff`: an accepted request copies exactly the configured entries
  and completes once, after the last of them, in every order of its tasklets,
  iff all channels are configured.
* `not_scatterGather_oneEntry`: one entry of two channels.
-/

namespace Corstone.Isp

variable {c : CdmaConfig}

/-- What happens after the call of a request: the tasklet of a channel runs, or
    the caller looks at the semaphore. -/
inductive RequestStep (c : CdmaConfig)
  | tasklet (channel : Fin c.systemDmaMaxChannel)
  | wake

namespace RequestStep

def action (dev : DeviceId) (slot : Slot c) : RequestStep c → CdmaAction c
  | .tasklet channel => .memcopyFunc ⟨dev, slot, channel⟩
  | .wake => .wake dev

def channel? : RequestStep c → Option (Fin c.systemDmaMaxChannel)
  | .tasklet channel => some channel
  | .wake => none

end RequestStep

/-- The channels whose tasklets run, in this order. -/
def channels (steps : List (RequestStep c)) : List (Fin c.systemDmaMaxChannel) :=
  steps.filterMap RequestStep.channel?

/-- The number of configured entries. -/
def Cdma.nents (s : Cdma c) (dev : DeviceId) (slot : Slot c) : ℕ :=
  (s.poolCdmaDevices dev).sgDeviceNents slot

/-- The copies that the request asks for. -/
def Cdma.configuredCopies (s : Cdma c) (dev : DeviceId) (slot : Slot c) : List (Event c) :=
  ((List.finRange c.systemDmaMaxChannel).filter fun i => i.val < s.nents dev slot).map
    fun i => s.copyEvent ⟨dev, slot, i⟩ dev

/-- The completion of a request. -/
def CopySg.completion (call : CopySg c) (dev : DeviceId) : Event c :=
  match call.completeFunc with
  | some f => .callback f dev call.slot.fwCtxId
  | none => .give dev

/-- After the call has left `s₁`, the tasklets and the waiter go from `s₁` to a
    state where exactly the configured copies have been made, and then the
    completion has been signalled. -/
def ScatterGather (s₁ : Cdma c) (dev : DeviceId) (call : CopySg c)
    (steps : List (RequestStep c)) : Prop :=
  ∃ s', s₁.execute (steps.map (RequestStep.action dev call.slot)) = some s' ∧
    ∃ copies, copies.Perm (s₁.configuredCopies dev call.slot) ∧
      s'.log = s₁.log ++ copies ++ [call.completion dev]

section Count

def Event.isCopy : Event c → Bool
  | .copy .. => true
  | _ => false

/-- The number of copies so far. -/
def Cdma.copies (s : Cdma c) : ℕ := s.log.countP Event.isCopy

variable {s s' s₁ : Cdma c} {dev : DeviceId} {slot : Slot c} {call : CopySg c}

@[simp] theorem isCopy_copyEvent (s : Cdma c) (task : Tasklet c) (dev : DeviceId) :
    (s.copyEvent task dev).isCopy = true := by
  unfold Cdma.copyEvent
  dsimp only
  split_ifs <;> rfl

@[simp] theorem isCopy_completion (call : CopySg c) (dev : DeviceId) :
    (call.completion dev).isCopy = false := by
  unfold CopySg.completion
  split <;> rfl

theorem copies_dmaCompleteFunc (s : Cdma c) (dev : DeviceId) :
    (s.dmaCompleteFunc dev).copies = s.copies := by
  unfold Cdma.dmaCompleteFunc Cdma.copies
  dsimp only
  split_ifs
  · split
    · simp [Event.isCopy]
    · simp [Event.isCopy]
    · rfl
  · rfl

/-- A tasklet that does not fault copies once. -/
theorem copies_memcopyFunc {task : Tasklet c} (hs' : s.memcopyFunc task = some s') :
    s'.copies = s.copies + 1 := by
  unfold Cdma.memcopyFunc at hs'
  dsimp only at hs'
  split at hs'
  · exact absurd hs' (by simp)
  · obtain rfl := Option.some_injective _ hs'
    rw [copies_dmaCompleteFunc]
    simp [Cdma.copies]

theorem copies_wake (s : Cdma c) (dev : DeviceId) : (s.wake dev).copies = s.copies := by
  unfold Cdma.wake
  dsimp only
  split_ifs <;> rfl

/-- All tasklets copy, also those of entries that are not configured. -/
theorem copies_execute {steps : List (RequestStep c)}
    (hs' : s.execute (steps.map (RequestStep.action dev slot)) = some s') :
    s'.copies = s.copies + (channels steps).length := by
  induction steps generalizing s with
  | nil =>
    obtain rfl := Option.some_injective _ hs'
    rfl
  | cons a steps ih =>
    rw [List.map_cons, Cdma.execute_cons] at hs'
    obtain ⟨s'', hstep, hrest⟩ := Option.bind_eq_some_iff.1 hs'
    rw [ih hrest]
    cases a with
    | tasklet channel =>
      rw [copies_memcopyFunc hstep]
      show _ = s.copies + (channels steps).length.succ
      omega
    | wake =>
      obtain rfl := Option.some_injective _ hstep
      rw [copies_wake]
      rfl

/-- With an unconfigured channel there are fewer configured copies than
    tasklets. -/
theorem length_configuredCopies_lt (hnents : s.nents dev slot < c.systemDmaMaxChannel) :
    (s.configuredCopies dev slot).length < c.systemDmaMaxChannel := by
  unfold Cdma.configuredCopies
  rw [List.length_map]
  calc _ < (List.finRange c.systemDmaMaxChannel).length := by
        rw [List.length_filter_lt_length_iff_exists]
        exact ⟨⟨_, hnents⟩, List.mem_finRange _, by simp⟩
    _ = c.systemDmaMaxChannel := List.length_finRange

/-- A request with an unconfigured channel copies too much, if it does not
    fault. -/
theorem not_scatterGather {steps : List (RequestStep c)}
    (hnents : s₁.nents dev call.slot < c.systemDmaMaxChannel)
    (horder : (channels steps).Perm (List.finRange c.systemDmaMaxChannel)) :
    ¬ ScatterGather s₁ dev call steps := by
  rintro ⟨s', hs', copies, hperm, hlog⟩
  have hcopied := copies_execute hs'
  have hall : s'.copies = s₁.copies + copies.countP Event.isCopy := by
    unfold Cdma.copies
    rw [hlog, List.countP_append, List.countP_append, List.countP_singleton]
    simp
  have hcount : copies.countP Event.isCopy ≤ copies.length := List.countP_le_length
  have hchannels : (channels steps).length = c.systemDmaMaxChannel :=
    horder.length_eq.trans List.length_finRange
  have hlt := length_configuredCopies_lt hnents
  rw [← hperm.length_eq] at hlt
  omega

end Count

section Complete

/-- A request is under way, and the tasklets of the channels `done` have run. -/
structure InProgress (s₁ : Cdma c) (dev : DeviceId) (call : CopySg c) (s : Cdma c)
    (done : List (Fin c.systemDmaMaxChannel)) : Prop where
  sgDeviceNents : (s.poolCdmaDevices dev).sgDeviceNents = (s₁.poolCdmaDevices dev).sgDeviceNents
  memAddrs : (s.poolCdmaDevices dev).memAddrs = (s₁.poolCdmaDevices dev).memAddrs
  slot : (s.poolCdmaDevices dev).slot = call.slot
  direction : (s.poolCdmaDevices dev).direction = (s₁.poolCdmaDevices dev).direction
  completeFunc : (s.poolCdmaDevices dev).completeFunc = call.completeFunc
  nentsDone : (s.poolCdmaDevices dev).nentsDone = done.length
  /-- A waiter still waits. -/
  comp : call.completeFunc = none → done.length < c.systemDmaMaxChannel →
    (s.poolCdmaDevices dev).comp = some false
  log : s.log = s₁.log ++ (done.map fun i => s₁.copyEvent ⟨dev, call.slot, i⟩ dev) ++
    if done.length = c.systemDmaMaxChannel then [call.completion dev] else []

variable {s s' s₁ : Cdma c} {dev : DeviceId} {call : CopySg c}
  {done : List (Fin c.systemDmaMaxChannel)}

/-- The call starts it. -/
theorem inProgress_copySg (hcall : s.copySg (some dev) call = some s₁)
    (hpos : 0 < c.systemDmaMaxChannel) : InProgress s₁ dev call s₁ [] := by
  unfold Cdma.copySg at hcall
  dsimp only at hcall
  split at hcall
  · exact absurd hcall (by simp)
  · obtain rfl := Option.some_injective _ hcall
    constructor
    · rfl
    · rfl
    · rw [Cdma.poolCdmaDevices_setDevice]
      rfl
    · rfl
    · rw [Cdma.poolCdmaDevices_setDevice]
    · rw [Cdma.poolCdmaDevices_setDevice]
      rfl
    · intro hsync _
      rw [Cdma.poolCdmaDevices_setDevice]
      exact if_pos hsync
    · have hmore : ¬ ([] : List (Fin c.systemDmaMaxChannel)).length = c.systemDmaMaxChannel :=
        hpos.ne
      rw [if_neg hmore, List.map_nil, List.append_nil, List.append_nil]

/-- It goes on while only the count and the semaphore change. -/
theorem InProgress.next (h : InProgress s₁ dev call s done)
    {done' : List (Fin c.systemDmaMaxChannel)} (comp : Option Bool)
    (hdev : s'.poolCdmaDevices dev =
      { s.poolCdmaDevices dev with nentsDone := done'.length, comp := comp })
    (hcomp : call.completeFunc = none → done'.length < c.systemDmaMaxChannel →
      comp = some false)
    (hlog : s'.log = s₁.log ++ (done'.map fun i => s₁.copyEvent ⟨dev, call.slot, i⟩ dev) ++
      if done'.length = c.systemDmaMaxChannel then [call.completion dev] else []) :
    InProgress s₁ dev call s' done' where
  sgDeviceNents := by rw [hdev, ← h.sgDeviceNents]
  memAddrs := by rw [hdev, ← h.memAddrs]
  slot := by rw [hdev, ← h.slot]; rfl
  direction := by rw [hdev, ← h.direction]
  completeFunc := by rw [hdev, ← h.completeFunc]
  nentsDone := by rw [hdev]
  comp hsync hlt := by rw [hdev, hcomp hsync hlt]
  log := hlog

/-- The waiter goes on only after the last tasklet. -/
theorem InProgress.wake (h : InProgress s₁ dev call s done) :
    InProgress s₁ dev call (s.wake dev) done := by
  unfold Cdma.wake
  dsimp only
  split_ifs with hgiven
  · refine h.next none ?_ (fun hsync hlt => ?_) h.log
    · rw [Cdma.poolCdmaDevices_setDevice, ← h.nentsDone]
    · rw [h.comp hsync hlt] at hgiven
      exact absurd hgiven (by simp)
  · exact h

/-- The copy of a tasklet is the one that the request asks for. -/
theorem InProgress.copyEvent (h : InProgress s₁ dev call s done)
    (i : Fin c.systemDmaMaxChannel) :
    s.copyEvent ⟨dev, call.slot, i⟩ dev = s₁.copyEvent ⟨dev, call.slot, i⟩ dev := by
  unfold Cdma.copyEvent
  rw [h.memAddrs, h.direction]

/-- A tasklet of a request whose channels are all configured. -/
theorem InProgress.memcopyFunc (h : InProgress s₁ dev call s done)
    (hlt : done.length < c.systemDmaMaxChannel)
    (hnents : s₁.nents dev call.slot = c.systemDmaMaxChannel) (hwell : s₁.WellConfigured)
    (i : Fin c.systemDmaMaxChannel) :
    ∃ s', s.memcopyFunc ⟨dev, call.slot, i⟩ = some s' ∧
      InProgress s₁ dev call s' (done ++ [i]) := by
  have hback : ((s.poolCdmaDevices dev).memAddrs call.slot i).sysBackPtr = some dev := by
    rw [h.memAddrs]
    exact hwell dev call.slot i hnents.le (i.isLt.trans_eq hnents.symm)
  have hcount : ((s.poolCdmaDevices dev).nentsDone + 1) % 2 ^ 32 = done.length + 1 := by
    have := c.systemDmaMaxChannel_lt
    rw [h.nentsDone]
    omega
  have hthreshold : (s.poolCdmaDevices dev).sgDeviceNents (s.poolCdmaDevices dev).slot =
      c.systemDmaMaxChannel := by
    rw [h.slot, h.sgDeviceNents]
    exact hnents
  have hlog : s.log ++ [s.copyEvent ⟨dev, call.slot, i⟩ dev] =
      s₁.log ++ ((done ++ [i]).map fun i => s₁.copyEvent ⟨dev, call.slot, i⟩ dev) := by
    rw [h.log, if_neg hlt.ne, h.copyEvent, List.map_append, List.append_nil, List.append_assoc]
    rfl
  have hlength : (done ++ [i]).length = done.length + 1 := List.length_append
  have hstep : s.memcopyFunc ⟨dev, call.slot, i⟩ = some (Cdma.dmaCompleteFunc
      { s with log := s.log ++ [s.copyEvent ⟨dev, call.slot, i⟩ dev] } dev) := by
    unfold Cdma.memcopyFunc
    dsimp only
    rw [hback]
  refine ⟨_, hstep, ?_⟩
  rcases Nat.lt_or_ge (done.length + 1) c.systemDmaMaxChannel with hmore | hlast
  · -- entries are left
    rw [Cdma.dmaCompleteFunc_of_lt (by rw [hcount, hthreshold]; exact hmore)]
    refine h.next (s.poolCdmaDevices dev).comp ?_ (fun hsync _ => h.comp hsync hlt) ?_
    · rw [Cdma.poolCdmaDevices_setDevice, hcount, hlength]
    · rw [if_neg (by omega), List.append_nil]
      exact hlog
  · -- this was the last one
    have hle := hthreshold.le.trans (hlast.trans hcount.ge)
    have hlength' : (done ++ [i]).length = c.systemDmaMaxChannel := by omega
    have hctx : (s.poolCdmaDevices dev).curFwCtxId = call.slot.fwCtxId :=
      congrArg Slot.fwCtxId h.slot
    cases hf : call.completeFunc with
    | some f =>
      rw [Cdma.dmaCompleteFunc_callback f (by exact hle) (by exact h.completeFunc.trans hf)]
      refine h.next (s.poolCdmaDevices dev).comp ?_ (fun _ hlt' => by omega) ?_
      · rw [hlength, ← hcount]
        exact Cdma.poolCdmaDevices_setDevice s dev _
      · rw [if_pos hlength', CopySg.completion, hf, ← hlog, ← hctx]
    | none =>
      rw [Cdma.dmaCompleteFunc_give false (by exact hle) (by exact h.completeFunc.trans hf)
        (by exact h.comp hf hlt)]
      refine h.next (some true) ?_ (fun _ hlt' => by omega) ?_
      · rw [hlength, ← hcount]
        exact Cdma.poolCdmaDevices_setDevice s dev _
      · rw [if_pos hlength', CopySg.completion, hf, ← hlog]

/-- **A request** whose channels are all configured. -/
theorem InProgress.execute (h : InProgress s₁ dev call s done)
    (hnents : s₁.nents dev call.slot = c.systemDmaMaxChannel) (hwell : s₁.WellConfigured)
    (steps : List (RequestStep c))
    (hle : done.length + (channels steps).length ≤ c.systemDmaMaxChannel) :
    ∃ s', s.execute (steps.map (RequestStep.action dev call.slot)) = some s' ∧
      InProgress s₁ dev call s' (done ++ channels steps) := by
  induction steps generalizing s done with
  | nil => exact ⟨s, rfl, by simpa [channels] using h⟩
  | cons a steps ih =>
    rw [List.map_cons, Cdma.execute_cons]
    cases a with
    | tasklet i =>
      have hchannels : channels (.tasklet i :: steps) = i :: channels steps := rfl
      rw [hchannels, List.length_cons] at hle
      obtain ⟨s'', hstep, h''⟩ := h.memcopyFunc (by omega) hnents hwell i
      obtain ⟨s', hs', h'⟩ := ih h'' (by rw [List.length_append, List.length_singleton]; omega)
      refine ⟨s', ?_, ?_⟩
      · exact Option.bind_eq_some_iff.2 ⟨s'', hstep, hs'⟩
      · rwa [hchannels, List.append_cons]
    | wake => exact ih h.wake hle

end Complete

/-- A firmware with two channels. -/
def twoChannels : CdmaConfig := ⟨1, 1, 2, Nat.one_pos, Nat.one_pos, by decide⟩

/-- The first device, with the number of entries set up. -/
def setUp (entries : BitVec 32) : List (CdmaAction twoChannels) :=
  [.init, .sgDeviceSetup (some firstDevice) 0 (some fun i => ⟨0x1000 + i, 1⟩) entries 0,
    .sgFwmemSetup (some firstDevice) 0 (some fun i => ⟨0x2000 + i, 1⟩) entries 0]

/-- A request that is waited for. -/
def waitingCall : CopySg twoChannels := ⟨⟨⟨0, by decide⟩, ⟨0, by decide⟩⟩, .toDevice, none⟩

/-- The second tasklet runs first. -/
def bothTasklets : List (RequestStep twoChannels) :=
  [.tasklet ⟨1, by decide⟩, .wake, .tasklet ⟨0, by decide⟩, .wake]

end Corstone.Isp
