import Corstone.Isp.Cdma
import Corstone.Lib.LinkedQueue

/-!
# The tasklet queue

Model of `tasklet_schedule`, of `cdma_processing_thread` and of the loop of
`system_cdma_copy_sg`, for any number of calls at the same time. The tasklets
are allocated once, so a tasklet can be scheduled again while the queue still
links to it. A step is one section under `xTaskletSemaphore`, or a call of the
function of a tasklet.

* `taskletSchedule_of_not_queued`, `not_holds_taskletSchedule`: what scheduling
  does to the list.
* `Scheduler.law_iff`: the law of a state as an invariant, with the configured
  entries that the thread needs to run the list to its end.
* `tasklets_iff`: the law holds in all states of a run iff every tasklet is
  scheduled when it is not queued and when its entry has been set up.
* `not_law_rescheduled`: a request that is repeated while its tasklet is queued.
-/

namespace Corstone.Isp

open Corstone.Lib

variable {c : CdmaConfig}

/-- The number of tasklets of `pool_cdma_devices`. -/
def numTasklets (c : CdmaConfig) : ℕ :=
  2 * (c.firmwareContextNumber * c.systemDmaToggleCount) * c.systemDmaMaxChannel

/-- A list without repetitions has at most this many. -/
theorem length_le_numTasklets {l : List (Tasklet c)} (hl : l.Nodup) :
    l.length ≤ numTasklets c := by
  let index (t : Tasklet c) : (DeviceId × (Fin c.firmwareContextNumber ×
      Fin c.systemDmaToggleCount)) × Fin c.systemDmaMaxChannel :=
    ((t.device, (t.slot.fwCtxId, t.slot.buffLoc)), t.channel)
  have hindex : Function.Injective index := by
    rintro ⟨dev, ⟨ctx, buff⟩, i⟩ ⟨dev', ⟨ctx', buff'⟩, i'⟩ heq
    simp only [index, Prod.mk.injEq] at heq
    obtain ⟨⟨rfl, rfl, rfl⟩, rfl⟩ := heq
    rfl
  have hcard := (hl.map hindex).length_le_card
  simpa [numTasklets] using hcard

/-- A call of `system_cdma_copy_sg` in its loop, or after it. -/
structure ActiveCall (c : CdmaConfig) where
  device : DeviceId
  call : CopySg c
  i : ℕ

/-- The tasklet that the next pass of the loop of a call schedules. -/
def ActiveCall.next? (active : ActiveCall c) : Option (Tasklet c) :=
  if h : active.i < c.systemDmaMaxChannel then
    some ⟨active.device, active.call.slot, ⟨active.i, h⟩⟩
  else none

/-- The queue, its thread and the calls. -/
structure Scheduler (c : CdmaConfig) where
  cdma : Cdma c
  /-- `head_tasklet.next` and the links of the tasklets. -/
  queue : LinkedQueue (Tasklet c)
  /-- `current_tasklet` until its function returns. -/
  current : Option (Tasklet c)
  calls : List (ActiveCall c)
  /-- A call of `tasklet_schedule` does not come to the end of the list. It
      keeps `xTaskletSemaphore`. -/
  hung : Bool
  /-- A tasklet has followed a null pointer. -/
  faulted : Bool
  scheduled : List (Tasklet c)
  executed : List (Tasklet c)

/-- A step. -/
inductive SchedulerAction (c : CdmaConfig)
  /-- `system_cdma_copy_sg` up to its loop. -/
  | copySg (ctx : Option DeviceId) (call : CopySg c)
  /-- The `k`-th call goes on: a pass of its loop, or its end. -/
  | call (k : ℕ)
  /-- `cdma_processing_thread` goes on. -/
  | thread

namespace Scheduler

/-- After `system_cdma_setup` (lines 172–181). -/
def start (cdma : Cdma c) : Scheduler c :=
  ⟨cdma, ⟨none, fun _ => none⟩, none, [], false, false, [], []⟩

variable (s : Scheduler c)

/-- `tasklet_schedule` (lines 98–122). A list with a cycle has no end, and the
    search for it has not found one after all tasklets. -/
def taskletSchedule (newTasklet : Tasklet c) : Scheduler c :=
  match s.queue.enqueue (numTasklets c) newTasklet with
  | some queue => { s with queue := queue, scheduled := s.scheduled ++ [newTasklet] }
  | none =>
    { s with
      queue := ⟨s.queue.head, Function.update s.queue.next newTasklet none⟩
      scheduled := s.scheduled ++ [newTasklet]
      hung := true }

/-- `cdma_processing_thread` (lines 124–147): it takes a tasklet, or calls the
    function of the one that it has taken. -/
def cdmaProcessingThread : Scheduler c :=
  match s.current with
  | some task =>
    match s.cdma.memcopyFunc task with
    | some cdma => { s with cdma := cdma, current := none, executed := s.executed ++ [task] }
    | none => { s with faulted := true }
  | none =>
    if s.hung = true then s
    else
      match s.queue.dequeue with
      | some (task, queue) => { s with queue := queue, current := some task }
      | none => s

/-- The `k`-th call goes on (lines 480–497). -/
def resume (k : ℕ) (active : ActiveCall c) : Scheduler c :=
  match active.next? with
  | some task =>
    if s.hung = true then s
    else
      let s := s.taskletSchedule task
      if s.hung = true then s
      else { s with calls := s.calls.set k { active with i := active.i + 1 } }
  | none =>
    if active.call.completeFunc = none then
      -- `wait_for_completion`
      if (s.cdma.poolCdmaDevices active.device).comp = some false then s
      else { s with cdma := s.cdma.wake active.device, calls := s.calls.eraseIdx k }
    else { s with calls := s.calls.eraseIdx k }

/-- What a step does before a fault. -/
def next : SchedulerAction c → Scheduler c
  | .copySg ctx call =>
    match ctx, s.cdma.copySg ctx call with
    | some dev, some cdma => { s with cdma := cdma, calls := s.calls ++ [⟨dev, call, 0⟩] }
    | _, _ => s
  | .call k =>
    match s.calls[k]? with
    | some active => s.resume k active
    | none => s
  | .thread => s.cdmaProcessingThread

/-- One step. -/
def step (a : SchedulerAction c) : Scheduler c := if s.faulted = true then s else s.next a

/-- The entry of a tasklet has been set up. -/
def Configured (task : Tasklet c) : Prop :=
  ((s.cdma.poolCdmaDevices task.device).memAddrs task.slot task.channel).sysBackPtr ≠ none

/-- The list is null-terminated, so acyclic. What has been scheduled has been
    executed, is being executed or is in the list, in this order. The thread
    executes the rest when it goes on. -/
def Law : Prop :=
  s.hung = false ∧ s.faulted = false ∧
    (∃ list, s.queue.Holds list ∧ list.Nodup ∧
      s.scheduled = s.executed ++ s.current.toList ++ list) ∧
    ∃ n, (run step s (List.replicate n .thread)).executed = s.scheduled

/-- A step schedules only a tasklet that is not in the list, and whose entry has
    been set up. -/
def ScheduleCondition : SchedulerAction c → Prop
  | .call k => ∀ active ∈ s.calls[k]?, ∀ task ∈ active.next?,
      (∀ list, s.queue.Holds list → task ∉ list) ∧ s.Configured task
  | _ => True

/-- The law as an invariant. -/
structure Inv : Prop where
  hung : s.hung = false
  faulted : s.faulted = false
  list : ∃ list, s.queue.Holds list ∧ s.scheduled = s.executed ++ s.current.toList ++ list ∧
    ∀ task ∈ s.current.toList ++ list, s.Configured task

section Steps

variable {s} {s' : Scheduler c} {task : Tasklet c} {list : List (Tasklet c)}

theorem inv_start (cdma : Cdma c) : (start cdma).Inv :=
  ⟨rfl, rfl, [], rfl, rfl, fun _ hmem => absurd hmem List.not_mem_nil⟩

/-- The address pairs stay as they are during a run. -/
theorem Inv.update (h : s.Inv) {cdma : Cdma c} (calls : List (ActiveCall c))
    (hsetup : s.cdma.SameSetup cdma) :
    { s with cdma := cdma, calls := calls }.Inv := by
  obtain ⟨list, hlist, hlog, hconf⟩ := h.list
  refine ⟨h.hung, h.faulted, list, hlist, hlog, fun task htask => ?_⟩
  show ((cdma.poolCdmaDevices task.device).memAddrs _ _).sysBackPtr ≠ none
  rw [(hsetup _).2]
  exact hconf task htask

/-- The calls do not matter. -/
theorem inv_calls_iff (calls : List (ActiveCall c)) :
    { s with calls := calls }.Inv ↔ s.Inv :=
  ⟨fun h => ⟨h.hung, h.faulted, h.list⟩, fun h => ⟨h.hung, h.faulted, h.list⟩⟩

/-- **Scheduling** a tasklet that is not queued. -/
theorem taskletSchedule_of_not_queued (hlist : s.queue.Holds list) (htask : task ∉ list) :
    ∃ queue, queue.Holds (list ++ [task]) ∧ s.taskletSchedule task =
      { s with queue := queue, scheduled := s.scheduled ++ [task] } := by
  obtain ⟨queue, henqueue, hqueue⟩ :=
    LinkedQueue.holds_enqueue hlist htask (length_le_numTasklets hlist.nodup)
  refine ⟨queue, hqueue, ?_⟩
  unfold taskletSchedule
  rw [henqueue]

/-- **Scheduling** one that is queued. -/
theorem not_holds_taskletSchedule (hlist : s.queue.Holds list) (htask : task ∈ list)
    (list' : List (Tasklet c)) : ¬ (s.taskletSchedule task).queue.Holds list' := by
  obtain ⟨queue, henqueue, hqueue⟩ :=
    LinkedQueue.not_holds_enqueue hlist htask (length_le_numTasklets hlist.nodup)
  unfold taskletSchedule
  rw [henqueue]
  exact hqueue list'

theorem inv_taskletSchedule_iff (h : s.Inv) : (s.taskletSchedule task).Inv ↔
    (∀ list, s.queue.Holds list → task ∉ list) ∧ s.Configured task := by
  obtain ⟨list, hlist, hlog, hconf⟩ := h.list
  by_cases hmem : task ∈ list
  · constructor
    · intro h'
      obtain ⟨list', hlist', _⟩ := h'.list
      exact absurd hlist' (not_holds_taskletSchedule hlist hmem list')
    · intro hcond
      exact absurd hmem (hcond.1 list hlist)
  · obtain ⟨queue, hqueue, heq⟩ := taskletSchedule_of_not_queued hlist hmem
    rw [heq]
    constructor
    · intro h'
      obtain ⟨list', hlist', _, hconf'⟩ := h'.list
      obtain rfl := hqueue.unique hlist'
      refine ⟨fun other hother => ?_, hconf' task (by simp)⟩
      rwa [← hlist.unique hother]
    · rintro ⟨_, htask⟩
      refine ⟨h.hung, h.faulted, _, hqueue, ?_, ?_⟩
      · rw [hlog, List.append_assoc _ list]
      · rw [← List.append_assoc]
        intro other hother
        obtain hother | hother := List.mem_append.1 hother
        · exact hconf other hother
        · rw [List.mem_singleton.1 hother]
          exact htask

/-- The thread runs a tasklet. -/
theorem thread_of_some {cdma : Cdma c} (hcurrent : s.current = some task)
    (hfunc : s.cdma.memcopyFunc task = some cdma) : s.cdmaProcessingThread =
      { s with cdma := cdma, current := none, executed := s.executed ++ [task] } := by
  unfold cdmaProcessingThread
  rw [hcurrent]
  dsimp only
  rw [hfunc]

/-- The tasklet faults. -/
theorem thread_of_fault (hcurrent : s.current = some task)
    (hfunc : s.cdma.memcopyFunc task = none) :
    s.cdmaProcessingThread = { s with faulted := true } := by
  unfold cdmaProcessingThread
  rw [hcurrent]
  dsimp only
  rw [hfunc]

/-- The thread takes the first tasklet. -/
theorem thread_of_cons (hcurrent : s.current = none) (hhung : s.hung = false)
    (hlist : s.queue.Holds (task :: list)) :
    ∃ queue, queue.Holds list ∧
      s.cdmaProcessingThread = { s with queue := queue, current := some task } := by
  obtain ⟨queue, hdequeue, hqueue⟩ := LinkedQueue.holds_dequeue hlist
  refine ⟨queue, hqueue, ?_⟩
  unfold cdmaProcessingThread
  rw [hcurrent]
  dsimp only
  rw [hhung, if_neg Bool.false_ne_true, hdequeue]

/-- The thread has nothing to do. -/
theorem thread_of_nil (hcurrent : s.current = none) (hlist : s.queue.Holds []) :
    s.cdmaProcessingThread = s := by
  unfold cdmaProcessingThread
  rw [hcurrent, LinkedQueue.dequeue_nil hlist]
  exact ite_self s

/-- The thread keeps the invariant. -/
theorem Inv.cdmaProcessingThread (h : s.Inv) : s.cdmaProcessingThread.Inv := by
  obtain ⟨list, hlist, hlog, hconf⟩ := h.list
  cases hcurrent : s.current with
  | some task =>
    rw [hcurrent] at hlog hconf
    cases hfunc : s.cdma.memcopyFunc task with
    | none => exact absurd (Cdma.memcopyFunc_eq_none_iff.1 hfunc) (hconf task (by simp))
    | some cdma =>
      rw [thread_of_some hcurrent hfunc]
      refine ⟨h.hung, h.faulted, list, hlist, ?_, fun other hother => ?_⟩
      · simpa using hlog
      · show ((cdma.poolCdmaDevices other.device).memAddrs _ _).sysBackPtr ≠ none
        rw [(Cdma.sameSetup_memcopyFunc hfunc _).2]
        exact hconf other (List.mem_append_right _ hother)
  | none =>
    rw [hcurrent] at hlog hconf
    cases list with
    | nil => rwa [thread_of_nil hcurrent hlist]
    | cons task list =>
      obtain ⟨queue, hqueue, heq⟩ := thread_of_cons hcurrent h.hung hlist
      rw [heq]
      refine ⟨h.hung, h.faulted, list, hqueue, ?_, hconf⟩
      rw [hlog]
      simp

/-- A call goes on. -/
theorem inv_resume_iff {k : ℕ} {active : ActiveCall c} (h : s.Inv) :
    (s.resume k active).Inv ↔ ∀ task ∈ active.next?,
      (∀ list, s.queue.Holds list → task ∉ list) ∧ s.Configured task := by
  unfold resume
  cases active.next? with
  | some task =>
    simp only [Option.mem_some_iff, forall_eq', ← inv_taskletSchedule_iff h]
    rw [h.hung, if_neg Bool.false_ne_true]
    split_ifs
    · exact Iff.rfl
    · exact inv_calls_iff _
  | none =>
    refine iff_of_true ?_ (by simp)
    dsimp only
    split_ifs
    · exact h
    · exact h.update _ (Cdma.sameSetup_wake _ _)
    · exact (inv_calls_iff _).2 h

/-- **One step** keeps the invariant iff it meets the condition. -/
theorem inv_step_iff (h : s.Inv) (a : SchedulerAction c) :
    (s.step a).Inv ↔ s.ScheduleCondition a := by
  unfold step
  rw [h.faulted, if_neg Bool.false_ne_true]
  cases a with
  | copySg ctx call =>
    refine iff_of_true ?_ trivial
    unfold next
    dsimp only
    split
    · rename_i dev cdma hcall
      exact h.update _ (Cdma.sameSetup_copySg hcall)
    · exact h
  | call k =>
    unfold next ScheduleCondition
    dsimp only
    cases hactive : s.calls[k]? with
    | some active => simpa using inv_resume_iff h
    | none => simpa using h
  | thread => exact iff_of_true h.cdmaProcessingThread trivial

end Steps

section Drain

variable {s} {s' : Scheduler c} {task : Tasklet c} {list : List (Tasklet c)}

theorem step_thread (h : s.faulted = false) : s.step .thread = s.cdmaProcessingThread := by
  unfold step
  rw [h, if_neg Bool.false_ne_true]
  rfl

theorem run_replicate_succ (s : Scheduler c) (n : ℕ) :
    run step s (List.replicate (n + 1) .thread) =
      run step (s.step .thread) (List.replicate n .thread) := rfl

/-- The queued tasklets are configured. -/
theorem Inv.configured (h : s.Inv) (hlist : s.queue.Holds list)
    (htask : task ∈ s.current.toList ++ list) : s.Configured task := by
  obtain ⟨list', hlist', _, hconf⟩ := h.list
  obtain rfl := hlist.unique hlist'
  exact hconf task htask

/-- The current tasklet is run. -/
theorem Inv.thread_of_current (h : s.Inv) (hcurrent : s.current = some task) :
    ∃ cdma, s.step .thread =
      { s with cdma := cdma, current := none, executed := s.executed ++ [task] } := by
  obtain ⟨list, hlist, _⟩ := h.list
  cases hfunc : s.cdma.memcopyFunc task with
  | none =>
    have hconf : s.Configured task := h.configured hlist (by simp [hcurrent])
    exact absurd (Cdma.memcopyFunc_eq_none_iff.1 hfunc) hconf
  | some cdma =>
    refine ⟨cdma, ?_⟩
    rw [step_thread h.faulted, thread_of_some hcurrent hfunc]

/-- A thread that is about to take a tasklet executes the whole list. -/
theorem Inv.drain_of_list (h : s.Inv) (hcurrent : s.current = none)
    (hlist : s.queue.Holds list) (hlog : s.scheduled = s.executed ++ list) :
    ∃ n, (run step s (List.replicate n .thread)).executed = s.scheduled := by
  induction list generalizing s with
  | nil => exact ⟨0, by rw [hlog, List.append_nil]; rfl⟩
  | cons task list ih =>
    -- two steps for the first tasklet
    obtain ⟨queue, hqueue, htake⟩ := thread_of_cons hcurrent h.hung hlist
    have htaken : (s.step .thread).Inv := (inv_step_iff h .thread).2 trivial
    rw [step_thread h.faulted, htake] at htaken
    obtain ⟨cdma, hrun⟩ := htaken.thread_of_current rfl
    have hnext := (inv_step_iff htaken .thread).2 trivial
    rw [hrun] at hnext
    obtain ⟨n, hn⟩ := ih hnext rfl hqueue (by simpa using hlog)
    refine ⟨n + 2, ?_⟩
    rw [run_replicate_succ, run_replicate_succ, step_thread h.faulted, htake, hrun]
    exact hn

/-- The thread executes what is scheduled. -/
theorem Inv.drain (h : s.Inv) :
    ∃ n, (run step s (List.replicate n .thread)).executed = s.scheduled := by
  obtain ⟨list, hlist, hlog, _⟩ := h.list
  cases hcurrent : s.current with
  | none => exact h.drain_of_list hcurrent hlist (by simpa [hcurrent] using hlog)
  | some task =>
    obtain ⟨cdma, hrun⟩ := h.thread_of_current hcurrent
    have hnext := (inv_step_iff h .thread).2 trivial
    rw [hrun] at hnext
    obtain ⟨n, hn⟩ := hnext.drain_of_list rfl hlist (by simpa [hcurrent] using hlog)
    refine ⟨n + 1, ?_⟩
    rw [run_replicate_succ, hrun]
    exact hn

/-- A tasklet whose entry has not been set up is still to be executed. -/
def Stuck (scheduled : List (Tasklet c)) (s : Scheduler c) : Prop :=
  s.scheduled = scheduled ∧ ∃ list, s.queue.Holds list ∧
    scheduled = s.executed ++ s.current.toList ++ list ∧
    ∃ task ∈ s.current.toList ++ list, ¬ s.Configured task

/-- The thread does not get over it. -/
theorem Stuck.step {scheduled : List (Tasklet c)} (h : Stuck scheduled s) :
    Stuck scheduled (s.step .thread) := by
  obtain ⟨hscheduled, list, hlist, hlog, task, htask, hconf⟩ := h
  cases hfaulted : s.faulted with
  | true =>
    have hstep : s.step .thread = s := if_pos hfaulted
    rw [hstep]
    exact ⟨hscheduled, list, hlist, hlog, task, htask, hconf⟩
  | false =>
    rw [step_thread hfaulted]
    cases hcurrent : s.current with
    | some current =>
      rw [hcurrent] at hlog htask
      cases hfunc : s.cdma.memcopyFunc current with
      | none =>
        rw [thread_of_fault hcurrent hfunc]
        refine ⟨hscheduled, list, hlist, ?_, task, ?_, hconf⟩
        · show scheduled = s.executed ++ s.current.toList ++ list
          rw [hcurrent, hlog]
        · show task ∈ s.current.toList ++ list
          rwa [hcurrent]
      | some cdma =>
        rw [thread_of_some hcurrent hfunc]
        refine ⟨hscheduled, list, hlist, by simpa using hlog, task, ?_, ?_⟩
        · -- the tasklet that ran is another one
          obtain rfl | hrest := List.mem_cons.1 htask
          · exact absurd (fun hnone => by
              rw [Cdma.memcopyFunc_eq_none_iff.2 hnone] at hfunc
              exact absurd hfunc (by simp)) hconf
          · exact hrest
        · unfold Configured
          rw [(Cdma.sameSetup_memcopyFunc hfunc _).2]
          exact hconf
    | none =>
      rw [hcurrent] at hlog htask
      cases hhung : s.hung with
      | true =>
        have hidle : s.cdmaProcessingThread = s := by
          unfold cdmaProcessingThread
          rw [hcurrent]
          exact if_pos hhung
        rw [hidle]
        exact ⟨hscheduled, list, hlist, by rwa [hcurrent], task, by rwa [hcurrent], hconf⟩
      | false =>
        cases list with
        | nil => exact absurd htask List.not_mem_nil
        | cons first list =>
          obtain ⟨queue, hqueue, heq⟩ := thread_of_cons hcurrent hhung hlist
          rw [heq]
          exact ⟨hscheduled, list, hqueue, by simpa using hlog, task, htask, hconf⟩

theorem Stuck.executed_ne {scheduled : List (Tasklet c)} (h : Stuck scheduled s) :
    s.executed ≠ scheduled := by
  obtain ⟨_, list, _, hlog, task, htask, _⟩ := h
  intro heq
  rw [heq, List.append_assoc, List.self_eq_append_right] at hlog
  rw [hlog] at htask
  exact absurd htask List.not_mem_nil

/-- The law is the invariant. -/
theorem law_iff (s : Scheduler c) : s.Law ↔ s.Inv := by
  constructor
  · rintro ⟨hhung, hfaulted, ⟨list, hlist, _, hlog⟩, n, hn⟩
    refine ⟨hhung, hfaulted, list, hlist, hlog, fun task htask => ?_⟩
    by_contra hconf
    have hstuck : Stuck s.scheduled s := ⟨rfl, list, hlist, hlog, task, htask, hconf⟩
    have hthread : Along step (fun _ a => a = .thread) s (List.replicate n .thread) :=
      along_of_forall (fun a ha => List.eq_of_mem_replicate ha) s
    have hrun : Stuck s.scheduled (run step s (List.replicate n .thread)) :=
      Along.inv (fun s a h ha => ha ▸ h.step) hstuck hthread
    exact hrun.executed_ne hn
  · intro h
    obtain ⟨list, hlist, hlog, _⟩ := h.list
    exact ⟨h.hung, h.faulted, ⟨list, hlist, hlist.nodup, hlog⟩, h.drain⟩

end Drain

end Scheduler

open Scheduler

/-- **The tasklet queue.** In every run of calls of `system_cdma_copy_sg` and of
    the thread, the list is null-terminated in all states and every scheduling
    is executed once and in its turn, iff the run schedules only tasklets that
    are not queued and whose entries have been set up. -/
theorem tasklets_iff (cdma : Cdma c) (as : List (SchedulerAction c)) :
    (∀ pre, pre <+: as → (run step (start cdma) pre).Law) ↔
      Along step ScheduleCondition (start cdma) as := by
  simp only [law_iff]
  exact forall_prefix_iff_along (J := Inv) (fun s a h => inv_step_iff h a) (inv_start cdma) as

/-- A firmware with one channel. -/
def oneChannel : CdmaConfig := ⟨1, 1, 1, Nat.one_pos, Nat.one_pos, by decide⟩

/-- The first device after the set-up of its entry. -/
def setUpDevice : Cdma oneChannel :=
  ((Cdma.zero oneChannel).execute
    [.init, .sgDeviceSetup (some firstDevice) 0 (some fun _ => ⟨0x1000, 1⟩) 1 0,
      .sgFwmemSetup (some firstDevice) 0 (some fun _ => ⟨0x2000, 1⟩) 1 0]).getD (.zero _)

/-- A request with a callback. -/
def callbackCall : CopySg oneChannel := ⟨⟨⟨0, by decide⟩, ⟨0, by decide⟩⟩, .toDevice, some 0⟩

/-- The request is made twice before the thread goes on. -/
def rescheduled : Scheduler oneChannel :=
  run step (start setUpDevice) [.copySg (some firstDevice) callbackCall, .call 0, .call 0,
    .copySg (some firstDevice) callbackCall, .call 0]

/-- The only tasklet of the request. -/
def callbackTasklet : Tasklet oneChannel := ⟨firstDevice, callbackCall.slot, ⟨0, Nat.one_pos⟩⟩

/-- The second request schedules the tasklet of the first one, which is then
    linked to itself. -/
theorem not_law_rescheduled : ¬ rescheduled.Law := by
  have hhead : rescheduled.queue.head = some callbackTasklet := rfl
  have hloop : rescheduled.queue.next callbackTasklet = some callbackTasklet := rfl
  rintro ⟨_, _, ⟨list, hlist, _⟩, _⟩
  unfold LinkedQueue.Holds at hlist
  rw [hhead] at hlist
  exact Path.not_of_loop hloop hlist

end Corstone.Isp
