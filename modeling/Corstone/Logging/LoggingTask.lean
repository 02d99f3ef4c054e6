import Corstone.Lib.Run

/-!
# The owners of the log buffers

Models of `xLoggingTaskInitialize`, `prvLoggingTask`, and of what `prvLoggingPrintfCommon` and
`vLoggingPrint` do with their buffer (`iot_logging_task_dynamic_buffers.c`, lines 168–215, 230–237,
343–364 and 459–482). The results of the queue, of the heap and of the creation of the task are
inputs. A buffer is numbered by its allocation. An attempt to initialise is one step; a logging call
is one step up to its allocation and one behind it.

An attempt whose task is not created deletes the queue, but leaves its handle in `xQueue`.

* `owned_iff`: every buffer has one owner, `xQueue` is a queue that is served, and nothing is sent
  to a queue that is deleted, all along a run iff no attempt has created a queue but no task.
* `deleted_queue_is_used`: a message that is sent to a queue that is deleted.
-/

namespace Corstone.Logging

open Corstone.Lib

/-- The queue, the task, and the buffers in each place. -/
structure LoggingTask where
  /-- `xQueue` is not `NULL`. -/
  xQueue : Bool := false
  /-- The queue of `xQueue` has been created and not been deleted. -/
  live : Bool := false
  /-- `prvLoggingTask` has been created. -/
  served : Bool := false
  /-- The number of buffers that have been allocated. -/
  allocated : ℕ := 0
  /-- The buffers of logging calls that are not over. -/
  held : List ℕ := []
  queue : List ℕ := []
  /-- `pcReceivedString` of the task. -/
  printing : Option ℕ := none
  freed : List ℕ := []
  /-- `xQueueSend` has been called with a queue that is deleted. -/
  sentToDeleted : Bool := false
  /-- `configASSERT( xQueue )` has failed, which stops the device. -/
  stopped : Bool := false

inductive LoggingAction
  /-- `xLoggingTaskInitialize`, and whether the queue and the task are created. -/
  | attempt (queueCreated taskCreated : Bool)
  /-- A logging call up to its allocation, and whether there is memory. -/
  | call (allocated : Bool)
  /-- A logging call sends its buffer, and whether the queue takes it. -/
  | send (buffer : ℕ) (sent : Bool)
  /-- A logging call with an empty message frees its buffer. -/
  | discard (buffer : ℕ)
  /-- `prvLoggingTask` receives a string. -/
  | receive
  /-- It has printed the string and frees it. -/
  | print
  deriving DecidableEq

namespace LoggingTask

/-- `xLoggingTaskInitialize` (lines 168–194). -/
def xLoggingTaskInitialize (queueCreated taskCreated : Bool) (s : LoggingTask) : LoggingTask :=
  if s.xQueue then s
  else if queueCreated then
    if taskCreated then { s with xQueue := true, live := true, served := true }
    else { s with xQueue := true, live := false }
  else s

/-- The assertion and the allocation of a logging call. -/
def loggingCall (allocated : Bool) (s : LoggingTask) : LoggingTask :=
  if s.xQueue then
    if allocated then { s with allocated := s.allocated + 1, held := s.allocated :: s.held } else s
  else { s with stopped := true }

/-- `xQueueSend` of a logging call without a waiting time: a buffer that is not sent is freed. -/
def xQueueSend (buffer : ℕ) (sent : Bool) (s : LoggingTask) : LoggingTask :=
  if buffer ∈ s.held then
    let s := { s with held := s.held.erase buffer, sentToDeleted := s.sentToDeleted || !s.live }
    if sent then { s with queue := s.queue ++ [buffer] } else { s with freed := buffer :: s.freed }
  else s

/-- The buffer of a message that is empty is freed. -/
def discard (buffer : ℕ) (s : LoggingTask) : LoggingTask :=
  if buffer ∈ s.held then
    { s with held := s.held.erase buffer, freed := buffer :: s.freed }
  else s

/-- `xQueueReceive` of `prvLoggingTask`, which waits for a string. -/
def xQueueReceive (s : LoggingTask) : LoggingTask :=
  match s.served, s.printing, s.queue with
  | true, none, buffer :: queue => { s with printing := some buffer, queue }
  | _, _, _ => s

/-- `configPRINT_STRING` and `vPortFree` of `prvLoggingTask`. -/
def printString (s : LoggingTask) : LoggingTask :=
  match s.printing with
  | some buffer => { s with printing := none, freed := buffer :: s.freed }
  | none => s

end LoggingTask

/-- One step of a device that has not stopped. -/
def step (s : LoggingTask) (a : LoggingAction) : LoggingTask :=
  if s.stopped then s
  else
    match a with
    | .attempt queueCreated taskCreated => s.xLoggingTaskInitialize queueCreated taskCreated
    | .call allocated => s.loggingCall allocated
    | .send buffer sent => s.xQueueSend buffer sent
    | .discard buffer => s.discard buffer
    | .receive => s.xQueueReceive
    | .print => s.printString

/-- How often a buffer occurs among its owners: a call, the queue, the task, the heap. -/
def LoggingTask.places (s : LoggingTask) (buffer : ℕ) : ℕ :=
  s.held.count buffer + s.queue.count buffer + s.printing.toList.count buffer +
    s.freed.count buffer

/-- The owners of the buffers and of the queue. -/
structure Owned (s : LoggingTask) : Prop where
  /-- Every buffer that has been allocated is in one place. -/
  once : ∀ buffer, s.places buffer = if buffer < s.allocated then 1 else 0
  /-- `xQueue` is not `NULL` exactly when there is a queue that is served. -/
  ready : s.xQueue = true ↔ s.live = true ∧ s.served = true
  neverDeleted : s.sentToDeleted = false
  /-- As long as no attempt has succeeded, another one can. -/
  retry : s.stopped = false → s.served = false → (step s (.attempt true true)).served = true

/-- No attempt that finds `xQueue` `NULL` creates a queue but no task. -/
def Completes (s : LoggingTask) (a : LoggingAction) : Prop :=
  a = .attempt true false → s.stopped = false → s.xQueue = true

instance (s : LoggingTask) (a : LoggingAction) : Decidable (Completes s a) :=
  inferInstanceAs (Decidable (_ → _ → _))

/-- A logging call that is not over has found a queue. -/
def CallsQueued (s : LoggingTask) : Prop := s.xQueue = false → s.held = []

variable {s : LoggingTask}

theorem callsQueued_step (h : CallsQueued s) (a : LoggingAction) : CallsQueued (step s a) := by
  unfold step
  by_cases hstopped : s.stopped = true
  · rwa [if_pos hstopped]
  rw [if_neg hstopped]
  cases a with
  | attempt queueCreated taskCreated =>
    show CallsQueued (s.xLoggingTaskInitialize queueCreated taskCreated)
    unfold LoggingTask.xLoggingTaskInitialize
    by_cases hqueue : s.xQueue = true
    · rwa [if_pos hqueue]
    · cases queueCreated with
      | false => simpa [hqueue, CallsQueued] using h
      | true => cases taskCreated <;> simp [hqueue, CallsQueued]
  | call allocated =>
    show CallsQueued (s.loggingCall allocated)
    unfold LoggingTask.loggingCall
    by_cases hqueue : s.xQueue = true
    · cases allocated <;> simp [hqueue, CallsQueued]
    · simpa [hqueue, CallsQueued] using h
  | send buffer sent =>
    show CallsQueued (s.xQueueSend buffer sent)
    unfold LoggingTask.xQueueSend
    by_cases hheld : buffer ∈ s.held
    · intro hqueue
      have hnil : s.held = [] := h (by cases sent <;> simpa [hheld] using hqueue)
      rw [hnil] at hheld
      cases hheld
    · rwa [if_neg hheld]
  | discard buffer =>
    show CallsQueued (s.discard buffer)
    unfold LoggingTask.discard
    by_cases hheld : buffer ∈ s.held
    · intro hqueue
      have hnil : s.held = [] := h (by simpa [hheld] using hqueue)
      rw [hnil] at hheld
      cases hheld
    · rwa [if_neg hheld]
  | receive =>
    show CallsQueued s.xQueueReceive
    unfold LoggingTask.xQueueReceive
    split
    · exact h
    · exact h
  | print =>
    show CallsQueued s.printString
    unfold LoggingTask.printString
    split
    · exact h
    · exact h

/-- While `xQueue` tells of a served queue, or of none, an attempt can succeed. -/
theorem retry_of_ready (hready : s.xQueue = true ↔ s.live = true ∧ s.served = true)
    (hstopped : s.stopped = false) (hserved : s.served = false) :
    (step s (.attempt true true)).served = true := by
  have hqueue : s.xQueue = false := by
    rw [Bool.eq_false_iff]
    intro hqueue
    have hlive := (hready.mp hqueue).2
    rw [hserved] at hlive
    cases hlive
  simp [step, hstopped, LoggingTask.xLoggingTaskInitialize, hqueue]

/-- The invariant without what follows from the rest. -/
theorem owned_of (honce : ∀ buffer, s.places buffer = if buffer < s.allocated then 1 else 0)
    (hready : s.xQueue = true ↔ s.live = true ∧ s.served = true)
    (hdeleted : s.sentToDeleted = false) : Owned s :=
  ⟨honce, hready, hdeleted, retry_of_ready hready⟩

/-- A buffer that is taken from the calls. -/
theorem count_erase_add_one {buffer : ℕ} (h : buffer ∈ s.held) (b : ℕ) :
    (s.held.erase buffer).count b + [buffer].count b = s.held.count b := by
  have hpos : 0 < s.held.count buffer := List.count_pos_iff.mpr h
  rw [List.count_erase, List.count_singleton]
  by_cases heq : buffer = b
  · subst heq
    simp only [beq_self_eq_true, if_true]
    omega
  · simp [heq]

/-- A buffer of a call is freed. -/
theorem places_free {buffer : ℕ} (h : buffer ∈ s.held) (b : ℕ) :
    (s.held.erase buffer).count b + s.queue.count b + s.printing.toList.count b +
      (buffer :: s.freed).count b = s.places b := by
  have hcount := count_erase_add_one h b
  unfold LoggingTask.places
  rw [← List.singleton_append, List.count_append]
  omega

/-- A step that moves buffers and leaves the queue alone. -/
theorem owned_of_places {s' : LoggingTask} (h : Owned s) (hqueue : s'.xQueue = s.xQueue)
    (hlive : s'.live = s.live) (hserved : s'.served = s.served)
    (hallocated : s'.allocated = s.allocated) (hdeleted : s'.sentToDeleted = s.sentToDeleted)
    (hplaces : ∀ b, s'.places b = s.places b) : Owned s' := by
  refine owned_of ?_ ?_ ?_
  · intro b
    rw [hplaces, hallocated]
    exact h.once b
  · rw [hqueue, hlive, hserved]
    exact h.ready
  · rw [hdeleted]
    exact h.neverDeleted

/-- A call has found a queue that is served. -/
theorem live_of_held (hcalls : CallsQueued s) (h : Owned s) {buffer : ℕ}
    (hheld : buffer ∈ s.held) : s.live = true := by
  refine (h.ready.mp ?_).1
  by_contra hqueue
  rw [hcalls (Bool.eq_false_iff.mpr hqueue)] at hheld
  cases hheld

theorem owned_attempt (h : Owned s) (queueCreated taskCreated : Bool)
    (ha : queueCreated = true → taskCreated = false → s.xQueue = true) :
    Owned (s.xLoggingTaskInitialize queueCreated taskCreated) := by
  unfold LoggingTask.xLoggingTaskInitialize
  by_cases hqueue : s.xQueue = true
  · rwa [if_pos hqueue]
  rw [if_neg hqueue]
  cases queueCreated with
  | false => exact h
  | true =>
    cases taskCreated with
    | false => exact absurd (ha rfl rfl) hqueue
    | true => exact owned_of h.once (by simp) h.neverDeleted

theorem owned_loggingCall (h : Owned s) (allocated : Bool) : Owned (s.loggingCall allocated) := by
  unfold LoggingTask.loggingCall
  by_cases hqueue : s.xQueue = true
  case neg =>
    rw [if_neg hqueue]
    exact owned_of h.once h.ready h.neverDeleted
  rw [if_pos hqueue]
  cases allocated with
  | false => exact h
  | true =>
    refine owned_of ?_ h.ready h.neverDeleted
    intro b
    have hb := h.once b
    show (s.allocated :: s.held).count b + s.queue.count b + s.printing.toList.count b +
      s.freed.count b = if b < s.allocated + 1 then 1 else 0
    rw [List.count_cons]
    unfold LoggingTask.places at hb
    by_cases heq : s.allocated = b
    · rw [if_neg (by omega)] at hb
      simp only [heq, beq_self_eq_true, if_true, Nat.lt_add_one]
      omega
    · have hlt : b < s.allocated ↔ b < s.allocated + 1 := by omega
      simp only [beq_iff_eq, if_neg heq]
      rw [← if_congr hlt rfl rfl]
      omega

theorem owned_xQueueSend (hcalls : CallsQueued s) (h : Owned s) (buffer : ℕ) (sent : Bool) :
    Owned (s.xQueueSend buffer sent) := by
  unfold LoggingTask.xQueueSend
  by_cases hheld : buffer ∈ s.held
  case neg => rwa [if_neg hheld]
  have hlive := live_of_held hcalls h hheld
  have hdeleted : (s.sentToDeleted || !s.live) = s.sentToDeleted := by simp [hlive]
  rw [if_pos hheld]
  cases sent with
  | true =>
    refine owned_of_places h rfl rfl rfl rfl hdeleted ?_
    intro b
    have hcount := count_erase_add_one hheld b
    show (s.held.erase buffer).count b + (s.queue ++ [buffer]).count b + s.printing.toList.count b +
      s.freed.count b = s.places b
    unfold LoggingTask.places
    rw [List.count_append]
    omega
  | false =>
    exact owned_of_places h rfl rfl rfl rfl hdeleted (places_free hheld)

theorem owned_discard (h : Owned s) (buffer : ℕ) : Owned (s.discard buffer) := by
  unfold LoggingTask.discard
  by_cases hheld : buffer ∈ s.held
  case neg => rwa [if_neg hheld]
  rw [if_pos hheld]
  exact owned_of_places h rfl rfl rfl rfl rfl (places_free hheld)

theorem owned_xQueueReceive (h : Owned s) : Owned s.xQueueReceive := by
  unfold LoggingTask.xQueueReceive
  split
  case h_1 buffer queue hserved hprinting hqueue =>
    refine owned_of_places h rfl rfl rfl rfl rfl ?_
    intro b
    show s.held.count b + queue.count b + (some buffer).toList.count b + s.freed.count b =
      s.places b
    unfold LoggingTask.places
    rw [hqueue, hprinting, ← List.singleton_append, List.count_append]
    simp only [Option.toList_some, Option.toList_none, List.count_nil]
    omega
  case h_2 => exact h

theorem owned_printString (h : Owned s) : Owned s.printString := by
  unfold LoggingTask.printString
  split
  case h_1 buffer hprinting =>
    refine owned_of_places h rfl rfl rfl rfl rfl ?_
    intro b
    show s.held.count b + s.queue.count b + (none : Option ℕ).toList.count b +
      (buffer :: s.freed).count b = s.places b
    unfold LoggingTask.places
    rw [hprinting, ← List.singleton_append, List.count_append]
    simp only [Option.toList_some, Option.toList_none, List.count_nil]
    omega
  case h_2 => exact h

/-- The step keeps the owners exactly if it meets `Completes`: `xQueue` is behind a failed attempt
    the handle of a queue that is deleted. -/
theorem owned_step_iff (hcalls : CallsQueued s) (h : Owned s) (a : LoggingAction) :
    Owned (step s a) ↔ Completes s a := by
  by_cases hstopped : s.stopped = true
  · have hsame : step s a = s := if_pos hstopped
    rw [hsame]
    refine iff_of_true h ?_
    intro _ hrunning
    rw [hstopped] at hrunning
    cases hrunning
  have hrunning : s.stopped = false := Bool.eq_false_iff.mpr hstopped
  constructor
  · rintro hnext rfl -
    by_contra hqueue
    have hready := hnext.ready
    simp [step, hrunning, LoggingTask.xLoggingTaskInitialize, hqueue] at hready
  · intro ha
    unfold step
    rw [if_neg hstopped]
    cases a with
    | attempt queueCreated taskCreated =>
      refine owned_attempt h queueCreated taskCreated ?_
      rintro rfl rfl
      exact ha rfl hrunning
    | call allocated => exact owned_loggingCall h allocated
    | send buffer sent => exact owned_xQueueSend hcalls h buffer sent
    | discard buffer => exact owned_discard h buffer
    | receive => exact owned_xQueueReceive h
    | print => exact owned_printString h

/-- In every state of a run, each buffer has one owner and `xQueue` is a queue that is served, iff
    no attempt of the run that finds `xQueue` `NULL` creates a queue but no task. -/
theorem owned_iff (as : List LoggingAction) :
    (∀ pre, pre <+: as → Owned (run step {} pre)) ↔ Along step Completes {} as := by
  refine forall_prefix_iff_along_of_inv (I := CallsQueued) (fun s a hcalls => ?_) ?_ ?_ ?_ as
  · exact callsQueued_step hcalls a
  · exact fun s a hcalls h => owned_step_iff hcalls h a
  · exact fun _ => rfl
  · exact owned_of (by simp [LoggingTask.places]) (by simp) rfl

/-- The first attempt creates no task. The next logging call sends its buffer to the queue that has
    been deleted, and another attempt does nothing. -/
theorem deleted_queue_is_used :
    let s := run step {} [.attempt true false, .call true, .send 0 true]
    s.xQueue = true ∧ s.live = false ∧ s.sentToDeleted = true ∧
      (step s (.attempt true true)).served = false := by
  decide

end Corstone.Logging
