import Corstone.Lib.Run

/-!
# Starting and stopping the inference

Models of `vMlTaskInferenceStart`, `vMlTaskInferenceStop` and of the waits of
the ML task (`keyword_detection/ml_interface.cc`). A command is two operations
on the event group, and the task and the other operations may run between them.
The commands themselves come one after the other.

* `taskStep_spec`: what a step of the ML task does to the two bits.
* `run_invariant`: the invariant of the protocol.
* `commands_obeyed`: between the commands the two bits are never both set, and
  no command is lost that the opposite one does not already take back.
* `not_obeyed_stopBegun`: a stop command has begun to take a start back.
-/

namespace Corstone.KeywordDetection

open Corstone.Lib

/-- The two commands, each with its bit: `EVENT_MASK_ML_START` and
    `EVENT_MASK_ML_STOP`. -/
inductive Command
  | start | stop
  deriving DecidableEq

namespace Command

/-- The command that takes this one back. -/
def opposite : Command → Command
  | .start => .stop
  | .stop => .start

@[simp] theorem opposite_ne (c : Command) : c.opposite ≠ c := by
  cases c <;> decide

end Command

/-- An operation on `xSystemEvents`. -/
inductive EventOperation
  | xEventGroupClearBits (mask : Command)
  | xEventGroupSetBits (mask : Command)
  deriving DecidableEq

/-- `vMlTaskInferenceStart` (lines 218–231). `main` creates the event group
    first. -/
def vMlTaskInferenceStart : List EventOperation :=
  [.xEventGroupClearBits .stop, .xEventGroupSetBits .start]

/-- `vMlTaskInferenceStop` (lines 233–246). -/
def vMlTaskInferenceStop : List EventOperation :=
  [.xEventGroupClearBits .start, .xEventGroupSetBits .stop]

def Command.operations : Command → List EventOperation
  | .start => vMlTaskInferenceStart
  | .stop => vMlTaskInferenceStop

/-- Both commands clear the bit of the other one and set their own. -/
theorem Command.operations_eq (c : Command) :
    c.operations = [.xEventGroupClearBits c.opposite, .xEventGroupSetBits c] := by
  cases c <;> rfl

/-- Where the ML task is. In a wait it has not called `xEventGroupWaitBits` yet,
    or it is blocked in it. -/
inductive MlTask
  /-- The waits for `EVENT_MASK_ML_START` of `vMlTask` and of `prvProcessAudio`. -/
  | startWait (initial blocked : Bool)
  /-- `prvMlInterfaceInit` and `prvProcessAudio` before its loops. -/
  | interfaceInit
  /-- The wait for `EVENT_MASK_ML_STOP`, of ten ticks. -/
  | stopWait (blocked : Bool)
  /-- An inference. -/
  | inference
  | returned
  deriving DecidableEq

namespace MlTask

/-- The task is waiting for `EVENT_MASK_ML_START`. -/
def waitsForStart : MlTask → Bool
  | .startWait _ _ => true
  | _ => false

/-- The task is inside the inference loop. -/
def inLoop : MlTask → Bool
  | .stopWait _ | .inference => true
  | _ => false

/-- The task has a command to look for: it waits for a start, or a start has
    let it go. -/
def awaits : Command → MlTask → Bool
  | .start, task => task.waitsForStart
  | .stop, .interfaceInit => true
  | .stop, task => task.inLoop

theorem awaits_stop_of_inLoop {task : MlTask} (h : task.inLoop = true) :
    awaits .stop task = true := by
  cases task <;> first | rfl | exact h

/-- What follows the wait for a start. -/
def started (initial : Bool) : MlTask := if initial then .interfaceInit else .stopWait false

end MlTask

/-- The two bits, the ML task and the commands. -/
structure Inference where
  bits : Command → Bool
  task : MlTask
  /-- The command that is called, with its operations still to come. -/
  inProgress : Option (Command × List EventOperation)
  lastCompleted : Option Command

namespace Inference

def init : Inference where
  bits := fun _ => false
  task := .startWait true false
  inProgress := none
  lastCompleted := none

/-- A wait that is over clears the bit it waited for. -/
def clearBits (σ : Inference) (mask : Command) : Inference :=
  { σ with bits := Function.update σ.bits mask false }

/-- `xEventGroupSetBits`: a task that is blocked on the bit is let go, with the
    bit cleared. -/
def setBits (σ : Inference) (mask : Command) : Inference :=
  match σ.task, mask with
  | .startWait initial true, .start => { σ.clearBits .start with task := .started initial }
  | .stopWait true, .stop => { σ.clearBits .stop with task := .startWait false false }
  | _, _ => { σ with bits := Function.update σ.bits mask true }

/-- The next operation of the command, or its return. -/
def operate (σ : Inference) : Inference :=
  match σ.inProgress with
  | none => σ
  | some (c, []) => { σ with inProgress := none, lastCompleted := some c }
  | some (c, .xEventGroupClearBits mask :: ops) =>
    { σ.clearBits mask with inProgress := some (c, ops) }
  | some (c, .xEventGroupSetBits mask :: ops) =>
    { σ.setBits mask with inProgress := some (c, ops) }

/-- The ML task runs on (lines 663–677, 809–815, 1078–1095), where the
    initialisation or the inference succeeds or not. A wait that times out looks
    at the bits once more. -/
def taskStep (success : Bool) (σ : Inference) : Inference :=
  match σ.task with
  | .startWait initial false =>
    if σ.bits .start then { σ.clearBits .start with task := .started initial }
    else { σ with task := .startWait initial true }
  | .startWait _ true => σ
  | .interfaceInit => { σ with task := if success then .stopWait false else .returned }
  | .stopWait false =>
    if σ.bits .stop then { σ.clearBits .stop with task := .startWait false false }
    else { σ with task := .stopWait true }
  | .stopWait true =>
    if σ.bits .stop then { σ.clearBits .stop with task := .startWait false false }
    else { σ with task := .inference }
  | .inference => { σ with task := if success then .stopWait false else .returned }
  | .returned => σ

inductive Action
  /-- A command is called, when no other one is in progress. -/
  | call (c : Command)
  | operate
  | task (success : Bool)

def step (σ : Inference) : Action → Inference
  | .call c => if σ.inProgress = none then { σ with inProgress := some (c, c.operations) } else σ
  | .operate => σ.operate
  | .task success => σ.taskStep success

/-! ## The two bits -/

section Bits

variable {σ : Inference} {c : Command}

/-- A step of the task sets no bit. Unless the opposite bit sends it there, it
    is not in front of a command that it was not in front of before, and still
    has the bit of that command. -/
theorem taskStep_spec (success : Bool) (σ : Inference) (c : Command) :
    ((σ.taskStep success).bits c = true → σ.bits c = true) ∧
      (σ.bits c.opposite = false → (σ.taskStep success).task.awaits c = true →
        σ.task.awaits c = true ∧ (σ.taskStep success).bits c = σ.bits c) := by
  obtain ⟨bits, task, inProgress, lastCompleted⟩ := σ
  cases task with
  | startWait initial blocked =>
    cases blocked <;> cases initial <;> cases c <;> cases hstart : bits .start <;>
      simp [taskStep, clearBits, hstart, Command.opposite, MlTask.awaits, MlTask.started,
        MlTask.inLoop, MlTask.waitsForStart]
  | stopWait blocked =>
    cases blocked <;> cases c <;> cases hstop : bits .stop <;>
      simp [taskStep, clearBits, hstop, Command.opposite, MlTask.awaits, MlTask.inLoop,
        MlTask.waitsForStart]
  | interfaceInit =>
    cases success <;> cases c <;>
      simp [taskStep, MlTask.awaits, MlTask.inLoop, MlTask.waitsForStart]
  | inference =>
    cases success <;> cases c <;>
      simp [taskStep, MlTask.awaits, MlTask.inLoop, MlTask.waitsForStart]
  | returned => cases c <;> simp [taskStep, MlTask.awaits, MlTask.inLoop, MlTask.waitsForStart]

/-- A bit that is set is there for the task that is in front of its command, and
    the other bit is as before. -/
theorem setBits_spec (σ : Inference) (c : Command) :
    (σ.setBits c).bits c.opposite = σ.bits c.opposite ∧
      ((σ.setBits c).task.awaits c = true → (σ.setBits c).bits c = true) := by
  obtain ⟨bits, task, inProgress, lastCompleted⟩ := σ
  cases task with
  | startWait initial blocked =>
    cases blocked <;> cases initial <;> cases c <;>
      simp [setBits, clearBits, Command.opposite, MlTask.awaits, MlTask.started, MlTask.inLoop,
        MlTask.waitsForStart]
  | stopWait blocked =>
    cases blocked <;> cases c <;>
      simp [setBits, clearBits, Command.opposite, MlTask.awaits, MlTask.inLoop,
        MlTask.waitsForStart]
  | _ => cases c <;> simp [setBits, Command.opposite]

end Bits

/-! ## The protocol -/

/-- The last command `last` has taken back the opposite one, and its bit is
    there for the task. -/
def Settled (σ : Inference) : Option Command → Prop
  | none => ∀ c, σ.bits c = false
  | some c => σ.bits c.opposite = false ∧ (σ.task.awaits c = true → σ.bits c = true)

/-- The invariant: no operation of the command in progress has been made, or the
    first, or both. -/
def Invariant (σ : Inference) : Prop :=
  match σ.inProgress with
  | none => σ.Settled σ.lastCompleted
  | some (c, ops) =>
    (ops = c.operations ∧ σ.Settled σ.lastCompleted) ∨
      (ops = [.xEventGroupSetBits c] ∧ σ.bits c.opposite = false ∧
        (σ.lastCompleted = some c → σ.task.awaits c = true → σ.bits c = true)) ∨
      (ops = [] ∧ σ.Settled (some c))

section Protocol

variable {σ : Inference}

/-- The task sets no bits. -/
theorem bits_taskStep_eq_false (success : Bool) {c : Command} (h : σ.bits c = false) :
    (σ.taskStep success).bits c = false := by
  apply Bool.eq_false_iff.mpr
  intro hbit
  have hbefore := (taskStep_spec success σ c).1 hbit
  rw [h] at hbefore
  exact Bool.false_ne_true hbefore

/-- The task leaves a settled protocol settled. -/
theorem settled_taskStep (success : Bool) {last : Option Command} (h : σ.Settled last) :
    (σ.taskStep success).Settled last := by
  cases last with
  | none =>
    intro c
    exact bits_taskStep_eq_false success (h c)
  | some c =>
    obtain ⟨hopposite, hbit⟩ := h
    constructor
    · exact bits_taskStep_eq_false success hopposite
    · intro hawaits
      obtain ⟨hbefore, heq⟩ := (taskStep_spec success σ c).2 hopposite hawaits
      rw [heq]
      exact hbit hbefore

/-- A step of the task only moves the task and the bits. -/
theorem taskStep_commands (success : Bool) (σ : Inference) :
    (σ.taskStep success).inProgress = σ.inProgress ∧
      (σ.taskStep success).lastCompleted = σ.lastCompleted := by
  unfold taskStep
  split <;> (try split_ifs) <;> exact ⟨rfl, rfl⟩

/-- The ML task keeps the invariant. -/
theorem invariant_taskStep (success : Bool) (h : σ.Invariant) :
    (σ.taskStep success).Invariant := by
  obtain ⟨hprogress, hlast⟩ := taskStep_commands success σ
  unfold Invariant at h ⊢
  rw [hprogress, hlast]
  cases hcall : σ.inProgress with
  | none =>
    rw [hcall] at h
    exact settled_taskStep success h
  | some call =>
    obtain ⟨c, ops⟩ := call
    rw [hcall] at h
    rcases h with ⟨hops, hsettled⟩ | ⟨hops, hopposite, hbit⟩ | ⟨hops, hsettled⟩
    · exact Or.inl ⟨hops, settled_taskStep success hsettled⟩
    · refine Or.inr (Or.inl ⟨hops, ?_, fun hagain hawaits => ?_⟩)
      · exact bits_taskStep_eq_false success hopposite
      · obtain ⟨hbefore, heq⟩ := (taskStep_spec success σ c).2 hopposite hawaits
        rw [heq]
        exact hbit hagain hbefore
    · exact Or.inr (Or.inr ⟨hops, settled_taskStep success hsettled⟩)

/-- The operations of a command keep the invariant. -/
theorem invariant_operate (h : σ.Invariant) : σ.operate.Invariant := by
  unfold Invariant at h
  unfold operate
  cases hcall : σ.inProgress with
  | none =>
    unfold Invariant
    rw [hcall] at h ⊢
    exact h
  | some call =>
    obtain ⟨c, ops⟩ := call
    rw [hcall] at h
    rcases h with ⟨rfl, hsettled⟩ | ⟨rfl, hopposite, -⟩ | ⟨rfl, hsettled⟩
    · rw [c.operations_eq]
      refine Or.inr (Or.inl ⟨rfl, ?_, ?_⟩)
      · exact Function.update_self _ _ _
      · intro hlast hawaits
        have hlast' : σ.lastCompleted = some c := hlast
        rw [hlast'] at hsettled
        have hkept : (σ.clearBits c.opposite).bits c = σ.bits c :=
          Function.update_of_ne c.opposite_ne.symm _ _
        exact hkept.trans (hsettled.2 hawaits)
    · obtain ⟨hkept, hset⟩ := setBits_spec σ c
      exact Or.inr (Or.inr ⟨rfl, hkept.trans hopposite, hset⟩)
    · exact hsettled

/-- The invariant of the protocol. -/
theorem run_invariant (as : List Action) : (run step init as).Invariant := by
  have hinit : init.Invariant := fun _ => rfl
  refine run_inv (I := Invariant) (fun σ a h => ?_) hinit as
  cases a with
  | call c =>
    unfold step
    split_ifs with hnone
    · unfold Invariant at h
      rw [hnone] at h
      exact Or.inl ⟨rfl, h⟩
    · exact h
  | operate => exact invariant_operate h
  | task success => exact invariant_taskStep success h

/-- The bits are not both set in a settled protocol. -/
theorem not_both_of_settled {last : Option Command} (h : σ.Settled last) :
    ¬ (σ.bits .start = true ∧ σ.bits .stop = true) := by
  rintro ⟨hstart, hstop⟩
  cases last with
  | none => exact Bool.false_ne_true ((h .start).symm.trans hstart)
  | some c =>
    cases c with
    | start => exact Bool.false_ne_true (h.1.symm.trans hstop)
    | stop => exact Bool.false_ne_true (h.1.symm.trans hstart)

/-- The bit of the last command is there for the task, as long as the opposite
    command is not called. -/
theorem bit_of_lastCompleted (h : σ.Invariant) {c : Command} (hlast : σ.lastCompleted = some c)
    (hopposite : ∀ ops, σ.inProgress ≠ some (c.opposite, ops))
    (hawaits : σ.task.awaits c = true) : σ.bits c = true := by
  unfold Invariant at h
  cases hcall : σ.inProgress with
  | none =>
    rw [hcall, hlast] at h
    exact h.2 hawaits
  | some call =>
    obtain ⟨d, ops⟩ := call
    obtain rfl : d = c := by
      by_contra hne
      apply hopposite ops
      rw [hcall]
      cases c <;> cases d <;> first | rfl | exact absurd rfl hne
    rw [hcall, hlast] at h
    rcases h with ⟨-, hsettled⟩ | ⟨-, -, hbit⟩ | ⟨-, hsettled⟩
    · exact hsettled.2 hawaits
    · exact hbit rfl hawaits
    · exact hsettled.2 hawaits

end Protocol

/-- The last command has its bit set whenever the task is to see it: a start
    while the task waits for one, a stop while the task is in the loop. -/
structure Obeyed (σ : Inference) : Prop where
  exclusive : σ.inProgress = none → ¬ (σ.bits .start = true ∧ σ.bits .stop = true)
  start : σ.lastCompleted = some .start → σ.task.waitsForStart = true → σ.bits .start = true
  stop : σ.lastCompleted = some .stop → σ.task.inLoop = true → σ.bits .stop = true

/-- The same as long as the opposite command has not been called. -/
structure ObeyedUntilOpposite (σ : Inference) : Prop where
  exclusive : σ.inProgress = none → ¬ (σ.bits .start = true ∧ σ.bits .stop = true)
  start : σ.lastCompleted = some .start → (∀ ops, σ.inProgress ≠ some (.stop, ops)) →
    σ.task.waitsForStart = true → σ.bits .start = true
  stop : σ.lastCompleted = some .stop → (∀ ops, σ.inProgress ≠ some (.start, ops)) →
    σ.task.inLoop = true → σ.bits .stop = true

/-- **No command is lost.** In every interleaving of the operations of the
    commands with the steps of the ML task. -/
theorem commands_obeyed (as : List Action) : (run step init as).ObeyedUntilOpposite := by
  have hinv := run_invariant as
  constructor
  · intro hidle
    unfold Invariant at hinv
    rw [hidle] at hinv
    exact not_both_of_settled hinv
  · intro hlast hopposite hwaits
    exact bit_of_lastCompleted hinv hlast hopposite hwaits
  · intro hlast hopposite hloop
    exact bit_of_lastCompleted hinv hlast hopposite (MlTask.awaits_stop_of_inLoop hloop)

/-- A start is complete, the task has not run, and a stop has made its first
    operation. -/
def stopBegun : List Action :=
  [.call .start, .operate, .operate, .operate, .call .stop, .operate]

/-- The task waits for a start that the stop is taking back. -/
theorem not_obeyed_stopBegun : ¬ (run step init stopBegun).Obeyed := by
  intro h
  exact Bool.false_ne_true (h.start (by decide) (by decide))

end Inference

end Corstone.KeywordDetection
