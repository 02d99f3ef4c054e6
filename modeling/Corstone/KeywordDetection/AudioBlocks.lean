import Corstone.KeywordDetection.SlidingWindow

/-!
# From the audio interrupts to the sliding window

Models of `prvArmSaiSignalEvent`, the end of `prvAudioDrvSetup`
(`keyword_detection/ml_interface.cc`) and `vVsiCallbackTask`
(`keyword_detection/main.c`). The interrupt leaves its event in `ulVsiEvent` and
notifies the task; the task takes all notifications at once and looks at the
event afterwards. The two stores at the end of `prvAudioDrvSetup`, to
`pxOnVsiEvent` and to `pvVsiContext`, are one step, and the context that is
handed to the callback is left out: a pass of the task between the two stores,
with a context that is still NULL, is no step of this model.

* `accounted_iff`: the blocks that the task has signalled and still owes.
* `blocks_accounted_iff`: every completed block is signalled, in all states of a
  run, iff every interrupt of the run finds the event of the last one handled,
  or one that comes to the same.
* `not_accounted_burst`: two blocks are completed before the task runs.
-/

namespace Corstone.KeywordDetection

open Corstone.Lib

/-- The bits of an audio event that the task tests. -/
structure SaiEvent where
  receiveComplete : Bool
  rxOverflow : Bool

/-- Where `vVsiCallbackTask` is: at `ulTaskNotifyTake`, or before the first or
    the second test of `ulVsiEvent`. -/
inductive VsiCallbackTask
  | notifyTake | testReceive | testOverflow
  deriving DecidableEq

/-- The path of an audio event. -/
structure AudioBlocks where
  members : CircularSlidingWindow.Members
  xVsiTaskHandle : Bool
  pxOnVsiEvent : Bool
  ulVsiEvent : SaiEvent
  /-- The notification value of the task. -/
  notified : UInt32
  task : VsiCallbackTask
  /-- The blocks that the hardware has completed. -/
  completed : ℕ
  /-- The calls of `prvSignalBlockWritten`. -/
  signalled : ℕ
  rxOverflowErrors : ℕ

namespace AudioBlocks

def init (created : Bool) : AudioBlocks where
  members := .constructed created
  xVsiTaskHandle := false
  pxOnVsiEvent := false
  ulVsiEvent := ⟨false, false⟩
  notified := 0
  task := .notifyTake
  completed := 0
  signalled := 0
  rxOverflowErrors := 0

/-- `prvArmSaiSignalEvent` (lines 323–337), with the block that the event
    completes. -/
def prvArmSaiSignalEvent (event : SaiEvent) (σ : AudioBlocks) : AudioBlocks :=
  let σ := { σ with completed := σ.completed + event.receiveComplete.toNat }
  if σ.xVsiTaskHandle = false then σ
  else { σ with ulVsiEvent := event, notified := σ.notified + 1 }

variable (w : CircularSlidingWindow)

/-- `vVsiCallbackTask` runs on (lines 356–374). -/
def vVsiCallbackTask (σ : AudioBlocks) : AudioBlocks :=
  match σ.task with
  | .notifyTake => if σ.notified = 0 then σ else { σ with notified := 0, task := .testReceive }
  | .testReceive =>
    if σ.ulVsiEvent.receiveComplete = true ∧ σ.pxOnVsiEvent = true then
      { σ with
        members := w.prvSignalBlockWritten σ.members
        signalled := σ.signalled + 1
        task := .testOverflow }
    else { σ with task := .testOverflow }
  | .testOverflow =>
    { σ with
      rxOverflowErrors := σ.rxOverflowErrors + σ.ulVsiEvent.rxOverflow.toNat
      task := .notifyTake }

inductive Action
  /-- `prvStartVsiCallbackTask`: `xTaskCreate` succeeds or not. -/
  | prvStartVsiCallbackTask (created : Bool)
  /-- `prvAudioDrvSetup` is done. The receiver has been started before. -/
  | prvAudioDrvSetup
  | prvArmSaiSignalEvent (event : SaiEvent)
  | task

def step (σ : AudioBlocks) : Action → AudioBlocks
  | .prvStartVsiCallbackTask created => { σ with xVsiTaskHandle := σ.xVsiTaskHandle || created }
  | .prvAudioDrvSetup => { σ with pxOnVsiEvent := true }
  | .prvArmSaiSignalEvent event => prvArmSaiSignalEvent event σ
  | .task => if σ.xVsiTaskHandle = true then vVsiCallbackTask w σ else σ

/-! ## The account -/

/-- The task has handled all notifications. -/
def Handled (σ : AudioBlocks) : Prop := σ.task = .notifyTake ∧ σ.notified = 0

instance (σ : AudioBlocks) : Decidable (Handled σ) := inferInstanceAs (Decidable (_ ∧ _))

/-- When the task has handled all pending notifications, every completed block
    has been signalled, and no other. -/
def Accounted (σ : AudioBlocks) : Prop :=
  ∀ k, Handled (run (step w) σ (List.replicate k .task)) →
    (run (step w) σ (List.replicate k .task)).signalled = σ.completed ∧
      (run (step w) σ (List.replicate k .task)).members.blockUnderWrite =
        σ.completed % w.blockCount

/-- The blocks that the task still signals: one if it is about to test the event,
    and one if it is notified. -/
def owed (σ : AudioBlocks) : ℕ :=
  if σ.ulVsiEvent.receiveComplete = true ∧ σ.pxOnVsiEvent = true then
    (if σ.task = .testReceive then 1 else 0) + (if σ.notified = 0 then 0 else 1)
  else 0

/-- The interrupt does no harm. Without the task or its handler the event must
    not complete a block. With them, an event that the task has not been notified
    of yet is not overwritten if it completed a block, and an event that the task
    is about to test is overwritten by one that does as much. The last
    notification may be the one that lets the value wrap. -/
def InterruptCondition (σ : AudioBlocks) (event : SaiEvent) : Prop :=
  if σ.xVsiTaskHandle = true ∧ σ.pxOnVsiEvent = true then
    if σ.task = .testReceive then
      if σ.notified = 0 then event.receiveComplete = σ.ulVsiEvent.receiveComplete
      else σ.ulVsiEvent.receiveComplete = false ∧
        (event.receiveComplete = true → σ.notified + 1 = 0)
    else
      σ.notified ≠ 0 → σ.ulVsiEvent.receiveComplete = false ∧
        (event.receiveComplete = true → σ.notified + 1 ≠ 0)
  else event.receiveComplete = false

def Condition (σ : AudioBlocks) : Action → Prop
  | .prvArmSaiSignalEvent event => InterruptCondition σ event
  | _ => True

/-- What holds in every run. -/
structure Invariant (σ : AudioBlocks) : Prop where
  underWrite : σ.members.blockUnderWrite = σ.signalled % w.blockCount
  noTask : σ.xVsiTaskHandle = false → Handled σ
  noHandler : σ.pxOnVsiEvent = false → σ.signalled = 0
  event : σ.ulVsiEvent.receiveComplete = true → σ.completed ≠ 0

section Account

variable {w} {σ : AudioBlocks}

theorem invariant_init (created : Bool) : Invariant w (init created) where
  underWrite := (Nat.zero_mod _).symm
  noTask _ := ⟨rfl, rfl⟩
  noHandler _ := rfl
  event h := absurd h Bool.false_ne_true

/-- A step keeps the invariant. -/
theorem invariant_step (h : Invariant w σ) (a : Action) : Invariant w (step w σ a) := by
  cases a with
  | prvStartVsiCallbackTask created =>
    refine ⟨h.underWrite, fun hnone => ?_, h.noHandler, h.event⟩
    exact h.noTask (Bool.or_eq_false_iff.mp hnone).1
  | prvAudioDrvSetup =>
    exact ⟨h.underWrite, h.noTask, fun hnone => absurd hnone Bool.true_eq_false.mp, h.event⟩
  | prvArmSaiSignalEvent event =>
    show Invariant w (prvArmSaiSignalEvent event σ)
    unfold prvArmSaiSignalEvent
    dsimp only
    split_ifs with hnone
    · refine ⟨h.underWrite, fun _ => h.noTask hnone, h.noHandler, fun hevent => ?_⟩
      have hcompleted := h.event hevent
      show σ.completed + event.receiveComplete.toNat ≠ 0
      omega
    · refine ⟨h.underWrite, fun hnone' => absurd hnone' hnone, h.noHandler, fun hevent => ?_⟩
      have hevent' : event.receiveComplete = true := hevent
      show σ.completed + event.receiveComplete.toNat ≠ 0
      rw [hevent', Bool.toNat_true]
      omega
  | task =>
    unfold step
    split_ifs with htask
    · unfold vVsiCallbackTask
      have hsome : σ.xVsiTaskHandle ≠ false := fun hnone =>
        Bool.false_ne_true (hnone.symm.trans htask)
      cases hat : σ.task with
      | notifyTake =>
        dsimp only
        split_ifs
        · exact h
        · exact ⟨h.underWrite, fun hnone => absurd hnone hsome, h.noHandler, h.event⟩
      | testReceive =>
        dsimp only
        split_ifs with hreceive
        · refine ⟨?_, fun hnone => absurd hnone hsome, fun hnone => ?_, h.event⟩
          · show (σ.members.blockUnderWrite + 1) % w.blockCount = (σ.signalled + 1) % w.blockCount
            rw [h.underWrite, Nat.mod_add_mod]
          · exact absurd (hnone.symm.trans hreceive.2) Bool.false_ne_true
        · exact ⟨h.underWrite, fun hnone => absurd hnone hsome, h.noHandler, h.event⟩
      | testOverflow =>
        exact ⟨h.underWrite, fun hnone => absurd hnone hsome, h.noHandler, h.event⟩
    · exact h

/-- A step of the task moves a block from the owed to the signalled ones, or
    nothing. -/
theorem account_task (σ : AudioBlocks) :
    (step w σ .task).completed = σ.completed ∧
      (step w σ .task).signalled + owed (step w σ .task) = σ.signalled + owed σ := by
  unfold step
  split_ifs with htask
  · unfold vVsiCallbackTask owed
    cases hat : σ.task with
    | notifyTake =>
      by_cases hnotified : σ.notified = 0
      · simp [hnotified, hat]
      · simp [hnotified]
    | testReceive =>
      by_cases hreceive : σ.ulVsiEvent.receiveComplete = true ∧ σ.pxOnVsiEvent = true
      · simp only [hreceive, and_self, if_true]
        refine ⟨trivial, ?_⟩
        simp
        omega
      · simp [hreceive]
    | testOverflow => simp
  · exact ⟨rfl, rfl⟩

/-- The same for several steps. -/
theorem account_tasks (σ : AudioBlocks) (k : ℕ) :
    (run (step w) σ (List.replicate k .task)).completed = σ.completed ∧
      (run (step w) σ (List.replicate k .task)).signalled +
          owed (run (step w) σ (List.replicate k .task)) = σ.signalled + owed σ := by
  induction k generalizing σ with
  | zero => exact ⟨rfl, rfl⟩
  | succ k ih =>
    obtain ⟨hcompleted, hsum⟩ := account_task (w := w) σ
    obtain ⟨hcompleted', hsum'⟩ := ih (step w σ .task)
    rw [List.replicate_succ, run_cons]
    exact ⟨hcompleted'.trans hcompleted, hsum'.trans hsum⟩

/-- The state of the task after a step. -/
theorem task_step (htask : σ.xVsiTaskHandle = true) :
    (step w σ .task).xVsiTaskHandle = true ∧
      (step w σ .task).task =
        (match σ.task with
        | .notifyTake => if σ.notified = 0 then .notifyTake else .testReceive
        | .testReceive => .testOverflow
        | .testOverflow => .notifyTake) ∧
      (step w σ .task).notified = if σ.task = .notifyTake then 0 else σ.notified := by
  unfold step
  rw [if_pos htask]
  unfold vVsiCallbackTask
  cases hat : σ.task with
  | notifyTake => by_cases hnotified : σ.notified = 0 <;> simp [hnotified, htask, hat]
  | testReceive =>
    by_cases hreceive : σ.ulVsiEvent.receiveComplete = true ∧ σ.pxOnVsiEvent = true <;>
      simp [hreceive, htask]
  | testOverflow => simp [htask]

/-- The task has handled everything after five steps without an interrupt. -/
theorem handled_tasks (h : Invariant w σ) :
    ∃ k, Handled (run (step w) σ (List.replicate k .task)) := by
  by_cases htask : σ.xVsiTaskHandle = true
  · refine ⟨5, ?_⟩
    obtain ⟨htask₁, hat₁, hnotified₁⟩ := task_step (w := w) htask
    obtain ⟨htask₂, hat₂, hnotified₂⟩ := task_step (w := w) htask₁
    obtain ⟨htask₃, hat₃, hnotified₃⟩ := task_step (w := w) htask₂
    obtain ⟨htask₄, hat₄, hnotified₄⟩ := task_step (w := w) htask₃
    obtain ⟨-, hat₅, hnotified₅⟩ := task_step (w := w) htask₄
    show Handled (step w (step w (step w (step w (step w σ .task) .task) .task) .task) .task)
    unfold Handled
    cases hat : σ.task with
    | notifyTake => by_cases hnotified : σ.notified = 0 <;> simp_all
    | testReceive => by_cases hnotified : σ.notified = 0 <;> simp_all
    | testOverflow => by_cases hnotified : σ.notified = 0 <;> simp_all
  · exact ⟨0, h.noTask (Bool.eq_false_iff.mpr htask)⟩

/-- **The account.** Every completed block is signalled when the task is done iff
    the signalled and the owed blocks are the completed ones. -/
theorem accounted_iff (h : Invariant w σ) :
    Accounted w σ ↔ σ.signalled + owed σ = σ.completed := by
  have hdone : ∀ k, Handled (run (step w) σ (List.replicate k .task)) →
      (run (step w) σ (List.replicate k .task)).signalled = σ.signalled + owed σ := by
    rintro k ⟨hat, hnotified⟩
    rw [← (account_tasks σ k).2, owed, hat, hnotified]
    simp
  constructor
  · intro haccounted
    obtain ⟨k, hhandled⟩ := handled_tasks h
    rw [← hdone k hhandled]
    exact (haccounted k hhandled).1
  · intro hsum k hhandled
    have hsignalled := (hdone k hhandled).trans hsum
    refine ⟨hsignalled, ?_⟩
    have hinv : Invariant w (run (step w) σ (List.replicate k .task)) :=
      run_inv (I := Invariant w) (fun _ a h => invariant_step h a) h _
    rw [hinv.underWrite, hsignalled]

/-- An interrupt keeps the account iff it meets the condition. -/
theorem account_interrupt_iff (hsum : σ.signalled + owed σ = σ.completed)
    (event : SaiEvent) :
    (prvArmSaiSignalEvent event σ).signalled + owed (prvArmSaiSignalEvent event σ) =
        (prvArmSaiSignalEvent event σ).completed ↔ InterruptCondition σ event := by
  have hone : (0 : UInt32) + 1 ≠ 0 := by decide
  unfold prvArmSaiSignalEvent InterruptCondition owed
  unfold owed at hsum
  by_cases htask : σ.xVsiTaskHandle = true
  · by_cases hhandler : σ.pxOnVsiEvent = true
    · by_cases hat : σ.task = .testReceive <;> by_cases hnotified : σ.notified = 0 <;>
        by_cases hwrap : σ.notified + 1 = 0 <;>
        cases hword : σ.ulVsiEvent.receiveComplete <;> cases hevent : event.receiveComplete <;>
        simp_all <;> omega
    · have hnone : σ.pxOnVsiEvent = false := Bool.eq_false_iff.mpr hhandler
      cases hevent : event.receiveComplete <;> simp_all
  · have hnone : σ.xVsiTaskHandle = false := Bool.eq_false_iff.mpr htask
    cases hevent : event.receiveComplete <;> simp_all

/-- A step keeps the account iff it meets the condition. -/
theorem account_step_iff (h : Invariant w σ) (hsum : σ.signalled + owed σ = σ.completed)
    (a : Action) :
    (step w σ a).signalled + owed (step w σ a) = (step w σ a).completed ↔ Condition σ a := by
  cases a with
  | prvStartVsiCallbackTask created => exact iff_of_true hsum trivial
  | prvAudioDrvSetup =>
    refine iff_of_true ?_ trivial
    show σ.signalled + owed { σ with pxOnVsiEvent := true } = σ.completed
    cases hhandler : σ.pxOnVsiEvent with
    | true =>
      have hsame : { σ with pxOnVsiEvent := true } = σ := by rw [← hhandler]
      rw [hsame]
      exact hsum
    | false =>
      -- Before the handler is there, no block may have been completed.
      have hnone : σ.completed = 0 := by
        rw [← hsum, h.noHandler hhandler, owed, hhandler]
        simp
      have hevent : σ.ulVsiEvent.receiveComplete ≠ true := fun hevent => h.event hevent hnone
      rw [hnone, h.noHandler hhandler, owed, if_neg fun hreceive => hevent hreceive.1]
  | prvArmSaiSignalEvent event => exact account_interrupt_iff hsum event
  | task =>
    obtain ⟨hcompleted, hkept⟩ := account_task (w := w) σ
    exact iff_of_true (hkept.trans (hsum.trans hcompleted.symm)) trivial

end Account

/-! ## Runs -/

/-- **Audio blocks.** In all states of a run every completed block is signalled
    once the pending notifications are handled, iff every interrupt of the run
    meets the condition. -/
theorem blocks_accounted_iff (created : Bool) (as : List Action) :
    (∀ pre, pre <+: as → Accounted w (run (step w) (init created) pre)) ↔
      Along (step w) Condition (init created) as := by
  apply forall_prefix_iff_along_of_inv (I := Invariant w) (J := Accounted w)
  · exact fun _ a h => invariant_step h a
  · intro σ a h haccounted
    rw [accounted_iff (invariant_step h a)]
    exact account_step_iff h ((accounted_iff h).mp haccounted) a
  · exact invariant_init created
  · rw [accounted_iff (invariant_init created)]
    rfl

/-- The receiver runs, and two blocks are completed before the task is. -/
def burst : List Action :=
  [.prvStartVsiCallbackTask true, .prvAudioDrvSetup, .prvArmSaiSignalEvent ⟨true, false⟩,
    .prvArmSaiSignalEvent ⟨true, false⟩]

/-- One of the two blocks is forgotten. -/
theorem not_accounted_burst :
    ¬ Accounted Recording.threeBlocks (run (step Recording.threeBlocks) (init true) burst) := by
  intro h
  have hsignalled := (h 3 (by decide)).1
  revert hsignalled
  decide

end AudioBlocks

end Corstone.KeywordDetection
