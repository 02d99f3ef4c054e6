import Corstone.Lib.Memory
import Corstone.Lib.Ring
import Corstone.Lib.Run
import Corstone.Lib.Segment

/-!
# Where the audio graph gets its samples

Models of `DspAudioSource` (`speech_recognition/dsp/src/dsp_interfaces.cpp`) as
the node `MicrophoneSource` uses it, of `vVsiCallbackTask`
(`speech_recognition/main.c`) and of the end of `prvAudioDrvSetup`
(`dsp/src/dsp_task.cc`). The hardware fills the blocks of a ring one after the
other; each time the callback task and then the DSP task are woken. A sample is
modelled by the number of the block that it belongs to. The stores to
`pxOnVsiEvent` and to `pvVsiContext` in `prvAudioDrvSetup` are one step, and the
context is left out: a callback between them, which gets NULL for the source,
is no step of this model.

* `getAll_eq`: without the hardware, the blocks of the clip in turn, from the
  second one on.
* `inOrder_iff`: with it, the DSP task reads all blocks, complete and in order,
  iff there is one callback for each read and no block is overwritten while it is
  read.
-/

namespace Corstone.SpeechRecognition

open Corstone.Lib

/-! ## A clip in memory -/

/-- `DspAudioSource` without `AUDIO_VSI`. -/
structure ClipSource (size : ℕ) where
  audiobuffer : Memory Int16 size
  blockCount : ℕ
  currentBlock : ℕ

namespace ClipSource

variable {size : ℕ}

/-- The source that `vDspTask` makes, with the blocks that the clip has
    (`dsp_task.cc`, lines 171–185). -/
def new (audiobuffer : Memory Int16 size) : ClipSource size where
  audiobuffer := audiobuffer
  blockCount := size / 1600
  currentBlock := 0

/-- `pxGetCurrentBuffer` (lines 56–64), and the samples that the microphone copies
    from there. -/
def get (c : ClipSource size) : Option (List Int16 × ClipSource size) :=
  let c := { c with currentBlock := (c.currentBlock + 1) % c.blockCount }
  (c.audiobuffer.read (c.currentBlock * 1600) 1600).map fun current => (current, c)

/-- What `n` calls give, one after the other. -/
def getAll (c : ClipSource size) : ℕ → Option (List Int16 × ClipSource size)
  | 0 => some ([], c)
  | n + 1 => do
    let (before, c) ← c.getAll n
    let (current, c) ← c.get
    return (before ++ current, c)

/-- The clip, repeated, from its second block on. -/
def signal (m : Memory Int16 size) (i : ℕ) : Int16 :=
  m.cells.getD ((i / 1600 + 1) % (size / 1600) * 1600 + i % 1600) 0

/-- A block of the clip. -/
theorem read_block (m : Memory Int16 size) {k : ℕ} (hsize : 1600 ≤ size) :
    m.read ((k + 1) % (size / 1600) * 1600) 1600 = some (segment (signal m) (1600 * k) 1600) := by
  have hlt : (k + 1) % (size / 1600) < size / 1600 := Nat.mod_lt _ (by omega)
  generalize hblock : (k + 1) % (size / 1600) = block at hlt
  have hinside : block * 1600 + 1600 ≤ size := by omega
  rw [Memory.read_eq_some _ hinside]
  congr 1
  apply List.ext_getElem?
  intro j
  by_cases hj : j < 1600
  · have hdiv : (1600 * k + j) / 1600 = k := by omega
    have hmod : (1600 * k + j) % 1600 = j := by omega
    have hlength := m.length_cells
    rw [getElem?_segment _ _ hj, signal, hdiv, hmod, hblock, List.getElem?_take_of_lt hj,
      List.getElem?_drop, List.getD_eq_getElem?_getD, List.getElem?_eq_getElem (by omega),
      Option.getD_some]
  · rw [List.getElem?_eq_none, List.getElem?_eq_none (by rw [length_segment]; omega)]
    rw [List.length_take]
    omega

/-- The source after `n` calls. -/
def after (m : Memory Int16 size) (n : ℕ) : ClipSource size :=
  ⟨m, size / 1600, n % (size / 1600)⟩

theorem get_after (m : Memory Int16 size) (hsize : 1600 ≤ size) (n : ℕ) :
    (after m n).get = some (segment (signal m) (1600 * n) 1600, after m (n + 1)) := by
  have hnext : (n % (size / 1600) + 1) % (size / 1600) = (n + 1) % (size / 1600) := by
    rw [Nat.mod_add_mod]
  rw [get]
  show (m.read ((n % (size / 1600) + 1) % (size / 1600) * 1600) 1600).map _ = _
  rw [hnext, read_block m hsize, Option.map_some, after, after, hnext]

/-- **The clip.** The calls stay inside the clip, and give its blocks in turn; the
    first one only comes after the others. -/
theorem getAll_eq (m : Memory Int16 size) (hsize : 1600 ≤ size) (n : ℕ) :
    (new m).getAll n = some (segment (signal m) 0 (1600 * n), after m n) := by
  induction n with
  | zero =>
    rw [getAll, segment_zero, after, Nat.zero_mod]
    rfl
  | succ n ih =>
    have hplace : 1600 * (n + 1) = 1600 * n + 1600 := by ring
    simp only [getAll, ih, get_after m hsize, Option.bind_eq_bind, Option.bind_some,
      Option.pure_def]
    rw [hplace, segment_add, Nat.zero_add]

/-- Two blocks, three calls. -/
theorem getAll_eq_two :
    (new (Memory.fill 3200 0)).getAll 3 =
      some (segment (signal (Memory.fill 3200 0)) 0 (1600 * 3), after (Memory.fill 3200 0) 3) :=
  getAll_eq (Memory.fill 3200 0) (by decide) 3

end ClipSource

/-! ## The blocks of the hardware -/

/-- Where the DSP task is in `MicrophoneSource::run`: before `xSemaphoreTake`,
    before `pxGetCurrentBuffer`, or copying from the place in the ring that it has
    been given. `count` are the callbacks until then. -/
inductive Microphone
  | waiting
  | woken
  | copying (count place copied : ℕ)
  deriving DecidableEq

/-- The hardware, the callback task and the DSP task. -/
structure AudioSource where
  /-- The number of the block that each place of the ring holds. -/
  ring : ℕ → Option ℕ
  /-- The blocks that the hardware has completed. -/
  completed : ℕ
  /-- The notification value of the callback task is not zero. -/
  notified : Bool
  /-- `pxOnVsiEvent` is set. -/
  pxOnVsiEvent : Bool
  blockUnderWrite : ℕ
  currentBlock : ℕ
  /-- The calls of `prvNewAudioBlockReceived`. -/
  callbacks : ℕ
  semaphore : Bool
  microphone : Microphone
  /-- The samples of the current read. -/
  samples : List (Option ℕ)
  /-- The reads that have ended, oldest first. -/
  reads : List (List (Option ℕ))

namespace AudioSource

inductive Event
  /-- The hardware has written a block, and `prvArmSaiSignalEvent` notifies. -/
  | interrupt
  /-- `prvAudioDrvSetup` sets the handler (line 113). -/
  | handler
  /-- A pass of the loop of `vVsiCallbackTask`. -/
  | callback
  /-- The DSP task runs on in `MicrophoneSource::run`. -/
  | microphone
  deriving DecidableEq

def init : AudioSource where
  ring := fun _ => none
  completed := 0
  notified := false
  pxOnVsiEvent := false
  blockUnderWrite := 0
  currentBlock := 0
  callbacks := 0
  semaphore := false
  microphone := .waiting
  samples := []
  reads := []

variable (blockCount blockSize : ℕ)

/-- `prvNewAudioBlockReceived` (lines 73–91). -/
def prvNewAudioBlockReceived (σ : AudioSource) : AudioSource :=
  { σ with
    currentBlock := σ.blockUnderWrite
    blockUnderWrite := (σ.blockUnderWrite + 1) % blockCount
    callbacks := σ.callbacks + 1
    semaphore := true }

def step (σ : AudioSource) : Event → AudioSource
  | .interrupt =>
    { σ with
      ring := Ring.put blockCount σ.ring σ.completed (some σ.completed)
      completed := σ.completed + 1
      notified := true }
  | .handler => { σ with pxOnVsiEvent := true }
  | .callback =>
    if σ.notified = true then
      if σ.pxOnVsiEvent = true then
        prvNewAudioBlockReceived blockCount { σ with notified := false }
      else { σ with notified := false }
    else σ
  | .microphone =>
    match σ.microphone with
    | .waiting =>
      if σ.semaphore = true then { σ with semaphore := false, microphone := .woken } else σ
    | .woken => { σ with microphone := .copying σ.callbacks σ.currentBlock 0 }
    | .copying count place i =>
      if i < blockSize then
        { σ with
          samples := σ.samples ++ [σ.ring place]
          microphone := .copying count place (i + 1) }
      else
        { σ with
          reads := σ.reads ++ [σ.samples]
          samples := []
          microphone := .waiting }

/-- The reads have given the blocks in order, each complete, and the current read
    goes on with the next one. -/
def InOrder (σ : AudioSource) : Prop :=
  σ.reads = (List.range σ.reads.length).map (fun k => List.replicate blockSize (some k)) ∧
    ∀ x ∈ σ.samples, x = some σ.reads.length

/-- A sample is copied with one callback for each read, before the hardware gets
    round to the block. -/
def Keeps (σ : AudioSource) : Event → Prop
  | .microphone => ∀ count place i, σ.microphone = .copying count place i → i < blockSize →
      count = σ.reads.length + 1 ∧ σ.completed ≤ σ.reads.length + blockCount
  | _ => True

/-! ### The invariant -/

/-- The signals that have been taken. -/
def taken (σ : AudioSource) : ℕ :=
  σ.reads.length + match σ.microphone with
    | .waiting => 0
    | _ => 1

structure Invariant (σ : AudioSource) : Prop where
  ring : Ring.Holds blockCount σ.ring some σ.completed
  notified : σ.callbacks + σ.notified.toNat ≤ σ.completed
  blockUnderWrite : σ.blockUnderWrite = σ.callbacks % blockCount
  currentBlock : σ.callbacks ≠ 0 → σ.currentBlock = (σ.callbacks - 1) % blockCount
  semaphore : taken σ + σ.semaphore.toNat ≤ σ.callbacks
  copying : ∀ count place i, σ.microphone = .copying count place i →
    σ.reads.length < count ∧ count ≤ σ.callbacks ∧ place = (count - 1) % blockCount ∧
      i ≤ blockSize ∧ σ.samples.length = i
  waiting : (∀ count place i, σ.microphone ≠ .copying count place i) → σ.samples = []

section Steps

variable {blockCount blockSize} {σ : AudioSource}

theorem invariant_init : Invariant blockCount blockSize init where
  ring := Ring.holds_zero _ _ _
  notified := le_rfl
  blockUnderWrite := (Nat.zero_mod _).symm
  currentBlock h := absurd rfl h
  semaphore := le_rfl
  copying _ _ _ h := Microphone.noConfusion h
  waiting _ := rfl

theorem invariant_interrupt (h : Invariant blockCount blockSize σ) :
    Invariant blockCount blockSize (step blockCount blockSize σ .interrupt) := by
  refine { h with ring := h.ring.put, notified := ?_ }
  have hnotified := h.notified
  show σ.callbacks + true.toNat ≤ σ.completed + 1
  rw [Bool.toNat_true]
  omega

theorem invariant_callback (h : Invariant blockCount blockSize σ) :
    Invariant blockCount blockSize (step blockCount blockSize σ .callback) := by
  have hnotified := h.notified
  have hsemaphore := h.semaphore
  rw [step]
  split_ifs with hgiven hset
  · rw [hgiven, Bool.toNat_true] at hnotified
    refine { h with
      notified := hnotified, blockUnderWrite := ?_, currentBlock := ?_, semaphore := ?_
      copying := ?_ }
    · show (σ.blockUnderWrite + 1) % blockCount = (σ.callbacks + 1) % blockCount
      rw [h.blockUnderWrite, Nat.mod_add_mod]
    · intro _
      exact h.blockUnderWrite
    · show taken σ + true.toNat ≤ σ.callbacks + 1
      rw [Bool.toNat_true]
      omega
    · intro count place i hat
      obtain ⟨hlt, hle, hrest⟩ := h.copying count place i hat
      exact ⟨hlt, Nat.le_succ_of_le hle, hrest⟩
  · refine { h with notified := ?_ }
    show σ.callbacks + false.toNat ≤ σ.completed
    rw [Bool.toNat_false]
    omega
  · exact h

theorem invariant_microphone (h : Invariant blockCount blockSize σ) :
    Invariant blockCount blockSize (step blockCount blockSize σ .microphone) := by
  have hsemaphore := h.semaphore
  rw [step]
  cases hat : σ.microphone with
  | waiting =>
    have htaken : taken σ = σ.reads.length := by rw [taken, hat]; rfl
    dsimp only
    split_ifs with hgiven
    · rw [htaken, hgiven, Bool.toNat_true] at hsemaphore
      refine { h with semaphore := hsemaphore, copying := ?_, waiting := ?_ }
      · exact fun _ _ _ hcopying => Microphone.noConfusion hcopying
      · exact fun _ => h.waiting (by simp [hat])
    · exact h
  | woken =>
    have htaken : taken σ = σ.reads.length + 1 := by rw [taken, hat]
    rw [htaken] at hsemaphore
    refine { h with semaphore := hsemaphore, copying := ?_, waiting := ?_ }
    · rintro count place i hcopying
      obtain ⟨rfl, rfl, rfl⟩ := Microphone.copying.inj hcopying
      refine ⟨?_, le_rfl, h.currentBlock ?_, Nat.zero_le _, ?_⟩
      · show σ.reads.length < σ.callbacks
        omega
      · omega
      · show σ.samples.length = 0
        rw [h.waiting (by simp [hat]), List.length_nil]
    · exact fun hnot => absurd rfl (hnot _ _ _)
  | copying count place i =>
    have htaken : taken σ = σ.reads.length + 1 := by rw [taken, hat]
    obtain ⟨hlt, hle, hplace, hi, hlength⟩ := h.copying count place i hat
    rw [htaken] at hsemaphore
    dsimp only
    split_ifs with hmore
    · refine { h with semaphore := hsemaphore, copying := ?_, waiting := ?_ }
      · rintro count' place' i' hcopying
        obtain ⟨rfl, rfl, rfl⟩ := Microphone.copying.inj hcopying
        refine ⟨hlt, hle, hplace, hmore, ?_⟩
        show (σ.samples ++ [σ.ring place]).length = i + 1
        rw [List.length_append, hlength, List.length_singleton]
      · exact fun hnot => absurd rfl (hnot _ _ _)
    · refine { h with semaphore := ?_, copying := ?_, waiting := fun _ => rfl }
      · show (σ.reads ++ [σ.samples]).length + 0 + σ.semaphore.toNat ≤ σ.callbacks
        rw [List.length_append, List.length_singleton]
        omega
      · exact fun _ _ _ hcopying => Microphone.noConfusion hcopying

/-- Every event keeps the invariant. -/
theorem invariant_step (h : Invariant blockCount blockSize σ) (e : Event) :
    Invariant blockCount blockSize (step blockCount blockSize σ e) := by
  cases e with
  | interrupt => exact invariant_interrupt h
  | handler => exact { h with }
  | callback => exact invariant_callback h
  | microphone => exact invariant_microphone h

/-- The last block that the hardware has written to the place of another one. -/
theorem exists_last {n c : ℕ} (hcount : 0 < blockCount) (hc : c < n) :
    ∃ j < n, n ≤ j + blockCount ∧ j % blockCount = c % blockCount := by
  have hdiv := Nat.div_add_mod (n - 1 - c) blockCount
  have hmod := Nat.mod_lt (n - 1 - c) hcount
  refine ⟨c + blockCount * ((n - 1 - c) / blockCount), by omega, by omega, ?_⟩
  exact Nat.add_mul_mod_self_left _ _ _

/-- The DSP task finds the next block at its place iff there was one callback for
    it, and the hardware is not yet back at it. -/
theorem ring_eq_iff (hcount : 0 < blockCount) (h : Invariant blockCount blockSize σ)
    {count place i : ℕ} (hat : σ.microphone = .copying count place i) :
    σ.ring place = some σ.reads.length ↔
      count = σ.reads.length + 1 ∧ σ.completed ≤ σ.reads.length + blockCount := by
  obtain ⟨hlt, hle, hplace, -⟩ := h.copying count place i hat
  have hnotified := h.notified
  constructor
  · intro hring
    obtain ⟨j, hj, hlast, hmod⟩ :=
      exists_last (n := σ.completed) (c := count - 1) hcount (by omega)
    have hholds := h.ring j hj hlast
    rw [hmod, ← hplace, hring] at hholds
    obtain rfl := Option.some.inj hholds
    refine ⟨?_, hlast⟩
    by_contra hne
    exact Ring.mod_ne_mod (m := blockCount) (i := σ.reads.length) (n := count - 1) (by omega)
      (by omega) hmod
  · rintro ⟨rfl, hlast⟩
    rw [hplace, Nat.add_sub_cancel]
    exact h.ring _ (by omega) hlast

/-- An event keeps the reads in order iff it copies from the right place. -/
theorem inOrder_step_iff (hcount : 0 < blockCount) (h : Invariant blockCount blockSize σ)
    (horder : InOrder blockSize σ) (e : Event) :
    InOrder blockSize (step blockCount blockSize σ e) ↔ Keeps blockCount blockSize σ e := by
  cases e with
  | interrupt => exact iff_of_true horder trivial
  | handler => exact iff_of_true horder trivial
  | callback =>
    refine iff_of_true ?_ trivial
    rw [step]
    split_ifs <;> exact horder
  | microphone =>
    cases hat : σ.microphone with
    | waiting =>
      refine iff_of_true ?_ fun _ _ _ hcopying => ?_
      · simp only [step, hat]
        split_ifs <;> exact horder
      · rw [hat] at hcopying
        exact Microphone.noConfusion hcopying
    | woken =>
      refine iff_of_true ?_ fun _ _ _ hcopying => ?_
      · simp only [step, hat]
        exact horder
      · rw [hat] at hcopying
        exact Microphone.noConfusion hcopying
    | copying count place i =>
      obtain ⟨-, -, -, hi, hlength⟩ := h.copying count place i hat
      by_cases hmore : i < blockSize
      · have hkeeps : Keeps blockCount blockSize σ .microphone ↔
            σ.ring place = some σ.reads.length := by
          rw [ring_eq_iff hcount h hat]
          constructor
          · exact fun hkeeps => hkeeps count place i hat hmore
          · intro hplace count' place' i' hat' _
            rw [hat] at hat'
            obtain ⟨rfl, -, -⟩ := Microphone.copying.inj hat'
            exact hplace
        rw [hkeeps]
        simp only [step, hat, if_pos hmore]
        constructor
        · rintro ⟨-, hsamples⟩
          exact hsamples _ (by simp)
        · intro hring
          refine ⟨horder.1, fun x hx => ?_⟩
          rcases List.mem_append.mp hx with hx | hx
          · exact horder.2 x hx
          · exact (List.mem_singleton.mp hx).trans hring
      · refine iff_of_true ?_ fun count' place' i' hat' hmore' => ?_
        · have hread : σ.samples = List.replicate blockSize (some σ.reads.length) :=
            List.eq_replicate_iff.mpr ⟨by omega, horder.2⟩
          simp only [step, hat, if_neg hmore]
          refine ⟨?_, fun x hx => absurd hx List.not_mem_nil⟩
          show σ.reads ++ [σ.samples] = (List.range (σ.reads ++ [σ.samples]).length).map _
          rw [List.length_append, List.length_singleton, List.range_succ, List.map_append,
            ← horder.1, hread]
          rfl
        · rw [hat] at hat'
          obtain ⟨-, -, rfl⟩ := Microphone.copying.inj hat'
          exact absurd hmore' hmore

end Steps

/-- **The blocks of the hardware.** In all states of a run the DSP task has read
    the blocks in order, each complete, iff each sample is copied with one callback
    for each read and before the hardware gets round to its block. -/
theorem inOrder_iff (hcount : 0 < blockCount) (es : List Event) :
    (∀ pre, pre <+: es → InOrder blockSize (run (step blockCount blockSize) init pre)) ↔
      Along (step blockCount blockSize) (Keeps blockCount blockSize) init es := by
  apply forall_prefix_iff_along_of_inv (I := Invariant blockCount blockSize)
    (J := InOrder blockSize)
  · exact fun _ e h => invariant_step h e
  · exact fun _ e h horder => inOrder_step_iff hcount h horder e
  · exact invariant_init
  · exact ⟨rfl, fun x hx => absurd hx List.not_mem_nil⟩

/-- The first block, then two interrupts that one callback handles. -/
theorem inOrder_iff_four :
    (∀ pre, pre <+: [.handler, .interrupt, .callback, .microphone, .microphone, .microphone,
        .microphone, .interrupt, .interrupt, .callback] →
      InOrder 1 (run (step 4 1) init pre)) ↔
    Along (step 4 1) (Keeps 4 1) init [.handler, .interrupt, .callback, .microphone, .microphone,
      .microphone, .microphone, .interrupt, .interrupt, .callback] :=
  inOrder_iff 4 1 (by decide) _

end AudioSource

end Corstone.SpeechRecognition
