import Corstone.Lib.Ring
import Corstone.Lib.Run

/-!
# The sliding window over the recorded audio

Models of `CircularSlidingWindow` (`keyword_detection/ml_interface.cc`). The
audio hardware writes the samples into the ring of blocks one after the other,
and `prvSignalBlockWritten` counts the blocks. The ML task waits in `next` until
no block of its window is under write, and copies the window sample by sample.
All three take their steps in any order.

* `copies_eq`: the copies of a window are those of consecutive samples.
* `invariant_step`: a step keeps the invariant of reader and writer.
* `windows_delivered`: the windows that `next` delivers.
-/

namespace Corstone.KeywordDetection

open Corstone.Lib

/-- The arguments that the constructor accepts (lines 389–404), in samples. -/
structure CircularSlidingWindow where
  blockSize : ℕ
  blockCount : ℕ
  windowSize : ℕ
  strideSize : ℕ
  stride_lt_block : strideSize < blockSize
  stride_lt_window : strideSize < windowSize
  window_lt_block : windowSize < blockSize
  block_mod_stride : blockSize % strideSize = 0
  window_mod_stride : windowSize % strideSize = 0

namespace CircularSlidingWindow

/-- `prvStrideCount` (lines 499–502). -/
def prvStrideCount (w : CircularSlidingWindow) : ℕ := w.blockSize * w.blockCount / w.strideSize

/-- `prvStridesPerBlock` (lines 504–507). -/
def prvStridesPerBlock (w : CircularSlidingWindow) : ℕ := w.blockSize / w.strideSize

/-- The members that change. The semaphore is `NULL` or given or taken. -/
structure Members where
  blockUnderWrite : ℕ
  currentStride : ℕ
  xSlidingWindowSemaphore : Option Bool

/-- The members after the constructor, which may fail to create the semaphore. -/
def Members.constructed (created : Bool) : Members where
  blockUnderWrite := 0
  currentStride := 0
  xSlidingWindowSemaphore := if created then some true else none

/-- `prvSignalBlockWritten` (lines 459–478). -/
def prvSignalBlockWritten (w : CircularSlidingWindow) (m : Members) : Members :=
  { m with
    blockUnderWrite := (m.blockUnderWrite + 1) % w.blockCount
    xSlidingWindowSemaphore := m.xSlidingWindowSemaphore.map fun _ => true }

/-- The block that contains the stride (line 417). -/
def firstBlock (w : CircularSlidingWindow) (m : Members) : ℕ :=
  m.currentStride / w.prvStridesPerBlock

/-- The block that contains the end of the window (line 418). -/
def lastBlock (w : CircularSlidingWindow) (m : Members) : ℕ :=
  (m.currentStride * w.strideSize + w.windowSize - 1) / w.blockSize % w.blockCount

/-- `std::copy` of `count` samples: the places in the buffer and in `dest`. -/
def copyRange (source dest count : ℕ) : List (ℕ × ℕ) :=
  (List.range count).map fun i => (source + i, dest + i)

/-- The copies of `next` (lines 435–451). -/
def copies (w : CircularSlidingWindow) (m : Members) : List (ℕ × ℕ) :=
  let start := m.currentStride * w.strideSize
  if w.lastBlock m < w.firstBlock m then
    let bufferEnd := w.blockSize * w.blockCount
    let offset := bufferEnd - start
    copyRange start 0 offset ++ copyRange 0 offset (w.windowSize - offset)
  else copyRange start 0 w.windowSize

/-- The members after the last lines of `next` (lines 453–455). -/
def advance (w : CircularSlidingWindow) (m : Members) : Members :=
  { m with currentStride := (m.currentStride + 1) % w.prvStrideCount }

/-! ## The arithmetic of the ring -/

section Arithmetic

variable (w : CircularSlidingWindow) {m : Members} {n : ℕ}

theorem stride_pos : 0 < w.strideSize := by
  rcases Nat.eq_zero_or_pos w.strideSize with hzero | hpos
  · have hmod := w.block_mod_stride
    have hlt := w.stride_lt_block
    rw [hzero, Nat.mod_zero] at hmod
    omega
  · exact hpos

theorem block_pos : 0 < w.blockSize := lt_of_le_of_lt (Nat.zero_le _) w.stride_lt_block

theorem stridesPerBlock_mul_stride : w.prvStridesPerBlock * w.strideSize = w.blockSize :=
  Nat.div_mul_cancel (Nat.dvd_of_mod_eq_zero w.block_mod_stride)

theorem prvStrideCount_mul_stride :
    w.prvStrideCount * w.strideSize = w.blockSize * w.blockCount :=
  Nat.div_mul_cancel (Dvd.dvd.mul_right (Nat.dvd_of_mod_eq_zero w.block_mod_stride) _)

theorem prvStrideCount_eq : w.prvStrideCount = w.prvStridesPerBlock * w.blockCount := by
  apply Nat.eq_of_mul_eq_mul_right w.stride_pos
  rw [prvStrideCount_mul_stride, Nat.mul_right_comm, stridesPerBlock_mul_stride]

/-- The place of the window in the buffer. -/
theorem start_eq (hm : m.currentStride = n % w.prvStrideCount) :
    m.currentStride * w.strideSize = n * w.strideSize % (w.blockSize * w.blockCount) := by
  rw [hm, ← prvStrideCount_mul_stride, Nat.mul_mod_mul_right]

theorem firstBlock_eq (hm : m.currentStride = n % w.prvStrideCount) :
    w.firstBlock m = n * w.strideSize / w.blockSize % w.blockCount := by
  unfold firstBlock
  rw [hm, prvStrideCount_eq, Nat.mod_mul_right_div_self, ← stridesPerBlock_mul_stride,
    Nat.mul_div_mul_right _ _ w.stride_pos]

theorem lastBlock_eq (hm : m.currentStride = n % w.prvStrideCount) :
    w.lastBlock m = (n * w.strideSize + w.windowSize - 1) / w.blockSize % w.blockCount := by
  have hwindow : 0 < w.windowSize := lt_of_le_of_lt (Nat.zero_le _) w.stride_lt_window
  have hsplit := Nat.div_add_mod (n * w.strideSize) (w.blockSize * w.blockCount)
  unfold lastBlock
  rw [start_eq w hm]
  generalize n * w.strideSize % (w.blockSize * w.blockCount) = r at hsplit ⊢
  generalize n * w.strideSize / (w.blockSize * w.blockCount) = t at hsplit
  have hsum : n * w.strideSize + w.windowSize - 1 =
      r + w.windowSize - 1 + w.blockSize * (w.blockCount * t) := by
    rw [← hsplit, Nat.mul_assoc]
    omega
  rw [hsum, Nat.add_mul_div_left _ _ w.block_pos, Nat.add_mul_mod_self_left]

/-- A window spans two blocks at most. -/
theorem lastBlock_le :
    (n * w.strideSize + w.windowSize - 1) / w.blockSize ≤ n * w.strideSize / w.blockSize + 1 := by
  have hwindow := w.window_lt_block
  rw [← Nat.add_div_right _ w.block_pos]
  exact Nat.div_le_div_right (by omega)

/-- The next window starts in a block of this one. -/
theorem next_firstBlock_le :
    (n + 1) * w.strideSize / w.blockSize ≤
      (n * w.strideSize + w.windowSize - 1) / w.blockSize := by
  have hwindow := w.stride_lt_window
  rw [Nat.succ_mul]
  exact Nat.div_le_div_right (by omega)

/-- **The copies of a window**, also where it wraps from the end of the buffer to
    its start. -/
theorem copies_eq (hblocks : 2 ≤ w.blockCount) (hm : m.currentStride = n % w.prvStrideCount) :
    w.copies m = (List.range w.windowSize).map fun i =>
      ((n * w.strideSize + i) % (w.blockSize * w.blockCount), i) := by
  have hwindow := w.window_lt_block
  have hpos : 0 < w.windowSize := lt_of_le_of_lt (Nat.zero_le _) w.stride_lt_window
  have hring : 2 * w.blockSize ≤ w.blockSize * w.blockCount := by
    rw [Nat.mul_comm]
    exact Nat.mul_le_mul_left _ hblocks
  have hplace : ∀ i, (n * w.strideSize + i) % (w.blockSize * w.blockCount) =
      (m.currentStride * w.strideSize + i) % (w.blockSize * w.blockCount) := by
    intro i
    rw [start_eq w hm, Nat.mod_add_mod]
  have hfirst : w.firstBlock m = m.currentStride * w.strideSize / w.blockSize := by
    unfold firstBlock
    rw [← stridesPerBlock_mul_stride, Nat.mul_div_mul_right _ _ w.stride_pos]
  have hstart : m.currentStride * w.strideSize < w.blockSize * w.blockCount := by
    rw [start_eq w hm]
    exact Nat.mod_lt _ (by omega)
  unfold copies lastBlock
  rw [hfirst]
  simp only [hplace]
  generalize m.currentStride * w.strideSize = start at hstart ⊢
  by_cases hfits : start + w.windowSize ≤ w.blockSize * w.blockCount
  · have hlast : (start + w.windowSize - 1) / w.blockSize < w.blockCount := by
      rw [Nat.div_lt_iff_lt_mul w.block_pos, Nat.mul_comm]
      omega
    have hle : start / w.blockSize ≤ (start + w.windowSize - 1) / w.blockSize :=
      Nat.div_le_div_right (by omega)
    rw [Nat.mod_eq_of_lt hlast, if_neg (by omega)]
    unfold copyRange
    apply List.map_congr_left
    intro i hi
    have hi' := List.mem_range.mp hi
    rw [Nat.mod_eq_of_lt (by omega), Nat.zero_add]
  · have hlast : (start + w.windowSize - 1) / w.blockSize = w.blockCount := by
      apply Nat.div_eq_of_lt_le
      · rw [Nat.mul_comm]
        omega
      · rw [Nat.succ_mul, Nat.mul_comm w.blockCount]
        omega
    have hfirst' : 0 < start / w.blockSize := Nat.div_pos (by omega) w.block_pos
    rw [hlast, Nat.mod_self, if_pos hfirst']
    obtain ⟨offset, hoffset⟩ : ∃ offset, w.blockSize * w.blockCount - start = offset := ⟨_, rfl⟩
    have hsplit : w.windowSize = offset + (w.windowSize - offset) := by omega
    rw [hoffset]
    nth_rewrite 2 [hsplit]
    rw [List.range_add, List.map_append, List.map_map]
    unfold copyRange
    congr 1
    · apply List.map_congr_left
      intro i hi
      have hi' := List.mem_range.mp hi
      rw [Nat.mod_eq_of_lt (by omega), Nat.zero_add]
    · apply List.map_congr_left
      intro i hi
      have hi' := List.mem_range.mp hi
      have hwrap : start + (offset + i) = i + w.blockSize * w.blockCount := by omega
      show (0 + i, offset + i) = ((start + (offset + i)) % (w.blockSize * w.blockCount), offset + i)
      rw [hwrap, Nat.add_mod_right, Nat.mod_eq_of_lt (by omega), Nat.zero_add]

end Arithmetic

end CircularSlidingWindow

/-- Where the ML task is. -/
inductive Reader
  | processing
  /-- In `next`, at the test of the first or of the last block. -/
  | testFirst | testLast
  /-- At `xSemaphoreTake`. -/
  | semaphoreTake
  /-- In `std::copy`, with the copies to come. -/
  | copying (todo : List (ℕ × ℕ))

/-- The sliding window with the buffer, the writer and the reader. -/
structure Recording (α : Type) where
  members : CircularSlidingWindow.Members
  buffer : ℕ → α
  /-- The samples that the hardware has written. -/
  recorded : ℕ
  /-- The blocks that have been signalled. -/
  signalled : ℕ
  reader : Reader
  dest : ℕ → α
  /-- The windows that `next` has delivered. -/
  delivered : List (List α)

namespace Recording

variable {α : Type}

def init (created : Bool) (memory : ℕ → α) : Recording α where
  members := .constructed created
  buffer := memory
  recorded := 0
  signalled := 0
  reader := .processing
  dest := memory
  delivered := []

inductive Action
  /-- The hardware writes the next sample. -/
  | record
  | prvSignalBlockWritten
  /-- The ML task runs on in `next`, or calls it. -/
  | next

variable (w : CircularSlidingWindow) (stream : ℕ → α)

/-- A step of the ML task (lines 414–456). Without blocks the first division
    traps. -/
def nextStep (σ : Recording α) : Recording α :=
  match σ.reader with
  | .processing => if w.blockCount = 0 then σ else { σ with reader := .testFirst }
  | .testFirst =>
    if w.firstBlock σ.members = σ.members.blockUnderWrite then { σ with reader := .semaphoreTake }
    else { σ with reader := .testLast }
  | .testLast =>
    if w.lastBlock σ.members = σ.members.blockUnderWrite then { σ with reader := .semaphoreTake }
    else { σ with reader := .copying (w.copies σ.members) }
  | .semaphoreTake =>
    match σ.members.xSlidingWindowSemaphore with
    | none => { σ with reader := .testFirst }
    | some false => σ
    | some true =>
      { σ with
        members := { σ.members with xSlidingWindowSemaphore := some false }
        reader := .testFirst }
  | .copying ((source, dest) :: todo) =>
    { σ with
      dest := Function.update σ.dest dest (σ.buffer source)
      reader := .copying todo }
  | .copying [] =>
    { σ with
      members := w.advance σ.members
      reader := .processing
      delivered := σ.delivered ++ [(List.range w.windowSize).map σ.dest] }

/-- One step. A block is signalled once, after its last sample. -/
def step (σ : Recording α) : Action → Recording α
  | .record =>
    { σ with
      buffer := Ring.put (w.blockSize * w.blockCount) σ.buffer σ.recorded (stream σ.recorded)
      recorded := σ.recorded + 1 }
  | .prvSignalBlockWritten =>
    if (σ.signalled + 1) * w.blockSize ≤ σ.recorded then
      { σ with members := w.prvSignalBlockWritten σ.members, signalled := σ.signalled + 1 }
    else σ
  | .next => nextStep w σ

/-- The first sample of the window that the ML task reads, or reads next. -/
def windowStart (σ : Recording α) : ℕ := σ.delivered.length * w.strideSize

/-- The hardware does not start to overwrite the block that holds the start of
    the window. -/
def NotOverwritten (σ : Recording α) : Action → Prop
  | .record =>
    σ.recorded % w.blockSize = 0 →
      σ.recorded / w.blockSize % w.blockCount = windowStart w σ / w.blockSize % w.blockCount →
      σ.recorded / w.blockSize ≤ windowStart w σ / w.blockSize
  | _ => True

/-- A copy stays within the buffer and within `dest`. -/
def InBounds (σ : Recording α) : Action → Prop
  | .next =>
    ∀ source dest todo, σ.reader = .copying ((source, dest) :: todo) →
      source < w.blockSize * w.blockCount ∧ dest < w.windowSize
  | _ => True

/-! ## The invariant -/

/-- The samples `[n * stride, n * stride + window)`. -/
def window (n : ℕ) : List α :=
  (List.range w.windowSize).map fun i => stream (n * w.strideSize + i)

/-- The copies of the window that starts at the sample `start`. -/
def transfers (start : ℕ) : List (ℕ × ℕ) :=
  (List.range w.windowSize).map fun i => ((start + i) % (w.blockSize * w.blockCount), i)

/-- What the ML task has found out inside `next`: the block of the window's start
    is complete, then that of its end too, and the first samples are copied. -/
def ReaderInvariant (σ : Recording α) : Prop :=
  match σ.reader with
  | .testLast => 2 ≤ w.blockCount ∧ windowStart w σ / w.blockSize < σ.signalled
  | .copying todo =>
    2 ≤ w.blockCount ∧ (windowStart w σ + w.windowSize - 1) / w.blockSize < σ.signalled ∧
      ∃ copied, copied ≤ w.windowSize ∧ todo = (transfers w (windowStart w σ)).drop copied ∧
        ∀ i < copied, σ.dest i = stream (windowStart w σ + i)
  | _ => True

/-- The reader is behind the signalled blocks, and the writer less than one turn
    of the ring ahead of the window. -/
structure Invariant (σ : Recording α) : Prop where
  underWrite : σ.members.blockUnderWrite = σ.signalled % w.blockCount
  signalled : σ.signalled * w.blockSize ≤ σ.recorded
  stride : σ.members.currentStride = σ.delivered.length % w.prvStrideCount
  ring : Ring.Holds (w.blockSize * w.blockCount) σ.buffer stream σ.recorded
  turn : σ.recorded ≤ (windowStart w σ / w.blockSize + w.blockCount) * w.blockSize
  behind : σ.delivered ≠ [] → windowStart w σ / w.blockSize < σ.signalled
  delivered : σ.delivered = (List.range σ.delivered.length).map (window w stream)
  reader : ReaderInvariant w stream σ

theorem invariant_init (created : Bool) (memory : ℕ → α) :
    Invariant w stream (init created memory) where
  underWrite := (Nat.zero_mod _).symm
  signalled := Nat.zero_mul _ ▸ Nat.zero_le _
  stride := (Nat.zero_mod _).symm
  ring := Ring.holds_zero _ _ _
  turn := Nat.zero_le _
  behind h := absurd rfl h
  delivered := rfl
  reader := trivial

section Steps

variable {w stream} {σ : Recording α}

/-- The hardware stays within the turn. -/
theorem turn_record (hblocks : 0 < w.blockCount) (h : Invariant w stream σ)
    (hwriter : NotOverwritten w σ .record) :
    σ.recorded + 1 ≤ (windowStart w σ / w.blockSize + w.blockCount) * w.blockSize := by
  rcases Nat.lt_or_eq_of_le h.turn with hlt | heq
  · omega
  · have hstarts : σ.recorded % w.blockSize = 0 := by
      rw [heq, Nat.mul_mod_left]
    have hblock : σ.recorded / w.blockSize = windowStart w σ / w.blockSize + w.blockCount := by
      rw [heq, Nat.mul_div_left _ w.block_pos]
    have hle := hwriter hstarts (by rw [hblock, Nat.add_mod_right])
    omega

/-- A sample of a window whose blocks are complete is still in the buffer. -/
theorem buffer_sample (h : Invariant w stream σ) {i : ℕ} (hi : i < w.windowSize)
    (hend : (windowStart w σ + w.windowSize - 1) / w.blockSize < σ.signalled) :
    σ.buffer ((windowStart w σ + i) % (w.blockSize * w.blockCount)) =
      stream (windowStart w σ + i) := by
  apply h.ring
  · have hlt : windowStart w σ + w.windowSize - 1 < σ.signalled * w.blockSize :=
      (Nat.div_lt_iff_lt_mul w.block_pos).mp hend
    have hle := h.signalled
    omega
  · have hturn := h.turn
    have hstart := Nat.div_mul_le_self (windowStart w σ) w.blockSize
    rw [Nat.add_mul, Nat.mul_comm w.blockCount] at hturn
    omega

/-- A copy that is still to come is one of the window. -/
theorem transfers_drop_cons {start copied source dest : ℕ} {todo : List (ℕ × ℕ)}
    (h : (source, dest) :: todo = (transfers w start).drop copied) :
    copied < w.windowSize ∧ source = (start + copied) % (w.blockSize * w.blockCount) ∧
      dest = copied ∧ todo = (transfers w start).drop (copied + 1) := by
  have hlength : (transfers w start).length = w.windowSize := by simp [transfers]
  have hlt : copied < (transfers w start).length := by
    by_contra hge
    rw [List.drop_eq_nil_of_le (by omega)] at h
    exact List.cons_ne_nil _ _ h
  rw [List.drop_eq_getElem_cons hlt] at h
  obtain ⟨hhead, htail⟩ := List.cons.inj h
  have hpair : (transfers w start)[copied] =
      ((start + copied) % (w.blockSize * w.blockCount), copied) := by simp [transfers]
  rw [hpair] at hhead
  obtain ⟨hsource, hdest⟩ := Prod.mk.inj hhead
  exact ⟨hlength ▸ hlt, hsource, hdest, htail⟩

/-- All is copied when no copy is to come. -/
theorem transfers_drop_nil {start copied : ℕ} (h : [] = (transfers w start).drop copied) :
    w.windowSize ≤ copied := by
  have hle := List.drop_eq_nil_iff.mp h.symm
  simpa [transfers] using hle

/-- The hardware keeps the invariant. -/
theorem invariant_record (hblocks : 0 < w.blockCount) (h : Invariant w stream σ)
    (hwriter : NotOverwritten w σ .record) : Invariant w stream (step w stream σ .record) where
  underWrite := h.underWrite
  signalled := Nat.le_succ_of_le h.signalled
  stride := h.stride
  ring := h.ring.put
  turn := turn_record hblocks h hwriter
  behind := h.behind
  delivered := h.delivered
  reader := h.reader

/-- A signal keeps the invariant. -/
theorem invariant_signal (h : Invariant w stream σ) :
    Invariant w stream (step w stream σ .prvSignalBlockWritten) := by
  unfold step
  split_ifs with hcomplete
  · refine ⟨?_, hcomplete, h.stride, h.ring, h.turn, ?_, h.delivered, ?_⟩
    · show (σ.members.blockUnderWrite + 1) % w.blockCount = (σ.signalled + 1) % w.blockCount
      rw [h.underWrite, Nat.mod_add_mod]
    · exact fun hdelivered => Nat.lt_succ_of_lt (h.behind hdelivered)
    · have hreader := h.reader
      unfold ReaderInvariant at hreader ⊢
      cases hat : σ.reader with
      | testLast =>
        rw [hat] at hreader
        exact ⟨hreader.1, Nat.lt_succ_of_lt hreader.2⟩
      | copying todo =>
        rw [hat] at hreader
        exact ⟨hreader.1, Nat.lt_succ_of_lt hreader.2.1, hreader.2.2⟩
      | _ => trivial
  · exact h

/-- What only moves the reader within `next` keeps the rest of the invariant. -/
theorem Invariant.moved (h : Invariant w stream σ) {reader : Reader} {dest : ℕ → α}
    {semaphore : Option Bool}
    (hreader : ReaderInvariant w stream
      { σ with
        members := { σ.members with xSlidingWindowSemaphore := semaphore }
        reader := reader
        dest := dest }) :
    Invariant w stream
      { σ with
        members := { σ.members with xSlidingWindowSemaphore := semaphore }
        reader := reader
        dest := dest } :=
  ⟨h.underWrite, h.signalled, h.stride, h.ring, h.turn, h.behind, h.delivered, hreader⟩

/-- The test of the first block: the block is complete. -/
theorem first_complete (hblocks : 0 < w.blockCount) (h : Invariant w stream σ)
    (htest : w.firstBlock σ.members ≠ σ.members.blockUnderWrite) :
    2 ≤ w.blockCount ∧ windowStart w σ / w.blockSize < σ.signalled := by
  rw [w.firstBlock_eq h.stride, h.underWrite] at htest
  constructor
  · by_contra hone
    obtain hone : w.blockCount = 1 := by omega
    rw [hone, Nat.mod_one, Nat.mod_one] at htest
    exact htest rfl
  · by_cases hdelivered : σ.delivered = []
    · have hzero : windowStart w σ / w.blockSize = 0 := by simp [windowStart, hdelivered]
      rw [hzero]
      apply Nat.pos_of_ne_zero
      intro hnone
      apply htest
      rw [hnone, hdelivered]
      simp
    · exact h.behind hdelivered

/-- The test of the last block: it is complete too. -/
theorem last_complete (h : Invariant w stream σ)
    (hfirst : windowStart w σ / w.blockSize < σ.signalled)
    (htest : w.lastBlock σ.members ≠ σ.members.blockUnderWrite) :
    (windowStart w σ + w.windowSize - 1) / w.blockSize < σ.signalled := by
  rw [w.lastBlock_eq h.stride, h.underWrite] at htest
  have hle := w.lastBlock_le (n := σ.delivered.length)
  have hne : (windowStart w σ + w.windowSize - 1) / w.blockSize ≠ σ.signalled := by
    intro heq
    exact htest (congrArg (· % w.blockCount) heq)
  unfold windowStart at hfirst hne ⊢
  omega

/-- `next` returns the window. -/
theorem invariant_delivered (h : Invariant w stream σ) (hat : σ.reader = .copying []) :
    Invariant w stream (nextStep w σ) := by
  have hreader := h.reader
  unfold ReaderInvariant at hreader
  rw [hat] at hreader
  obtain ⟨-, hend, copied, hcopied, htodo, hdest⟩ := hreader
  have hall : copied = w.windowSize := le_antisymm hcopied (transfers_drop_nil htodo)
  have hwindow : (List.range w.windowSize).map σ.dest = window w stream σ.delivered.length := by
    apply List.map_congr_left
    intro i hi
    rw [← hall] at hi
    exact hdest i (List.mem_range.mp hi)
  have hnext : nextStep w σ =
      { σ with
        members := w.advance σ.members
        reader := .processing
        delivered := σ.delivered ++ [window w stream σ.delivered.length] } := by
    rw [← hwindow]
    unfold nextStep
    rw [hat]
  have hstart : (σ.delivered.length + 1) * w.strideSize / w.blockSize < σ.signalled :=
    lt_of_le_of_lt w.next_firstBlock_le hend
  have hlater : windowStart w σ / w.blockSize ≤
      (σ.delivered.length + 1) * w.strideSize / w.blockSize :=
    Nat.div_le_div_right (Nat.mul_le_mul_right _ (Nat.le_succ _))
  rw [hnext]
  refine ⟨h.underWrite, h.signalled, ?_, h.ring, ?_, fun _ => ?_, ?_, trivial⟩
  · show (σ.members.currentStride + 1) % w.prvStrideCount = _
    rw [h.stride, Nat.mod_add_mod, List.length_append, List.length_singleton]
  · refine h.turn.trans (Nat.mul_le_mul_right _ (Nat.add_le_add_right ?_ _))
    simpa [windowStart] using hlater
  · simpa [windowStart] using hstart
  · show σ.delivered ++ _ = _
    rw [List.length_append, List.length_singleton, List.range_succ, List.map_append, ← h.delivered]
    rfl

/-- The ML task keeps the invariant. -/
theorem invariant_next (hblocks : 0 < w.blockCount) (h : Invariant w stream σ) :
    Invariant w stream (step w stream σ .next) := by
  show Invariant w stream (nextStep w σ)
  have hreader := h.reader
  unfold ReaderInvariant at hreader
  cases hat : σ.reader with
  | processing =>
    have hstep : nextStep w σ = { σ with reader := .testFirst } := by
      unfold nextStep
      rw [hat]
      exact if_neg hblocks.ne'
    rw [hstep]
    exact h.moved trivial
  | testFirst =>
    unfold nextStep
    rw [hat]
    dsimp only
    split_ifs with htest
    · exact h.moved trivial
    · have hcomplete := first_complete hblocks h htest
      exact h.moved hcomplete
  | testLast =>
    rw [hat] at hreader
    unfold nextStep
    rw [hat]
    dsimp only
    split_ifs with htest
    · exact h.moved trivial
    · have hcomplete := last_complete h hreader.2 htest
      have hcopies : w.copies σ.members = transfers w (windowStart w σ) :=
        w.copies_eq hreader.1 h.stride
      rw [hcopies]
      exact h.moved ⟨hreader.1, hcomplete, 0, Nat.zero_le _, rfl,
        fun i hi => absurd hi (Nat.not_lt_zero i)⟩
  | semaphoreTake =>
    unfold nextStep
    rw [hat]
    dsimp only
    split
    · exact h.moved trivial
    · exact h
    · exact h.moved trivial
  | copying todo =>
    cases todo with
    | nil => exact invariant_delivered h hat
    | cons transfer todo =>
      obtain ⟨source, dest⟩ := transfer
      rw [hat] at hreader
      obtain ⟨hblocks', hend, copied, -, htodo, hdest⟩ := hreader
      obtain ⟨hlt, hsource, rfl, hrest⟩ := transfers_drop_cons htodo
      have hdest' : ∀ i < dest + 1, Function.update σ.dest dest (σ.buffer source) i =
          stream (windowStart w σ + i) := by
        intro i hi
        rcases Nat.lt_succ_iff_lt_or_eq.mp hi with hbefore | rfl
        · rw [Function.update_of_ne hbefore.ne]
          exact hdest i hbefore
        · rw [Function.update_self, hsource]
          exact buffer_sample h hlt hend
      unfold nextStep
      rw [hat]
      exact h.moved ⟨hblocks', hend, dest + 1, hlt, hrest, hdest'⟩

/-- A step keeps the invariant. -/
theorem invariant_step (hblocks : 0 < w.blockCount) {a : Action} (h : Invariant w stream σ)
    (hwriter : NotOverwritten w σ a) : Invariant w stream (step w stream σ a) := by
  cases a with
  | record => exact invariant_record hblocks h hwriter
  | prvSignalBlockWritten => exact invariant_signal h
  | next => exact invariant_next hblocks h

/-- A copy of the ML task is within the buffer and within `dest`. -/
theorem inBounds (h : Invariant w stream σ) (a : Action) : InBounds w σ a := by
  cases a with
  | next =>
    intro source dest todo hat
    have hreader := h.reader
    unfold ReaderInvariant at hreader
    rw [hat] at hreader
    obtain ⟨hblocks, -, copied, -, htodo, -⟩ := hreader
    obtain ⟨hlt, rfl, rfl, -⟩ := transfers_drop_cons htodo
    exact ⟨Nat.mod_lt _ (Nat.mul_pos w.block_pos (by omega)), hlt⟩
  | _ => trivial

end Steps

/-! ## Runs -/

/-- Without blocks `next` never returns. -/
theorem processing_step (hblocks : w.blockCount = 0) {σ : Recording α}
    (h : σ.reader = .processing ∧ σ.delivered = []) (a : Action) :
    (step w stream σ a).reader = .processing ∧ (step w stream σ a).delivered = [] := by
  cases a with
  | record => exact h
  | prvSignalBlockWritten =>
    unfold step
    split_ifs
    · exact h
    · exact h
  | next =>
    have hstep : step w stream σ .next = σ := by
      show nextStep w σ = σ
      unfold nextStep
      rw [h.1]
      exact if_pos hblocks
    rw [hstep]
    exact h

/-- **The sliding window.** When the hardware leaves the start of the window
    alone, the windows that `next` delivers are those of consecutive strides, and
    every copy is in bounds. -/
theorem windows_delivered (created : Bool) (memory : ℕ → α) (as : List Action)
    (hwriter : Along (step w stream) (NotOverwritten w) (init created memory) as) :
    (run (step w stream) (init created memory) as).delivered =
        (List.range (run (step w stream) (init created memory) as).delivered.length).map
          (window w stream) ∧
      Along (step w stream) (InBounds w) (init created memory) as := by
  by_cases hblocks : w.blockCount = 0
  · have hidle : ∀ (σ : Recording α) (a : Action), (σ.reader = .processing ∧ σ.delivered = []) →
        NotOverwritten w σ a →
        (step w stream σ a).reader = .processing ∧ (step w stream σ a).delivered = [] :=
      fun _ a h _ => processing_step w stream hblocks h a
    constructor
    · have hnone := (Along.inv (I := fun σ : Recording α => σ.reader = .processing ∧
        σ.delivered = []) hidle ⟨rfl, rfl⟩ hwriter).2
      rw [hnone]
      rfl
    · refine along_of_inv hidle (fun σ a h _ => ?_) ⟨rfl, rfl⟩ hwriter
      cases a with
      | next => exact fun _ _ _ hat => Reader.noConfusion (h.1.symm.trans hat)
      | _ => trivial
  · have hkept : ∀ (σ : Recording α) (a : Action), Invariant w stream σ →
        NotOverwritten w σ a → Invariant w stream (step w stream σ a) :=
      fun _ _ h ha => invariant_step (Nat.pos_of_ne_zero hblocks) h ha
    have hinit := invariant_init w stream created memory
    constructor
    · exact (Along.inv (I := Invariant w stream) hkept hinit hwriter).delivered
    · exact along_of_inv hkept (fun _ a h _ => inBounds h a) hinit hwriter

instance (σ : Recording α) (a : Action) : Decidable (NotOverwritten w σ a) := by
  unfold NotOverwritten
  split <;> infer_instance

/-- Three blocks of three samples, with windows of two samples and strides of
    one. -/
def threeBlocks : CircularSlidingWindow where
  blockSize := 3
  blockCount := 3
  windowSize := 2
  strideSize := 1
  stride_lt_block := by decide
  stride_lt_window := by decide
  window_lt_block := by decide
  block_mod_stride := by decide
  window_mod_stride := by decide

/-- A block is recorded and signalled. -/
def recordBlock : List Action := [.record, .record, .record, .prvSignalBlockWritten]

/-- A window of `threeBlocks` that is complete is delivered. -/
def nextWindow : List Action := [.next, .next, .next, .next, .next, .next]

/-- Nine windows are delivered; the last one wraps to the fourth block. -/
def nineWindows : List Action :=
  recordBlock ++ recordBlock ++ (List.replicate 5 nextWindow).flatten ++ recordBlock ++
    (List.replicate 3 nextWindow).flatten ++ recordBlock ++ nextWindow

set_option maxRecDepth 20000 in
theorem windows_delivered_nineWindows :
    let σ := run (step threeBlocks id) (init true fun _ => 0) nineWindows
    σ.delivered = (List.range σ.delivered.length).map (window threeBlocks id) ∧
      Along (step threeBlocks id) (InBounds threeBlocks) (init true fun _ => 0) nineWindows :=
  windows_delivered threeBlocks id true (fun _ => 0) nineWindows (by decide)

set_option maxRecDepth 20000 in
example : (run (step threeBlocks id) (init true fun _ => 0) nineWindows).delivered =
    [[0, 1], [1, 2], [2, 3], [3, 4], [4, 5], [5, 6], [6, 7], [7, 8], [8, 9]] := by decide

end Recording

end Corstone.KeywordDetection
