import Corstone.Lib.Memory
import Corstone.Lib.Run
import Corstone.Lib.Segment

/-!
# The FIFOs and the sliding window of the audio graph

Models of `FIFO` and `SlidingBuffer`
(`speech_recognition/dsp/inc/GenericNodes.h`). A FIFO is an array with a place
to read at and a place to write at; before a write the items that are left are
moved to the start of the array with `memcpy`.

* `Fifo.exec_eq_of_balanced`: over any run of reads and writes that reads no more
  than is there, the accesses stay inside the array and no `memcpy` overlaps iff
  every write finds the room and the gap that it needs. Then the reads return
  what a queue returns.
* `SlidingBuffer.run_eq`: each window is the next part of the signal, the kept
  items before the new ones.
-/

namespace Corstone.SpeechRecognition

open Corstone.Lib

/-- `FIFO<T, length, isArray>` (lines 31–81). -/
structure Fifo (T : Type*) (length : ℕ) (isArray : Bool) where
  mBuffer : Memory T length
  readPos : ℕ
  writePos : ℕ

namespace Fifo

variable {T : Type*} {length : ℕ} {isArray : Bool}

/-- The constructor with no delay (lines 35–43). -/
def new (isArray : Bool) (buffer : Memory T length) : Fifo T length isArray where
  mBuffer := buffer
  readPos := 0
  writePos := 0

/-- `pxGetWriteBuffer` (lines 45–64): the place in the array to write to. A
    `writePos - readPos` below zero is a size that no array has. -/
def pxGetWriteBuffer (f : Fifo T length isArray) (nb : ℕ) :
    Option (ℕ × Fifo T length isArray) :=
  if isArray = true then some (0, f)
  else if 0 < f.readPos then
    if f.readPos ≤ f.writePos then
      (f.mBuffer.copy 0 f.readPos (f.writePos - f.readPos)).map fun mBuffer =>
        (f.writePos - f.readPos,
          { mBuffer := mBuffer, readPos := 0, writePos := f.writePos - f.readPos + nb })
    else none
  else some (f.writePos, { f with writePos := f.writePos + nb })

/-- `pxGetReadBuffer` (lines 66–76): the place in the array to read from. -/
def pxGetReadBuffer (f : Fifo T length isArray) (nb : ℕ) : ℕ × Fifo T length isArray :=
  if isArray = true then (0, f) else (f.readPos, { f with readPos := f.readPos + nb })

/-- The array is written. -/
def withBuffer (f : Fifo T length isArray) (mBuffer : Memory T length) :
    Fifo T length isArray := { f with mBuffer := mBuffer }

/-- Gets a place to write to and writes `xs` there. -/
def write (f : Fifo T length isArray) (xs : List T) : Option (Fifo T length isArray) :=
  (f.pxGetWriteBuffer xs.length).bind fun (b, f') =>
    (f'.mBuffer.write b xs).map f'.withBuffer

/-- Gets a place to read from and reads `nb` items there. -/
def read (f : Fifo T length isArray) (nb : ℕ) : Option (List T × Fifo T length isArray) :=
  ((f.pxGetReadBuffer nb).2.mBuffer.read (f.pxGetReadBuffer nb).1 nb).map fun a =>
    (a, (f.pxGetReadBuffer nb).2)

/-! ## As a queue -/

/-- What has been written and not read. -/
def contents (f : Fifo T length isArray) : List T :=
  (f.mBuffer.cells.take f.writePos).drop f.readPos

/-- The places are in order and inside the array. -/
structure Valid (f : Fifo T length isArray) : Prop where
  ordered : f.readPos ≤ f.writePos
  inside : f.writePos ≤ length

theorem length_contents {f : Fifo T length isArray} (h : f.Valid) :
    f.contents.length = f.writePos - f.readPos := by
  rw [contents, List.length_drop, List.length_take, f.mBuffer.length_cells,
    Nat.min_eq_left h.inside]

theorem valid_new (buffer : Memory T length) : (new isArray buffer).Valid :=
  ⟨le_rfl, Nat.zero_le _⟩

theorem contents_new (buffer : Memory T length) : (new isArray buffer).contents = [] := rfl

/-- A write has room for `n` items, and the items that are left lie clear of the
    place that they move to. -/
def Room (f : Fifo T length isArray) (n : ℕ) : Prop :=
  f.contents.length + n ≤ length ∧ (f.readPos = 0 ∨ f.contents.length ≤ f.readPos)

section Queue

variable {f : Fifo T length false}

/-- The items that are left, moved to the start. -/
theorem exists_compact (h : f.Valid) (hgap : f.contents.length ≤ f.readPos) :
    ∃ m, f.mBuffer.copy 0 f.readPos (f.writePos - f.readPos) = some m ∧
      m.cells.take (f.writePos - f.readPos) = f.contents := by
  have hlength := length_contents h
  have hinside := h.inside
  have hordered := h.ordered
  have hread : f.mBuffer.read f.readPos (f.writePos - f.readPos) = some f.contents := by
    rw [Memory.read_eq_some _ (by omega), contents, List.drop_take]
  obtain ⟨m, hm, -⟩ := f.mBuffer.exists_write 0 f.contents (by omega)
  refine ⟨m, ?_, ?_⟩
  · rw [Memory.copy, if_pos (Or.inl (by omega)), hread]
    exact hm
  · have htake := Memory.take_write_end hm
    rwa [Nat.zero_add, hlength, List.take_zero, List.nil_append] at htake

/-- With room, the place to write to lies right behind the queue, which is at
    the start of the array. -/
theorem exists_pxGetWriteBuffer (h : f.Valid) {nb : ℕ} (hroom : f.Room nb) :
    ∃ b f', f.pxGetWriteBuffer nb = some (b, f') ∧ b + nb ≤ length ∧ f'.readPos = 0 ∧
      f'.writePos = b + nb ∧ f'.mBuffer.cells.take b = f.contents := by
  obtain ⟨hfits, hgap⟩ := hroom
  have hlength := length_contents h
  have hordered := h.ordered
  by_cases hzero : 0 < f.readPos
  · obtain ⟨m, hm, hcells⟩ := exists_compact h (hgap.resolve_left hzero.ne')
    refine ⟨_, ⟨m, 0, f.writePos - f.readPos + nb⟩, ?_, ?_, rfl, rfl, hcells⟩
    · simp [pxGetWriteBuffer, hzero, hordered, hm]
    · omega
  · have hread : f.readPos = 0 := by omega
    refine ⟨f.writePos, { f with writePos := f.writePos + nb }, ?_, ?_, hread, rfl, ?_⟩
    · simp [pxGetWriteBuffer, hread]
    · omega
    · rw [contents, hread, List.drop_zero]

/-- What the array holds up to the place to write to is the queue. -/
theorem contents_withBuffer {f' : Fifo T length false} {n : ℕ} {q : List T}
    {m : Memory T length} (hread : f'.readPos = 0) (hwrite : f'.writePos = n) (hn : n ≤ length)
    (hm : m.cells.take n = q) : (f'.withBuffer m).Valid ∧ (f'.withBuffer m).contents = q := by
  refine ⟨⟨?_, ?_⟩, ?_⟩
  · show f'.readPos ≤ f'.writePos
    omega
  · show f'.writePos ≤ length
    omega
  · show (m.cells.take f'.writePos).drop f'.readPos = _
    rw [hread, hwrite, hm, List.drop_zero]

/-- A write with room puts its items at the end of the queue. -/
theorem exists_write (h : f.Valid) {xs : List T} (hroom : f.Room xs.length) :
    ∃ f', f.write xs = some f' ∧ f'.Valid ∧ f'.contents = f.contents ++ xs ∧ f'.readPos = 0 := by
  obtain ⟨b, f', hf', hinside, hread, hwrite, hcells⟩ := exists_pxGetWriteBuffer h hroom
  obtain ⟨m, hm, -⟩ := f'.mBuffer.exists_write b xs hinside
  obtain ⟨hvalid, hcontents⟩ := contents_withBuffer hread hwrite hinside
    (by rw [Memory.take_write_end hm, hcells])
  exact ⟨f'.withBuffer m, by simp [write, hf', hm], hvalid, hcontents, hread⟩

/-- A write without the room, or with an overlapping `memcpy`, has no result. -/
theorem write_eq_none (h : f.Valid) {xs : List T} (hroom : ¬ f.Room xs.length) :
    f.write xs = none := by
  have hlength := length_contents h
  have hordered := h.ordered
  have hinside := h.inside
  by_cases hzero : 0 < f.readPos
  · by_cases hgap : f.contents.length ≤ f.readPos
    · obtain ⟨m, hm, -⟩ := exists_compact h hgap
      have hfull : ¬ f.contents.length + xs.length ≤ length :=
        fun hfits => hroom ⟨hfits, Or.inr hgap⟩
      have hnone : m.write (f.writePos - f.readPos) xs = none :=
        Memory.write_eq_none _ (by omega)
      simp [write, pxGetWriteBuffer, hzero, hordered, hm, hnone]
    · have hnone : f.mBuffer.copy 0 f.readPos (f.writePos - f.readPos) = none :=
        if_neg (by omega)
      simp [write, pxGetWriteBuffer, hzero, hordered, hnone]
  · have hread : f.readPos = 0 := by omega
    have hfull : ¬ f.contents.length + xs.length ≤ length :=
      fun hfits => hroom ⟨hfits, Or.inl hread⟩
    have hnone : f.mBuffer.write f.writePos xs = none := Memory.write_eq_none _ (by omega)
    simp [write, pxGetWriteBuffer, hread, hnone]

/-- The first items of the queue lie where the FIFO reads. -/
theorem read_mBuffer (h : f.Valid) {nb : ℕ} (hnb : nb ≤ f.contents.length) :
    f.mBuffer.read f.readPos nb = some (f.contents.take nb) := by
  have hlength := length_contents h
  have hordered := h.ordered
  have hinside := h.inside
  rw [Memory.read_eq_some _ (by omega), contents, List.drop_take, List.take_take,
    Nat.min_eq_left (by omega)]

/-- The FIFO after it has given a place to read `nb` items from. -/
def advance (f : Fifo T length false) (nb : ℕ) : Fifo T length false :=
  { f with readPos := f.readPos + nb }

theorem pxGetReadBuffer_eq (f : Fifo T length false) (nb : ℕ) :
    f.pxGetReadBuffer nb = (f.readPos, f.advance nb) := rfl

theorem valid_advance (h : f.Valid) {nb : ℕ} (hnb : nb ≤ f.contents.length) :
    (f.advance nb).Valid := by
  have hlength := length_contents h
  have hordered := h.ordered
  refine ⟨?_, h.inside⟩
  show f.readPos + nb ≤ f.writePos
  omega

theorem contents_advance (nb : ℕ) : (f.advance nb).contents = f.contents.drop nb := by
  show (f.mBuffer.cells.take f.writePos).drop (f.readPos + nb) = _
  rw [contents, List.drop_drop]

/-- A read of what is there takes it from the front of the queue. -/
theorem exists_read (h : f.Valid) {nb : ℕ} (hnb : nb ≤ f.contents.length) :
    ∃ f', f.read nb = some (f.contents.take nb, f') ∧ f'.Valid ∧
      f'.contents = f.contents.drop nb ∧ f'.readPos = f.readPos + nb := by
  refine ⟨f.advance nb, ?_, valid_advance h hnb, contents_advance nb, rfl⟩
  rw [read, pxGetReadBuffer_eq]
  show (f.mBuffer.read f.readPos nb).map _ = _
  rw [read_mBuffer h hnb]
  rfl

end Queue

/-! ## Runs -/

/-- What the nodes at the two ends of a FIFO do. -/
inductive Op (T : Type*)
  | write (xs : List T)
  | read (nb : ℕ)

/-- One operation, with the items that it reads. -/
def exec (f : Fifo T length isArray) : Op T → Option (List T × Fifo T length isArray)
  | .write xs => (f.write xs).map fun f' => ([], f')
  | .read nb => f.read nb

/-- A run of operations, with the items that each of them reads. -/
def execAll (f : Fifo T length isArray) :
    List (Op T) → Option (List (List T) × Fifo T length isArray)
  | [] => some ([], f)
  | op :: ops => (f.exec op).bind fun (xs, f') => (f'.execAll ops).map fun (xss, f'') =>
      (xs :: xss, f'')

end Fifo

/-- A queue, with how many items have been read since the last write. -/
structure Queue (T : Type*) where
  items : List T
  consumed : ℕ

namespace Queue

open Fifo

variable {T : Type*}

def empty : Queue T := ⟨[], 0⟩

def step (q : Queue T) : Op T → Queue T
  | .write xs => ⟨q.items ++ xs, 0⟩
  | .read nb => ⟨q.items.drop nb, q.consumed + nb⟩

/-- What an operation reads. -/
def out (q : Queue T) : Op T → List T
  | .write _ => []
  | .read nb => q.items.take nb

/-- What each operation of a run reads. -/
def outs (q : Queue T) : List (Op T) → List (List T)
  | [] => []
  | op :: ops => q.out op :: (q.step op).outs ops

/-- A read asks for no more than there is. -/
def Balanced (q : Queue T) : Op T → Prop
  | .write _ => True
  | .read nb => nb ≤ q.items.length

/-- A write finds the room, and since the last write as much has been read as is
    left, or nothing. -/
def Fits (length : ℕ) (q : Queue T) : Op T → Prop
  | .write xs =>
    q.items.length + xs.length ≤ length ∧ (q.consumed = 0 ∨ q.items.length ≤ q.consumed)
  | .read _ => True

instance (q : Queue T) : (op : Op T) → Decidable (q.Balanced op)
  | .write _ => isTrue trivial
  | .read nb => inferInstanceAs (Decidable (nb ≤ q.items.length))

instance (length : ℕ) (q : Queue T) : (op : Op T) → Decidable (q.Fits length op)
  | .write xs => inferInstanceAs (Decidable (q.items.length + xs.length ≤ length ∧ _))
  | .read _ => isTrue trivial

end Queue

namespace Fifo

variable {T : Type*} {length : ℕ}

/-- The FIFO holds the queue. -/
structure Holds (f : Fifo T length false) (q : Queue T) : Prop where
  valid : f.Valid
  contents : f.contents = q.items
  readPos : f.readPos = q.consumed

theorem holds_new (buffer : Memory T length) : (new false buffer).Holds Queue.empty :=
  ⟨valid_new buffer, rfl, rfl⟩

/-- An operation that fits does to the FIFO what it does to the queue. -/
theorem exists_exec {f : Fifo T length false} {q : Queue T} (h : f.Holds q) {op : Op T}
    (hbalanced : q.Balanced op) (hfits : q.Fits length op) :
    ∃ f', f.exec op = some (q.out op, f') ∧ f'.Holds (q.step op) := by
  cases op with
  | write xs =>
    have hroom : f.Room xs.length := by
      rw [Room, h.contents, h.readPos]
      exact hfits
    obtain ⟨f', hf', hvalid, hcontents, hread⟩ := exists_write h.valid hroom
    refine ⟨f', by rw [exec, hf']; rfl, hvalid, ?_, hread⟩
    rw [hcontents, h.contents]
    rfl
  | read nb =>
    have hnb : nb ≤ f.contents.length := by
      rw [h.contents]
      exact hbalanced
    obtain ⟨f', hf', hvalid, hcontents, hread⟩ := exists_read h.valid hnb
    refine ⟨f', ?_, hvalid, ?_, ?_⟩
    · rw [exec, hf', h.contents]
      rfl
    · rw [hcontents, h.contents]
      rfl
    · rw [hread, h.readPos]
      rfl

/-- An operation that does not fit has no result. -/
theorem exec_eq_none {f : Fifo T length false} {q : Queue T} (h : f.Holds q) {op : Op T}
    (hfits : ¬ q.Fits length op) : f.exec op = none := by
  cases op with
  | write xs =>
    have hroom : ¬ f.Room xs.length := by
      rw [Room, h.contents, h.readPos]
      exact hfits
    rw [exec, write_eq_none h.valid hroom]
    rfl
  | read nb => exact absurd trivial hfits

/-- Runs from a FIFO that holds a queue. -/
theorem execAll_of_holds {f : Fifo T length false} {q : Queue T} (h : f.Holds q)
    {ops : List (Op T)} (hbalanced : Along Queue.step Queue.Balanced q ops) :
    (Along Queue.step (Queue.Fits length) q ops →
        ∃ f', f.execAll ops = some (q.outs ops, f') ∧ f'.Holds (run Queue.step q ops)) ∧
      (¬ Along Queue.step (Queue.Fits length) q ops → f.execAll ops = none) := by
  induction ops generalizing f q with
  | nil => exact ⟨fun _ => ⟨f, rfl, h⟩, fun hfits => absurd trivial hfits⟩
  | cons op ops ih =>
    obtain ⟨hop, hops⟩ := hbalanced
    by_cases hfit : q.Fits length op
    · obtain ⟨f', hf', hholds⟩ := exists_exec h hop hfit
      obtain ⟨hsome, hnone⟩ := ih hholds hops
      constructor
      · rintro ⟨-, hfits⟩
        obtain ⟨f'', hf'', hend⟩ := hsome hfits
        refine ⟨f'', ?_, hend⟩
        simp [execAll, hf', hf'', Queue.outs]
      · intro hfits
        have hrest := hnone fun hrest => hfits ⟨hfit, hrest⟩
        simp [execAll, hf', hrest]
    · refine ⟨fun hfits => absurd hfits.1 hfit, fun _ => ?_⟩
      simp [execAll, exec_eq_none h hfit]

/-- **The FIFO is a queue.** In a run that reads no more than is there, no access
    leaves the array and no `memcpy` overlaps iff every write fits. Then each read
    returns what the queue returns. -/
theorem exec_eq_of_balanced (buffer : Memory T length) (ops : List (Op T))
    (hbalanced : Along Queue.step Queue.Balanced Queue.empty ops) :
    (((new false buffer).execAll ops).isSome = true ↔
        Along Queue.step (Queue.Fits length) Queue.empty ops) ∧
      ∀ r ∈ (new false buffer).execAll ops,
        r.1 = Queue.empty.outs ops ∧ r.2.contents = (run Queue.step Queue.empty ops).items := by
  obtain ⟨hsome, hnone⟩ := execAll_of_holds (holds_new buffer) hbalanced
  by_cases hfits : Along Queue.step (Queue.Fits length) Queue.empty ops
  · obtain ⟨f', hf', hholds⟩ := hsome hfits
    rw [hf']
    refine ⟨iff_of_true rfl hfits, fun r hr => ?_⟩
    obtain rfl := Option.some.inj hr
    exact ⟨rfl, hholds.contents⟩
  · rw [hnone hfits]
    exact ⟨iff_of_false (by simp) hfits, fun r hr => absurd hr (by simp)⟩

/-- Two items in three cells: one is read, so one is moved, and there is room for
    two more. -/
theorem exec_eq_of_balanced_three :
    (((new false (Memory.fill 3 0)).execAll
        [.write [1, 2], .read 1, .write [3, 4], .read 3]).isSome = true ↔
        Along Queue.step (Queue.Fits 3) Queue.empty
          [.write [1, 2], .read 1, .write [3, 4], .read 3]) ∧
      ∀ r ∈ (new false (Memory.fill 3 0)).execAll
          [.write [1, 2], .read 1, .write [3, 4], .read 3],
        r.1 = Queue.empty.outs [.write [1, 2], .read 1, .write [3, 4], .read 3] ∧
          r.2.contents =
            (run Queue.step Queue.empty [.write [1, 2], .read 1, .write [3, 4], .read 3]).items :=
  exec_eq_of_balanced (Memory.fill 3 0) _ (by decide)

end Fifo

/-! ## The sliding window -/

namespace SlidingBuffer

variable {T : Type*} {windowSize overlap l₁ l₂ : ℕ} {k₁ k₂ : Bool}

/-- `run` (lines 237–246), with the member `memory`. -/
def run (windowSize overlap : ℕ) (memory : Memory T overlap) (src : Fifo T l₁ k₁)
    (dst : Fifo T l₂ k₂) : Option (Memory T overlap × Fifo T l₁ k₁ × Fifo T l₂ k₂) := do
  let (a, src) := src.pxGetReadBuffer (windowSize - overlap)
  let (b, dst) ← dst.pxGetWriteBuffer windowSize
  let kept ← memory.read 0 overlap
  let buffer ← dst.mBuffer.write b kept
  let new ← src.mBuffer.read a (windowSize - overlap)
  let buffer ← buffer.write (b + overlap) new
  let last ← buffer.read (b + windowSize - overlap) overlap
  let memory ← memory.write 0 last
  return (memory, src, dst.withBuffer buffer)

/-- What a call of `run` does: the window is what was kept and then the new
    items, and its end is kept. -/
theorem exists_run (memory : Memory T overlap) {src : Fifo T l₁ false}
    (hoverlap : overlap < windowSize) (hsrc : src.Valid)
    (hnew : windowSize - overlap ≤ src.contents.length) (dst : Fifo T windowSize true) :
    ∃ memory' src' dst', run windowSize overlap memory src dst = some (memory', src', dst') ∧
      dst'.mBuffer.cells = memory.cells ++ src.contents.take (windowSize - overlap) ∧
      memory'.cells = dst'.mBuffer.cells.drop (windowSize - overlap) ∧
      src'.Valid ∧ src'.contents = src.contents.drop (windowSize - overlap) ∧
      src'.readPos = src.readPos + (windowSize - overlap) := by
  have hkept : memory.read 0 overlap = some memory.cells := memory.read_all
  have hnewLength : (src.contents.take (windowSize - overlap)).length = windowSize - overlap := by
    rw [List.length_take, Nat.min_eq_left hnew]
  -- what was kept, at the start of the window
  obtain ⟨m, hm, -⟩ := dst.mBuffer.exists_write 0 memory.cells
    (by rw [memory.length_cells]; omega)
  -- the new items, behind it
  obtain ⟨m', hm', -⟩ := m.exists_write (0 + overlap) (src.contents.take (windowSize - overlap))
    (by omega)
  have hwindow : m'.cells = memory.cells ++ src.contents.take (windowSize - overlap) := by
    have hfirst := Memory.take_write_end hm
    have hall := Memory.take_write_end hm'
    rw [memory.length_cells, List.take_zero, List.nil_append] at hfirst
    rw [hnewLength, hfirst, List.take_of_length_le (by rw [m'.length_cells]; omega)] at hall
    exact hall
  have hlast : m'.read (0 + windowSize - overlap) overlap =
      some (m'.cells.drop (windowSize - overlap)) := by
    rw [Memory.read_eq_some _ (by omega), Nat.zero_add, List.take_of_length_le]
    rw [List.length_drop, m'.length_cells]
    omega
  have hlastLength : (m'.cells.drop (windowSize - overlap)).length = overlap := by
    rw [List.length_drop, m'.length_cells]
    omega
  refine ⟨⟨_, hlastLength⟩, src.advance (windowSize - overlap), dst.withBuffer m', ?_, hwindow,
    rfl, Fifo.valid_advance hsrc hnew, Fifo.contents_advance _, rfl⟩
  rw [Nat.zero_add] at hm' hlast
  simp [run, Fifo.advance, Fifo.pxGetReadBuffer, Fifo.pxGetWriteBuffer, hkept, hm, hm',
    Fifo.read_mBuffer hsrc hnew, hlast, Memory.write_all hlastLength]

/-- The windows of a run in which the source gets the items of one call at a
    time. -/
def runAll (windowSize overlap : ℕ) (memory : Memory T overlap) (src : Fifo T l₁ k₁)
    (dst : Fifo T l₂ k₂) : List (List T) → Option (List (List T))
  | [] => some []
  | new :: rest => do
    let src ← src.write new
    let (memory, src, dst) ← run windowSize overlap memory src dst
    let window ← dst.mBuffer.read 0 windowSize
    let windows ← runAll windowSize overlap memory src dst rest
    return window :: windows

/-- The windows of the signal `s`, one step further each time. -/
def windows (windowSize hop : ℕ) (s : List T) (n : ℕ) : List (List T) :=
  (List.range n).map fun k => (s.drop (k * hop)).take windowSize

theorem windows_succ (windowSize hop : ℕ) (s : List T) (n : ℕ) :
    windows windowSize hop s (n + 1) =
      s.take windowSize :: windows windowSize hop (s.drop hop) n := by
  rw [windows, List.range_succ_eq_map, List.map_cons, List.map_map, Nat.zero_mul, List.drop_zero]
  congr 1
  apply List.map_congr_left
  intro k _
  show (s.drop ((k + 1) * hop)).take windowSize = ((s.drop hop).drop (k * hop)).take windowSize
  rw [List.drop_drop]
  congr 2
  ring

/-- Runs from any kept items, with an empty source. -/
theorem runAll_of_empty (hoverlap : overlap < windowSize) (hl₁ : windowSize - overlap ≤ l₁)
    {memory : Memory T overlap} {src : Fifo T l₁ false} (dst : Fifo T windowSize true)
    (hsrc : src.Valid) (hempty : src.contents = []) (news : List (List T))
    (hnews : ∀ new ∈ news, new.length = windowSize - overlap) :
    runAll windowSize overlap memory src dst news =
      some (windows windowSize (windowSize - overlap) (memory.cells ++ news.flatten)
        news.length) := by
  induction news generalizing memory src dst with
  | nil => rfl
  | cons new rest ih =>
    have hnew := hnews new List.mem_cons_self
    have hroom : src.Room new.length := by
      rw [Fifo.Room, hempty]
      exact ⟨by simp; omega, Or.inr (Nat.zero_le _)⟩
    obtain ⟨src', hsrc', hvalid, hcontents, -⟩ := Fifo.exists_write hsrc hroom
    rw [hempty, List.nil_append] at hcontents
    obtain ⟨memory', src'', dst', hrun, hwindow, hkept, hvalid', hrest, -⟩ :=
      exists_run memory hoverlap hvalid (by rw [hcontents, hnew]) dst
    rw [hcontents, List.take_of_length_le hnew.le] at hwindow
    rw [hcontents, List.drop_eq_nil_of_le hnew.le] at hrest
    have hread : dst'.mBuffer.read 0 windowSize = some (memory.cells ++ new) := by
      rw [Memory.read_all, hwindow]
    have hlength : (memory.cells ++ new).length = windowSize := by
      rw [← hwindow, dst'.mBuffer.length_cells]
    have hwindows := @ih memory' src'' dst' hvalid' hrest fun c hc =>
      hnews c (List.mem_cons_of_mem _ hc)
    simp only [runAll, hsrc', hrun, hread, hwindows, Option.bind_eq_bind, Option.bind_some,
      Option.pure_def, List.length_cons, windows_succ]
    rw [hkept, hwindow, List.flatten_cons, ← List.append_assoc]
    generalize memory.cells ++ new = window at hlength
    rw [List.take_left' hlength, List.drop_append_of_le_length (by omega)]

/-- **The sliding window.** With any sizes, the windows are those of the signal
    behind `overlap` zeros, each `windowSize - overlap` items after the one
    before. -/
theorem runAll_eq [Zero T] (hoverlap : overlap < windowSize) (hl₁ : windowSize - overlap ≤ l₁)
    (buf₁ : Memory T l₁) (buf₂ : Memory T windowSize) (news : List (List T))
    (hnews : ∀ new ∈ news, new.length = windowSize - overlap) :
    runAll windowSize overlap (Memory.fill overlap 0) (Fifo.new false buf₁)
        (Fifo.new true buf₂) news =
      some (windows windowSize (windowSize - overlap) (List.replicate overlap 0 ++ news.flatten)
        news.length) :=
  runAll_of_empty hoverlap hl₁ _ (Fifo.valid_new buf₁) (Fifo.contents_new buf₁) news hnews

/-- Windows of three numbers with two in common. -/
theorem runAll_eq_three :
    runAll 3 2 (Memory.fill 2 0) (Fifo.new false (Memory.fill 1 0))
      (Fifo.new true (Memory.fill 3 0)) [[1], [2], [3]] =
        some [[0, 0, 1], [0, 1, 2], [1, 2, 3]] :=
  runAll_eq (by decide) (by decide) (Memory.fill 1 0) (Memory.fill 3 0) [[1], [2], [3]] (by decide)

end SlidingBuffer

end Corstone.SpeechRecognition
