import Corstone.Lib.PrefixTable
import Corstone.Lib.Ring
import Corstone.Lib.Run

/-!
# The receive ring of the UART

Models of `uart_cb` and `acamera_uart_read` (`acamera_uart.c`, lines 53–77 and 101–142). The driver
stores a byte in the cell that it has been given, and calls `uart_cb`. Between two of these calls a
read evaluates `available`, or copies a byte, or moves `rb_last_read`; an evaluation of `available`
takes the indices as they are at one time, since they are not `volatile`.

The test of `uart_cb` for an overflow is made where `rb_next_free` is 0, which is not above
`rb_last_read`. Reception never stops, and a byte that arrives when the ring is full replaces one
that has not been read.

* `uart_run`: in every run the indices and the accesses are in bounds; what the reads return is a
  prefix of what has been received, if each byte finds a cell whose byte has been copied.
* `overwritten`: a byte too many, and the next read returns it first.
-/

namespace Corstone.Isp.UartRing

open Corstone.Lib

/-- `ACAMERA_UART_RECEIVE_BUFFER_SIZE`. -/
def receiveBufferSize : ℕ := 4096

/-- Where a read is. -/
inductive Reader
  | idle
  /-- In the loop for `available`. -/
  | waiting (size : ℕ)
  /-- In the `memcpy` up to the end of the buffer, with the bytes that it has copied. -/
  | copyEnd (size : ℕ) (data : List UInt8)
  /-- In the last `memcpy`, behind the bytes of the one before. -/
  | copy (size : ℕ) (before data : List UInt8)

/-- The bytes that a read has copied. -/
def Reader.data : Reader → List UInt8
  | .idle => []
  | .waiting _ => []
  | .copyEnd _ data => data
  | .copy _ before data => before ++ data

/-- The statics of `acamera_uart.c`, the driver and the reader. -/
structure Uart where
  receiveBuffer : ℕ → UInt8 := fun _ => 0
  rbLastRead : ℕ := 0
  rbNextFree : ℕ := 0
  /-- `Receive` waits for a byte for the cell `rbNextFree`. -/
  armed : Bool := true
  /-- The number of bytes that have been received. -/
  received : ℕ := 0
  reader : Reader := .idle
  /-- What the reads have returned. -/
  returned : List UInt8 := []
  /-- A cell behind the end of the buffer has been accessed. -/
  outOfBounds : Bool := false

/-- The sizes of a read. -/
abbrev ReadSize := { size : ℕ // 1 ≤ size ∧ size < receiveBufferSize }

inductive UartAction
  /-- The next byte of the stream arrives. -/
  | byte
  /-- `acamera_uart_read` is called. -/
  | call (size : ReadSize)
  /-- The read that runs goes on. -/
  | read

/-- `uart_cb` with `ARM_USART_EVENT_RECEIVE_COMPLETE`. -/
def uartCb (s : Uart) : Uart :=
  let rbNextFree := s.rbNextFree + 1
  if receiveBufferSize ≤ rbNextFree then
    let rbNextFree := rbNextFree - receiveBufferSize
    if s.rbLastRead < rbNextFree then { s with rbNextFree, armed := false }
    else { s with rbNextFree }
  else { s with rbNextFree }

/-- The driver receives a byte, if `Receive` waits for one. -/
def arrive (b : UInt8) (s : Uart) : Uart :=
  if s.armed then
    uartCb { s with
      receiveBuffer := Function.update s.receiveBuffer s.rbNextFree b
      received := s.received + 1
      outOfBounds := s.outOfBounds || decide (receiveBufferSize ≤ s.rbNextFree) }
  else s

/-- `available`. -/
def available (s : Uart) : ℕ :=
  if s.rbNextFree < s.rbLastRead then s.rbNextFree + receiveBufferSize - s.rbLastRead
  else s.rbNextFree - s.rbLastRead

/-- The next step of a read. -/
def readStep (s : Uart) : Uart :=
  match s.reader with
  | .idle => s
  | .waiting size =>
    if available s < size then s
    else if receiveBufferSize < s.rbLastRead + size then { s with reader := .copyEnd size [] }
    else { s with reader := .copy size [] [] }
  | .copyEnd size data =>
    if data.length < receiveBufferSize - s.rbLastRead then
      { s with
        reader := .copyEnd size (data ++ [s.receiveBuffer (s.rbLastRead + data.length)])
        outOfBounds :=
          s.outOfBounds || decide (receiveBufferSize ≤ s.rbLastRead + data.length) }
    else { s with rbLastRead := 0, reader := .copy (size - data.length) data [] }
  | .copy size before data =>
    if data.length < size then
      { s with
        reader := .copy size before (data ++ [s.receiveBuffer (s.rbLastRead + data.length)])
        outOfBounds :=
          s.outOfBounds || decide (receiveBufferSize ≤ s.rbLastRead + data.length) }
    else
      { s with
        rbLastRead := s.rbLastRead + size
        reader := .idle
        returned := s.returned ++ (before ++ data) }

/-- `acamera_uart_read` is called, by one task. -/
def call (size : ℕ) (s : Uart) : Uart :=
  match s.reader with
  | .idle => { s with reader := .waiting size }
  | _ => s

/-- One step, when the stream of bytes arrives. -/
def step (stream : ℕ → UInt8) (s : Uart) : UartAction → Uart
  | .byte => arrive (stream s.received) s
  | .call size => call size.1 s
  | .read => readStep s

/-- The bytes that have been copied. -/
def Uart.copied (s : Uart) : List UInt8 := s.returned ++ s.reader.data

/-- The indices and all accesses so far are in bounds. -/
structure InBounds (s : Uart) : Prop where
  rbLastRead : s.rbLastRead ≤ receiveBufferSize
  rbNextFree : s.rbNextFree ≤ receiveBufferSize
  accesses : s.outOfBounds = false

/-- A byte arrives only while less than the whole buffer has been received and not been copied. -/
def FindsFree (s : Uart) : UartAction → Prop
  | .byte => s.received < s.copied.length + receiveBufferSize
  | _ => True

variable {stream : ℕ → UInt8} {s : Uart}

/-! ## The receiver and the bounds -/

/-- What a read has left to copy is in the buffer. -/
def Reader.Fits (rbLastRead : ℕ) : Reader → Prop
  | .idle => True
  | .waiting size => size < receiveBufferSize
  | .copyEnd size data =>
    data.length ≤ receiveBufferSize - rbLastRead ∧ size < receiveBufferSize ∧
      receiveBufferSize < rbLastRead + size
  | .copy size _ data => data.length ≤ size ∧ rbLastRead + size ≤ receiveBufferSize

/-- What holds in every run: the cells have the last bytes that have been received, and the next one
    goes behind them. -/
structure Receiving (stream : ℕ → UInt8) (s : Uart) : Prop where
  bounds : InBounds s
  nextFree : s.rbNextFree = s.received % receiveBufferSize
  armed : s.armed = true
  holds : Ring.Holds receiveBufferSize s.receiveBuffer stream s.received
  fits : s.reader.Fits s.rbLastRead

/-- The test for an overflow is made for the index 0 only. -/
theorem uartCb_eq (h : s.rbNextFree < receiveBufferSize) :
    uartCb s = { s with rbNextFree := (s.rbNextFree + 1) % receiveBufferSize } := by
  unfold uartCb
  by_cases hwrap : receiveBufferSize ≤ s.rbNextFree + 1
  · have hlast : s.rbNextFree + 1 = receiveBufferSize := by omega
    simp only [hlast, le_refl, if_true, Nat.sub_self, Nat.not_lt_zero, if_false, Nat.mod_self]
  · simp only [if_neg hwrap, Nat.mod_eq_of_lt (show s.rbNextFree + 1 < receiveBufferSize by omega)]

/-- A byte is stored in its cell. -/
theorem arrive_eq (h : Receiving stream s) (b : UInt8) : arrive b s = { s with
    rbNextFree := (s.rbNextFree + 1) % receiveBufferSize
    receiveBuffer := Function.update s.receiveBuffer s.rbNextFree b
    received := s.received + 1 } := by
  have hlt : s.rbNextFree < receiveBufferSize := by
    rw [h.nextFree]
    exact Nat.mod_lt _ (by decide)
  have haccess : (s.outOfBounds || decide (receiveBufferSize ≤ s.rbNextFree)) = s.outOfBounds := by
    simp [hlt]
  unfold arrive
  rw [if_pos h.armed, haccess]
  exact uartCb_eq hlt

theorem receiving_arrive (h : Receiving stream s) :
    Receiving stream (arrive (stream s.received) s) := by
  rw [arrive_eq h]
  refine ⟨⟨h.bounds.rbLastRead, (Nat.mod_lt _ (by decide)).le, h.bounds.accesses⟩, ?_, h.armed, ?_,
    h.fits⟩
  · show (s.rbNextFree + 1) % receiveBufferSize = (s.received + 1) % receiveBufferSize
    rw [h.nextFree, Nat.mod_add_mod]
  · show Ring.Holds receiveBufferSize (Function.update s.receiveBuffer s.rbNextFree _) stream _
    rw [h.nextFree]
    exact h.holds.put

theorem receiving_readStep (h : Receiving stream s) : Receiving stream (readStep s) := by
  obtain ⟨⟨hlast, hnext, haccesses⟩, hnextFree, harmed, hholds, hfits⟩ := h
  unfold readStep
  cases hreader : s.reader with
  | idle => exact ⟨⟨hlast, hnext, haccesses⟩, hnextFree, harmed, hholds, hfits⟩
  | waiting size =>
    rw [hreader] at hfits
    have hsize : size < receiveBufferSize := hfits
    simp only
    by_cases hwait : available s < size
    · rw [if_pos hwait]
      refine ⟨⟨hlast, hnext, haccesses⟩, hnextFree, harmed, hholds, ?_⟩
      rwa [hreader]
    rw [if_neg hwait]
    by_cases hend : receiveBufferSize < s.rbLastRead + size
    · rw [if_pos hend]
      exact ⟨⟨hlast, hnext, haccesses⟩, hnextFree, harmed, hholds, Nat.zero_le _, hsize, hend⟩
    · rw [if_neg hend]
      exact ⟨⟨hlast, hnext, haccesses⟩, hnextFree, harmed, hholds, Nat.zero_le _,
        not_lt.mp hend⟩
  | copyEnd size data =>
    rw [hreader] at hfits
    obtain ⟨hdata, hsize, hend⟩ := hfits
    simp only
    by_cases hmore : data.length < receiveBufferSize - s.rbLastRead
    · rw [if_pos hmore]
      refine ⟨⟨hlast, hnext, ?_⟩, hnextFree, harmed, hholds, ?_, hsize, hend⟩
      · have hin : ¬ receiveBufferSize ≤ s.rbLastRead + data.length := by omega
        simp [haccesses, hin]
      · show (data ++ [_]).length ≤ receiveBufferSize - s.rbLastRead
        rw [List.length_append, List.length_singleton]
        omega
    · rw [if_neg hmore]
      refine ⟨⟨Nat.zero_le _, hnext, haccesses⟩, hnextFree, harmed, hholds, Nat.zero_le _, ?_⟩
      show 0 + (size - data.length) ≤ receiveBufferSize
      omega
  | copy size before data =>
    rw [hreader] at hfits
    obtain ⟨hdata, hend⟩ := hfits
    simp only
    by_cases hmore : data.length < size
    · rw [if_pos hmore]
      refine ⟨⟨hlast, hnext, ?_⟩, hnextFree, harmed, hholds, ?_, hend⟩
      · have hin : ¬ receiveBufferSize ≤ s.rbLastRead + data.length := by omega
        simp [haccesses, hin]
      · rw [List.length_append, List.length_singleton]
        omega
    · rw [if_neg hmore]
      exact ⟨⟨hend, hnext, haccesses⟩, hnextFree, harmed, hholds, trivial⟩

theorem receiving_step (h : Receiving stream s) (a : UartAction) :
    Receiving stream (step stream s a) := by
  cases a with
  | byte => exact receiving_arrive h
  | call size =>
    show Receiving stream (call size.1 s)
    unfold call
    cases hreader : s.reader with
    | idle =>
      obtain ⟨⟨hlast, hnext, haccesses⟩, hnextFree, harmed, hholds, -⟩ := h
      exact ⟨⟨hlast, hnext, haccesses⟩, hnextFree, harmed, hholds, size.2.2⟩
    | waiting _ => exact h
    | copyEnd _ _ => exact h
    | copy _ _ _ => exact h
  | read => exact receiving_readStep h

/-! ## The reads -/

/-- Where `rb_last_read` stands in the stream, of which `returned` bytes have been returned and
    `received` received. The bytes of a read that copies have all been received. -/
def Reader.At (rbLastRead returned received : ℕ) : Reader → Prop
  | .idle => rbLastRead % receiveBufferSize = returned % receiveBufferSize
  | .waiting _ => rbLastRead % receiveBufferSize = returned % receiveBufferSize
  | .copyEnd size _ =>
    rbLastRead % receiveBufferSize = returned % receiveBufferSize ∧ returned + size ≤ received
  | .copy size before _ =>
    rbLastRead % receiveBufferSize = (returned + before.length) % receiveBufferSize ∧
      returned + before.length + size ≤ received

/-- What holds in the runs that overwrite nothing. -/
structure Delivering (stream : ℕ → UInt8) (s : Uart) : Prop where
  copied : s.copied = items stream s.copied.length
  received : s.copied.length ≤ s.received
  close : s.received ≤ s.copied.length + receiveBufferSize
  position : s.reader.At s.rbLastRead s.returned.length s.received

/-- The number of bytes that `available` counts: the indices of a full ring are those of an empty
    one. -/
theorem available_eq {returned : ℕ} (h : Receiving stream s)
    (hlast : s.rbLastRead % receiveBufferSize = returned % receiveBufferSize)
    (hreceived : returned ≤ s.received) :
    available s = (s.received - returned) % receiveBufferSize := by
  have hnext := h.nextFree
  have hle := h.bounds.rbLastRead
  unfold available
  simp only [receiveBufferSize] at *
  split_ifs <;> omega

theorem items_succ (n : ℕ) : items stream (n + 1) = items stream n ++ [stream n] := by
  simp [items, List.range_succ]

/-- A byte that is copied is the next one of the stream. -/
theorem delivering_load (h : Receiving stream s) (hs : Delivering stream s) {index : ℕ}
    (hindex : index < receiveBufferSize)
    (hposition : index % receiveBufferSize = s.copied.length % receiveBufferSize)
    (hlt : s.copied.length < s.received) :
    s.receiveBuffer index = stream s.copied.length := by
  have hcell := h.holds s.copied.length hlt hs.close
  rwa [← hposition, Nat.mod_eq_of_lt hindex] at hcell

theorem delivering_arrive (h : Receiving stream s) (hs : Delivering stream s)
    (hfree : s.received < s.copied.length + receiveBufferSize) :
    Delivering stream (arrive (stream s.received) s) := by
  rw [arrive_eq h]
  refine ⟨hs.copied, hs.received.trans (Nat.le_succ _), hfree, ?_⟩
  have hposition := hs.position
  show s.reader.At s.rbLastRead s.returned.length (s.received + 1)
  cases hreader : s.reader with
  | idle => rwa [hreader] at hposition
  | waiting size => rwa [hreader] at hposition
  | copyEnd size data =>
    rw [hreader] at hposition
    exact ⟨hposition.1, hposition.2.trans (Nat.le_succ _)⟩
  | copy size before data =>
    rw [hreader] at hposition
    exact ⟨hposition.1, hposition.2.trans (Nat.le_succ _)⟩

/-- A step of a read that copies nothing. -/
theorem delivering_of_same {s' : Uart} (hs : Delivering stream s) (hcopied : s'.copied = s.copied)
    (hreceived : s'.received = s.received)
    (hposition : s'.reader.At s'.rbLastRead s'.returned.length s.received) :
    Delivering stream s' := by
  refine ⟨?_, ?_, ?_, ?_⟩
  · rw [hcopied]
    exact hs.copied
  · rw [hcopied, hreceived]
    exact hs.received
  · rw [hcopied, hreceived]
    exact hs.close
  · rw [hreceived]
    exact hposition

/-- A step of a read that copies the next byte. -/
theorem delivering_of_next {s' : Uart} (hs : Delivering stream s)
    (hcopied : s'.copied = s.copied ++ [stream s.copied.length])
    (hlt : s.copied.length < s.received) (hreceived : s'.received = s.received)
    (hposition : s'.reader.At s'.rbLastRead s'.returned.length s.received) :
    Delivering stream s' := by
  have hlength : s'.copied.length = s.copied.length + 1 := by simp [hcopied]
  have hclose := hs.close
  refine ⟨?_, ?_, ?_, ?_⟩
  · rw [hlength, items_succ, ← hs.copied]
    exact hcopied
  · omega
  · omega
  · rw [hreceived]
    exact hposition

theorem delivering_readStep (h : Receiving stream s) (hs : Delivering stream s) :
    Delivering stream (readStep s) := by
  have hle := h.bounds.rbLastRead
  have hfits := h.fits
  have hposition := hs.position
  have hreceived := hs.received
  unfold readStep
  cases hreader : s.reader with
  | idle => exact hs
  | waiting size =>
    rw [hreader] at hposition
    have hlast : s.rbLastRead % receiveBufferSize = s.returned.length % receiveBufferSize :=
      hposition
    have hcopied : s.copied = s.returned := by simp [Uart.copied, hreader, Reader.data]
    have havailable := available_eq h hlast (by rwa [← hcopied])
    simp only
    by_cases hwait : available s < size
    · rwa [if_pos hwait]
    -- All bytes that the read is going to copy have been received.
    have hsize : s.returned.length + size ≤ s.received := by
      have := Nat.mod_le (s.received - s.returned.length) receiveBufferSize
      rw [hcopied] at hreceived
      omega
    rw [if_neg hwait]
    by_cases hend : receiveBufferSize < s.rbLastRead + size
    · rw [if_pos hend]
      exact delivering_of_same hs (by simp [Uart.copied, hreader, Reader.data]) rfl ⟨hlast, hsize⟩
    · rw [if_neg hend]
      exact delivering_of_same hs (by simp [Uart.copied, hreader, Reader.data]) rfl ⟨hlast, hsize⟩
  | copyEnd size data =>
    rw [hreader] at hfits hposition
    obtain ⟨hdata, hsize, hend⟩ := hfits
    obtain ⟨hlast, htotal⟩ := hposition
    have hcopied : s.copied = s.returned ++ data := by simp [Uart.copied, hreader, Reader.data]
    have hlength : s.copied.length = s.returned.length + data.length := by simp [hcopied]
    simp only
    by_cases hmore : data.length < receiveBufferSize - s.rbLastRead
    · have hbyte : s.receiveBuffer (s.rbLastRead + data.length) = stream s.copied.length := by
        refine delivering_load h hs (by omega) ?_ (by omega)
        rw [hlength, Nat.add_mod, hlast, ← Nat.add_mod]
      rw [if_pos hmore]
      refine delivering_of_next hs ?_ (by omega) rfl ⟨hlast, htotal⟩
      rw [← hbyte, hcopied, List.append_assoc]
      rfl
    · rw [if_neg hmore]
      refine delivering_of_same hs ?_ rfl ⟨?_, ?_⟩
      · rw [hcopied]
        exact congrArg (s.returned ++ ·) (List.append_nil data)
      · simp only [receiveBufferSize] at *
        omega
      · show s.returned.length + data.length + (size - data.length) ≤ s.received
        omega
  | copy size before data =>
    rw [hreader] at hfits hposition
    obtain ⟨hdata, hend⟩ := hfits
    obtain ⟨hlast, htotal⟩ := hposition
    have hcopied : s.copied = s.returned ++ (before ++ data) := by
      simp [Uart.copied, hreader, Reader.data]
    have hlength : s.copied.length = s.returned.length + before.length + data.length := by
      simp [hcopied, Nat.add_assoc]
    simp only
    by_cases hmore : data.length < size
    · have hbyte : s.receiveBuffer (s.rbLastRead + data.length) = stream s.copied.length := by
        refine delivering_load h hs (by omega) ?_ (by omega)
        rw [hlength, Nat.add_mod, hlast, ← Nat.add_mod]
      rw [if_pos hmore]
      refine delivering_of_next hs ?_ (by omega) rfl ⟨hlast, htotal⟩
      rw [← hbyte, hcopied, List.append_assoc, List.append_assoc]
      rfl
    · rw [if_neg hmore]
      refine delivering_of_same hs ?_ rfl ?_
      · rw [hcopied]
        exact List.append_nil _
      · have hsize : data.length = size := by omega
        show (s.rbLastRead + size) % receiveBufferSize =
          (s.returned ++ (before ++ data)).length % receiveBufferSize
        rw [List.length_append, List.length_append, hsize, ← Nat.add_assoc, Nat.add_mod, hlast,
          ← Nat.add_mod]

theorem delivering_step (h : Receiving stream s) (hs : Delivering stream s) (a : UartAction)
    (ha : FindsFree s a) : Delivering stream (step stream s a) := by
  cases a with
  | byte => exact delivering_arrive h hs ha
  | call size =>
    show Delivering stream (call size.1 s)
    unfold call
    have hposition := hs.position
    cases hreader : s.reader with
    | idle =>
      rw [hreader] at hposition
      exact delivering_of_same hs (by simp [Uart.copied, hreader, Reader.data]) rfl hposition
    | waiting _ => exact hs
    | copyEnd _ _ => exact hs
    | copy _ _ _ => exact hs
  | read => exact delivering_readStep h hs

theorem receiving_start (stream : ℕ → UInt8) : Receiving stream {} :=
  ⟨⟨Nat.zero_le _, Nat.zero_le _, rfl⟩, rfl, rfl, Ring.holds_zero _ _ _, trivial⟩

/-- In every run both indices and all accesses are in bounds, and reception never stops. In a run
    whose bytes find a cell that is free, the reads return the stream, from its start and in its
    order. -/
theorem uart_run (stream : ℕ → UInt8) (as : List UartAction) :
    InBounds (run (step stream) {} as) ∧ (run (step stream) {} as).armed = true ∧
      (Along (step stream) FindsFree {} as →
        (run (step stream) {} as).returned =
            items stream (run (step stream) {} as).returned.length ∧
          (run (step stream) {} as).returned.length ≤ (run (step stream) {} as).received) := by
  have hreceiving : Receiving stream (run (step stream) {} as) :=
    run_inv (I := Receiving stream) (fun s a h => receiving_step h a) (receiving_start stream) as
  refine ⟨hreceiving.bounds, hreceiving.armed, fun hfree => ?_⟩
  have hstart : Delivering stream {} := ⟨rfl, le_refl _, Nat.zero_le _, rfl⟩
  have hdelivering := hfree.inv (I := fun s => Receiving stream s ∧ Delivering stream s)
    (fun s a h ha => ⟨receiving_step h.1 a, delivering_step h.1 h.2 a ha⟩)
    ⟨receiving_start stream, hstart⟩
  generalize run (step stream) {} as = s at hdelivering
  obtain ⟨-, hcopied, hreceived, -, -⟩ := hdelivering
  have hle : s.returned.length ≤ s.copied.length := by simp [Uart.copied]
  refine ⟨?_, by omega⟩
  have hprefix : s.returned = s.copied.take s.returned.length := by simp [Uart.copied]
  rw [hcopied, take_items stream hle] at hprefix
  exact hprefix

/-- Two bytes arrive, one of them is read, and the first of them is returned. -/
theorem uart_run_two :
    (run (step fun n => UInt8.ofNat (n + 7)) {}
      [.byte, .byte, .call ⟨1, by decide⟩, .read, .read, .read]).returned = [7] := by
  have hfree : Along (step fun n => UInt8.ofNat (n + 7)) FindsFree {}
      [.byte, .byte, .call ⟨1, by decide⟩, .read, .read, .read] := by
    simp [Along, step, FindsFree, arrive, uartCb, Uart.copied, receiveBufferSize]
  have hreads := ((uart_run (fun n => UInt8.ofNat (n + 7))
    [.byte, .byte, .call ⟨1, by decide⟩, .read, .read, .read]).2.2 hfree).1
  rw [hreads]
  rfl

/-- The bytes that arrive before the first read. -/
theorem run_bytes (stream : ℕ → UInt8) (n : ℕ) :
    ∃ cells, run (step stream) {} (List.replicate n .byte) =
      { receiveBuffer := cells, rbNextFree := n % receiveBufferSize, received := n } ∧
        Ring.Holds receiveBufferSize cells stream n := by
  induction n with
  | zero => exact ⟨fun _ => 0, rfl, Ring.holds_zero _ _ _⟩
  | succ n ih =>
    obtain ⟨cells, hrun, hholds⟩ := ih
    have hreceiving : Receiving stream (run (step stream) {} (List.replicate n .byte)) :=
      run_inv (I := Receiving stream) (fun s a h => receiving_step h a) (receiving_start stream) _
    rw [hrun] at hreceiving
    refine ⟨Ring.put receiveBufferSize cells n (stream n), ?_, hholds.put⟩
    rw [List.replicate_succ', run_append, hrun]
    rw [run_cons, run_nil, step, arrive_eq hreceiving, Nat.mod_add_mod]
    rfl

/-- One byte more than the buffer holds has arrived when the first byte is read: the last one is
    returned in its place. -/
theorem overwritten :
    let stream : ℕ → UInt8 := fun n => if n = 4096 then 1 else 0
    let s := run (step stream) {} (List.replicate 4097 .byte ++
      [.call ⟨1, by decide⟩, .read, .read, .read])
    s.returned = [1] ∧ stream 0 = 0 ∧ s.armed = true := by
  intro stream s
  obtain ⟨cells, hrun, hholds⟩ := run_bytes stream 4097
  have hcell : cells 0 = 1 := hholds 4096 (by decide) (by decide)
  have hs : s = run (step stream)
      { receiveBuffer := cells, rbNextFree := 4097 % receiveBufferSize, received := 4097 }
      [.call ⟨1, by decide⟩, .read, .read, .read] := by
    rw [← hrun]
    exact run_append _ _ _ _
  rw [hs]
  simp [step, call, readStep, available, receiveBufferSize, hcell, stream]

end Corstone.Isp.UartRing
