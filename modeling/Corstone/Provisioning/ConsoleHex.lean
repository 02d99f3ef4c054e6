import Corstone.Lib.HexText
import Corstone.Lib.Memory

/-!
# A key on the console

Model of `prvWriteHexBytesToConsole` (`dev_mode_key_provisioning.c`, lines 1049–1096). A
row is put together in an array of 41 bytes: two digits for a byte, a blank behind two bytes,
and the NUL behind the last of 16. No result means that a pointer leaves its array, that a
null pointer is read, or that `printf` finds no NUL.

* `ByteRow.Pending.writeByte`: what one byte adds to the text.
* `prvWriteHexBytesToConsole_eq`: the rows that are printed, whatever the length.
* `readHex_of_printed`: the bytes can be read back.
-/

namespace Corstone.Provisioning

open Corstone.Lib

/-! ## Model -/

/-- `BYTES_TO_DISPLAY_PER_ROW`. -/
def bytesToDisplayPerRow : ℕ := 16

/-- `sizeof( pcByteRow )`. -/
def byteRowSize : ℕ := 1 + bytesToDisplayPerRow * 2 + bytesToDisplayPerRow / 2

/-- The array `pcByteRow`, the place of `pcNextChar` in it, and what has been printed. -/
structure ByteRow where
  pcByteRow : Memory UInt8 byteRowSize
  pcNextChar : ℕ
  printed : Bytes

/-- `snprintf( pcNextChar, …, "%02x", ucByteValue )`, the digits that fit and the NUL, and
    `pcNextChar += 2`. -/
def ByteRow.digits (r : ByteRow) (ucByteValue : UInt8) : Option ByteRow :=
  if byteRowSize < r.pcNextChar then none
  else if r.pcNextChar = byteRowSize then some { r with pcNextChar := r.pcNextChar + 2 }
  else (r.pcByteRow.write r.pcNextChar
      ((hexByte ucByteValue).take (byteRowSize - r.pcNextChar - 1) ++ [0])).map fun m =>
    { r with pcByteRow := m, pcNextChar := r.pcNextChar + 2 }

/-- `*pcNextChar = ' '` and the increment. -/
def ByteRow.blank (r : ByteRow) : Option ByteRow :=
  (r.pcByteRow.write r.pcNextChar [32]).map fun m =>
    { r with pcByteRow := m, pcNextChar := r.pcNextChar + 1 }

/-- The NUL, the two calls of `printf`, and the start of the next row. -/
def ByteRow.print (r : ByteRow) : Option ByteRow :=
  (r.pcByteRow.write r.pcNextChar [0]).bind fun m =>
    if 0 ∈ m.cells then some ⟨m, 0, r.printed ++ cstr m.cells ++ [13, 10]⟩ else none

/-- The end of a two-byte word (lines 1072–1077). -/
def ByteRow.endWord (ulIndex : ℕ) (r : ByteRow) : Option ByteRow :=
  if (ulIndex + 1) % 2 = 0 then r.blank else some r

/-- The end of a row (lines 1079–1086). -/
def ByteRow.endRow (ulIndex : ℕ) (r : ByteRow) : Option ByteRow :=
  if (ulIndex + 1) % bytesToDisplayPerRow = 0 then r.print else some r

/-- The body of the loop. -/
def ByteRow.writeByte (r : ByteRow) (ulIndex : ℕ) (ucByteValue : UInt8) : Option ByteRow :=
  ((r.digits ucByteValue).bind (endWord ulIndex)).bind (endRow ulIndex)

/-- The loop over `n` bytes from `ulIndex` on. -/
def ByteRow.writeBytes (pucData : Option Bytes) : ℕ → ℕ → ByteRow → Option ByteRow
  | 0, _, r => some r
  | n + 1, ulIndex, r =>
    (pucData.bind fun data => data[ulIndex]?).bind fun ucByteValue =>
      (r.writeByte ulIndex ucByteValue).bind (ByteRow.writeBytes pucData n (ulIndex + 1))

/-- `prvWriteHexBytesToConsole`: what it prints. `pucData` may be NULL, and nothing is known of
    the array on the stack. -/
def prvWriteHexBytesToConsole (pcByteRow : Memory UInt8 byteRowSize) (pucData : Option Bytes)
    (ulDataLength : ℕ) : Option Bytes := do
  let r ← ByteRow.writeBytes pucData ulDataLength 0 ⟨pcByteRow, 0, []⟩
  if 0 < r.pcNextChar then r.print.map ByteRow.printed else some r.printed

/-! ## The text -/

/-- What the byte at `i` adds. -/
def hexCell (i : ℕ) (b : UInt8) : Bytes :=
  hexByte b ++ (if (i + 1) % 2 = 0 then [32] else []) ++
    if (i + 1) % bytesToDisplayPerRow = 0 then [13, 10] else []

/-- The text of the bytes from the place `i` on. -/
def hexCells : ℕ → Bytes → Bytes
  | _, [] => []
  | i, b :: s => hexCell i b ++ hexCells (i + 1) s

/-- The rows, the last of which may be shorter. -/
def hexRows (s : Bytes) : Bytes :=
  hexCells 0 s ++ if s.length % bytesToDisplayPerRow = 0 then [] else [13, 10]

/-- The text without blanks and line ends. -/
def digitsOnly (text : Bytes) : Bytes := text.filter fun c => 32 < c.toNat

theorem digitsOnly_hexByte (b : UInt8) : digitsOnly (hexByte b) = hexByte b := by
  apply List.filter_eq_self.mpr
  intro c hc
  simpa using lt_of_mem_hexByte hc

theorem digitsOnly_append (s t : Bytes) : digitsOnly (s ++ t) = digitsOnly s ++ digitsOnly t :=
  List.filter_append ..

theorem digitsOnly_hexCell (i : ℕ) (b : UInt8) : digitsOnly (hexCell i b) = hexByte b := by
  rw [hexCell, digitsOnly_append, digitsOnly_append, digitsOnly_hexByte]
  split_ifs <;> simp [digitsOnly]

/-- The digits are those of the bytes, in their order. -/
theorem digitsOnly_hexRows (s : Bytes) : digitsOnly (hexRows s) = hexText s := by
  have hcells : ∀ i, digitsOnly (hexCells i s) = hexText s := by
    induction s with
    | nil => intro i; rfl
    | cons b s ih =>
      intro i
      rw [hexCells, digitsOnly_append, digitsOnly_hexCell, ih, hexText_cons]
  rw [hexRows, digitsOnly_append, hcells]
  split_ifs <;> simp [digitsOnly]

/-! ## One byte -/

/-- `text` has been printed, but for what `pcByteRow` holds before `pcNextChar`. -/
structure ByteRow.Holds (r : ByteRow) (text : Bytes) : Prop where
  text_eq : r.printed ++ r.pcByteRow.cells.take r.pcNextChar = text
  no_nul : 0 ∉ r.pcByteRow.cells.take r.pcNextChar

/-- More characters in the row. -/
theorem ByteRow.Holds.append {r r' : ByteRow} {text chars : Bytes} (h : r.Holds text)
    (hprinted : r'.printed = r.printed) (hchars : 0 ∉ chars)
    (htake : r'.pcByteRow.cells.take r'.pcNextChar =
      r.pcByteRow.cells.take r.pcNextChar ++ chars) : r'.Holds (text ++ chars) := by
  constructor
  · rw [htake, hprinted, ← List.append_assoc, h.text_eq]
  · rw [htake, List.mem_append]
    rintro (hmem | hmem)
    · exact h.no_nul hmem
    · exact hchars hmem

theorem zero_notMem_hexByte (b : UInt8) : 0 ∉ hexByte b := by
  intro h
  exact absurd (lt_of_mem_hexByte h) (by decide)

/-- The digits stay inside the row, and so does the NUL behind them. -/
theorem ByteRow.Holds.digits {r : ByteRow} {text : Bytes} (h : r.Holds text) (b : UInt8)
    (hlt : r.pcNextChar + 2 < byteRowSize) :
    ∃ r', r.digits b = some r' ∧ r'.pcNextChar = r.pcNextChar + 2 ∧
      r'.Holds (text ++ hexByte b) := by
  have htake : (hexByte b).take (byteRowSize - r.pcNextChar - 1) = hexByte b := by
    apply List.take_of_length_le
    rw [length_hexByte]
    omega
  have hfit : r.pcNextChar + (hexByte b ++ [0]).length ≤ byteRowSize := by
    rw [List.length_append, length_hexByte]
    exact hlt
  obtain ⟨m, hm, -⟩ := r.pcByteRow.exists_write r.pcNextChar (hexByte b ++ [0]) hfit
  refine ⟨{ r with pcByteRow := m, pcNextChar := r.pcNextChar + 2 }, ?_, rfl,
    h.append rfl (zero_notMem_hexByte b) ?_⟩
  · rw [ByteRow.digits, if_neg (by omega), if_neg (by omega), htake, hm]
    rfl
  · have hlength : (r.pcByteRow.cells.take r.pcNextChar ++ hexByte b).length =
        r.pcNextChar + 2 := by
      rw [List.length_append, length_hexByte, List.length_take, r.pcByteRow.length_cells]
      omega
    -- the NUL is not part of the text
    have hend := congrArg (List.take (r.pcNextChar + 2)) (Memory.take_write_end hm)
    rw [List.take_take, ← List.append_assoc, List.take_left' hlength, List.length_append,
      length_hexByte, min_eq_left (by omega)] at hend
    exact hend

theorem ByteRow.Holds.blank {r : ByteRow} {text : Bytes} (h : r.Holds text)
    (hlt : r.pcNextChar < byteRowSize) :
    ∃ r', r.blank = some r' ∧ r'.pcNextChar = r.pcNextChar + 1 ∧ r'.Holds (text ++ [32]) := by
  obtain ⟨m, hm, -⟩ := r.pcByteRow.exists_write r.pcNextChar [32] hlt
  refine ⟨{ r with pcByteRow := m, pcNextChar := r.pcNextChar + 1 }, ?_, rfl,
    h.append rfl (by decide) (Memory.take_write_end hm)⟩
  rw [ByteRow.blank, hm]
  rfl

/-- The row is printed whole. -/
theorem ByteRow.Holds.print {r : ByteRow} {text : Bytes} (h : r.Holds text)
    (hlt : r.pcNextChar < byteRowSize) :
    ∃ r', r.print = some r' ∧ r'.pcNextChar = 0 ∧ r'.printed = text ++ [13, 10] := by
  obtain ⟨m, hm, hcells⟩ := r.pcByteRow.exists_write r.pcNextChar [0] hlt
  have hmem : 0 ∈ m.cells := by simp [hcells]
  have hcstr : cstr m.cells = r.pcByteRow.cells.take r.pcNextChar := by
    rw [hcells, List.append_assoc, cstr_append h.no_nul, List.singleton_append, cstr_zero_cons,
      List.append_nil]
  refine ⟨⟨m, 0, r.printed ++ cstr m.cells ++ [13, 10]⟩, ?_, rfl, ?_⟩
  · rw [ByteRow.print, hm, Option.bind_some, if_pos hmem]
  · show r.printed ++ cstr m.cells ++ [13, 10] = _
    rw [hcstr, h.text_eq]

/-- Behind `i` bytes with the text `text`. -/
structure ByteRow.Pending (r : ByteRow) (i : ℕ) (text : Bytes) : Prop where
  next : r.pcNextChar = 2 * (i % 16) + i % 16 / 2
  holds : r.Holds text

/-- What one byte adds to the text. At most 40 characters and a NUL are in the row: the NUL
    behind the 16th byte is its last cell. -/
theorem ByteRow.Pending.writeByte {r : ByteRow} {i : ℕ} {text : Bytes} (h : r.Pending i text)
    (b : UInt8) :
    ∃ r', r.writeByte i b = some r' ∧ r'.Pending (i + 1) (text ++ hexCell i b) := by
  have hnext := h.next
  have hsize : byteRowSize = 41 := rfl
  have hperRow : bytesToDisplayPerRow = 16 := rfl
  obtain ⟨r₁, hr₁, hnext₁, h₁⟩ := h.holds.digits b (by omega)
  rw [ByteRow.writeByte, hr₁, Option.bind_some, ByteRow.endWord, hexCell, hperRow]
  by_cases hword : (i + 1) % 2 = 0
  · obtain ⟨r₂, hr₂, hnext₂, h₂⟩ := h₁.blank (by omega)
    rw [if_pos hword, if_pos hword, hr₂, Option.bind_some, ByteRow.endRow, hperRow,
      ← List.append_assoc, ← List.append_assoc]
    by_cases hrow : (i + 1) % 16 = 0
    · obtain ⟨r₃, hr₃, hnext₃, hprinted₃⟩ := h₂.print (by omega)
      rw [if_pos hrow, if_pos hrow]
      refine ⟨r₃, hr₃, by omega, ?_, by simp [hnext₃]⟩
      rw [hprinted₃, hnext₃, List.take_zero, List.append_nil]
    · rw [if_neg hrow, if_neg hrow, List.append_nil]
      exact ⟨r₂, rfl, by omega, h₂⟩
  · rw [if_neg hword, if_neg hword, Option.bind_some, ByteRow.endRow, hperRow,
      if_neg (by omega), if_neg (by omega), List.append_nil, List.append_nil]
    exact ⟨r₁, rfl, by omega, h₁⟩

/-! ## All bytes -/

/-- The loop, as long as it reads inside `data`: by induction on the number of bytes. -/
theorem ByteRow.writeBytes_pending (data : Bytes) (n : ℕ) :
    ∀ i r text, i + n ≤ data.length → ByteRow.Pending r i text →
      ∃ r', ByteRow.writeBytes (some data) n i r = some r' ∧
        r'.Pending (i + n) (text ++ hexCells i ((data.drop i).take n)) := by
  induction n with
  | zero =>
    intro i r text _ h
    exact ⟨r, rfl, by simpa [hexCells] using h⟩
  | succ n ih =>
    intro i r text hn h
    have hi : i < data.length := by omega
    obtain ⟨r₁, hr₁, h₁⟩ := h.writeByte data[i]
    obtain ⟨r₂, hr₂, h₂⟩ := ih (i + 1) r₁ _ (by omega) h₁
    refine ⟨r₂, ?_, ?_⟩
    · rw [writeBytes, Option.bind_some, List.getElem?_eq_getElem hi, Option.bind_some, hr₁,
        Option.bind_some, hr₂]
    · rw [List.drop_eq_getElem_cons hi, List.take_succ_cons, hexCells, ← List.append_assoc]
      have hplace : i + (n + 1) = i + 1 + n := by omega
      rw [hplace]
      exact h₂

/-- A read that finds nothing ends the loop without a result. -/
theorem ByteRow.writeBytes_eq_none (pucData : Option Bytes) (n : ℕ) :
    ∀ i r, (pucData.bind fun data => data[i + n]?) = none →
      ByteRow.writeBytes pucData (n + 1) i r = none := by
  induction n with
  | zero =>
    intro i r h
    rw [Nat.add_zero] at h
    rw [writeBytes, h]
    rfl
  | succ n ih =>
    intro i r h
    have hplace : i + 1 + n = i + (n + 1) := by omega
    rw [← hplace] at h
    rw [writeBytes, Option.bind_eq_none_iff]
    intro b _
    rw [Option.bind_eq_none_iff]
    intro r' _
    exact ih (i + 1) r' h

/-- What `n` reads find. -/
def bytesAt (pucData : Option Bytes) (n : ℕ) : Option Bytes :=
  if n = 0 then some []
  else pucData.bind fun data => if n ≤ data.length then some (data.take n) else none

theorem prvWriteHexBytesToConsole_of_le (pcByteRow : Memory UInt8 byteRowSize) (data : Bytes)
    (n : ℕ) (h : n ≤ data.length) :
    prvWriteHexBytesToConsole pcByteRow (some data) n = some (hexRows (data.take n)) := by
  have hsize : byteRowSize = 41 := rfl
  have hperRow : bytesToDisplayPerRow = 16 := rfl
  have hlength : (data.take n).length = n := by
    rw [List.length_take, min_eq_left h]
  have hstart : ByteRow.Pending ⟨pcByteRow, 0, []⟩ 0 [] := ⟨rfl, rfl, by simp⟩
  obtain ⟨r, hr, hpending⟩ := ByteRow.writeBytes_pending data n 0 _ _ (by omega) hstart
  have hnext := hpending.next
  rw [List.drop_zero, List.nil_append, Nat.zero_add] at hpending
  rw [Nat.zero_add] at hnext
  rw [prvWriteHexBytesToConsole, hr, Option.bind_eq_bind, Option.bind_some, hexRows, hlength,
    hperRow]
  by_cases hrow : n % 16 = 0
  · -- all rows are printed
    have htext := hpending.holds.text_eq
    rw [hrow] at hnext
    rw [if_neg (by omega), if_pos hrow, List.append_nil, ← htext, hnext, List.take_zero,
      List.append_nil]
  · obtain ⟨r', hr', -, hprinted⟩ := hpending.holds.print (by omega)
    rw [if_pos (by omega), if_neg hrow, hr', Option.map_some, hprinted]

/-- The rows of the bytes that there are. A null pointer is read iff the length is not zero. -/
theorem prvWriteHexBytesToConsole_eq (pcByteRow : Memory UInt8 byteRowSize)
    (pucData : Option Bytes) (n : ℕ) :
    prvWriteHexBytesToConsole pcByteRow pucData n = (bytesAt pucData n).map hexRows := by
  match n, pucData with
  | 0, _ => rfl
  | n + 1, none => rfl
  | n + 1, some data =>
    rw [bytesAt, if_neg (Nat.succ_ne_zero n), Option.bind_some]
    by_cases h : n + 1 ≤ data.length
    · rw [if_pos h, prvWriteHexBytesToConsole_of_le pcByteRow data (n + 1) h, Option.map_some]
    · have hread : ((some data).bind fun data => data[0 + n]?) = none := by
        rw [Option.bind_some, List.getElem?_eq_none_iff]
        omega
      rw [if_neg h, prvWriteHexBytesToConsole, ByteRow.writeBytes_eq_none _ n 0 _ hread]
      rfl

/-- What is printed, whatever the stack holds, is the text of the bytes in rows of 16, and these
    bytes can be read back from it. -/
theorem readHex_of_printed (pcByteRow : Memory UInt8 byteRowSize) (pucData : Option Bytes)
    (n : ℕ) :
    prvWriteHexBytesToConsole pcByteRow pucData n = (bytesAt pucData n).map hexRows ∧
      ((prvWriteHexBytesToConsole pcByteRow pucData n).bind fun text =>
        readHex (digitsOnly text)) = bytesAt pucData n := by
  refine ⟨prvWriteHexBytesToConsole_eq pcByteRow pucData n, ?_⟩
  rw [prvWriteHexBytesToConsole_eq]
  cases bytesAt pucData n with
  | none => rfl
  | some s => rw [Option.map_some, Option.bind_some, digitsOnly_hexRows, readHex_hexText]

end Corstone.Provisioning
