import Corstone.Lib.PrefixTable

/-!
# The assembly of a log message

Models of `vsnprintf_safe` and of `prvLoggingPrintfCommon` once its buffer is allocated
(`iot_logging_task_dynamic_buffers.c`, lines 118–147 and 219–364). An `int` has 32 bits and so has
a `size_t`. What `vsnprintf` returns is an input: the number of characters of the text, or a
negative number, behind which nothing has been written. The buffer is a memory without an end, and
each call is recorded with its offset and its size.

* `message_in_bounds`: `xLength` stays below the size of the buffer, no call is given memory
  outside, nothing is written outside, and the assertions hold.
* `empty_file_part`: a buffer of more than 2^31 bytes whose file part is an error fails the
  assertion behind that part.
-/

namespace Corstone.Logging

open Corstone.Lib

/-- `vsnprintf_safe` (lines 118–147), of what `vsnprintf` returns. The comparison is one of
    unsigned numbers. -/
def vsnprintfSafe (n : UInt32) (ret : Int32) : Int32 :=
  if n ≤ ret.toUInt32 then (n - 1).toInt32
  else if ret < 0 then 0
  else ret

/-- What `vsnprintf` can return for a text. -/
def VsnprintfResult (text : List Char) : Type :=
  { ret : Int32 // ret < 0 ∨ ret.toInt = text.length }

/-- A byte of the buffer. -/
inductive Cell
  | uninitialised
  | char (c : Char)
  deriving DecidableEq

/-- What `vsnprintf` leaves in the `n > 0` bytes from the offset: the characters that fit, and a
    terminator. -/
def vsnprintf (mem : ℕ → Cell) (offset n : ℕ) (text : List Char) (ret : Int32) : ℕ → Cell :=
  if ret < 0 then mem
  else fun i =>
    if i < offset then mem i
    else if i = offset + (text.take (n - 1)).length then .char '\x00'
    else ((text.take (n - 1))[i - offset]?).elim (mem i) .char

/-- `configLOGGING_MAX_MESSAGE_LENGTH`, asserted to be positive, and
    `configLOGGING_INCLUDE_TIME_AND_TASK_NAME`. -/
structure Config where
  maxMessageLength : UInt32
  includeTimeAndTaskName : Bool
  pos : 0 < maxMessageLength := by decide

/-- The levels up to `LOG_DEBUG`. -/
inductive LoggingLevel
  | none | error | warn | info | debug

/-- `pcLevelString`. -/
def LoggingLevel.string : LoggingLevel → Option (List Char)
  | .none => Option.none
  | .error => some "ERROR".toList
  | .warn => some "WARN".toList
  | .info => some "INFO".toList
  | .debug => some "DEBUG".toList

/-- What a message is made of. -/
structure Message where
  usLoggingLevel : LoggingLevel
  pcFile : Option (List Char) := none
  fileLineNo : UInt32 := 0
  pcFormat : List Char
  /-- What the format and its arguments give. -/
  text : List Char
  xMessageNumber : UInt32 := 0
  xTickCount : UInt32 := 0
  /-- `pcTaskGetName`, or "None" before the scheduler runs. -/
  pcTaskName : List Char := "None".toList

/-- `strrchr`: what stands behind the last `c`, if there is one. -/
def behindLast (c : Char) (s : List Char) : Option (List Char) :=
  if c ∈ s then some (s.reverse.takeWhile (· ≠ c)).reverse else none

/-- `pcFileName` (lines 305–319). -/
def fileName (pcFile : List Char) : List Char :=
  (behindLast '\\' pcFile).getD ((behindLast '/' pcFile).getD pcFile)

namespace Message

/-- `"%lu %lu [%s] "`. -/
def metadataText (m : Message) : List Char :=
  Nat.toDigits 10 m.xMessageNumber.toNat ++ [' '] ++ Nat.toDigits 10 m.xTickCount.toNat ++
    " [".toList ++ m.pcTaskName ++ "] ".toList

/-- `"[%s] "`. -/
def levelText (m : Message) : List Char :=
  "[".toList ++ m.usLoggingLevel.string.getD [] ++ "] ".toList

/-- `"[%s:%d] "`. -/
def fileText (m : Message) : List Char :=
  "[".toList ++ fileName (m.pcFile.getD []) ++ ":".toList ++
    (toString m.fileLineNo.toInt32.toInt).toList ++ "] ".toList

end Message

/-- The results of the calls of `vsnprintf` for a message. -/
structure Results (m : Message) where
  metadata : VsnprintfResult m.metadataText
  level : VsnprintfResult m.levelText
  file : VsnprintfResult m.fileText
  text : VsnprintfResult m.text
  newline : VsnprintfResult ['\n']

/-- A part of a message, and whether `xLength > 0` is asserted behind it. -/
structure Part where
  text : List Char
  ret : Int32
  valid : ret < 0 ∨ ret.toInt = text.length
  asserted : Bool := false

def part {text : List Char} (r : VsnprintfResult text) : Part := { text, ret := r.1, valid := r.2 }

/-- The parts that a message has, in their order (lines 245–338). -/
def parts (c : Config) (m : Message) (r : Results m) : List Part :=
  (if m.pcFormat ≠ ['\n'] ∧ c.includeTimeAndTaskName then [part r.metadata] else []) ++
  (if m.usLoggingLevel.string.isSome then [part r.level] else []) ++
  (if m.pcFile.isSome then [{ part r.file with asserted := true }] else []) ++
  [part r.text] ++
  (if 1 ≤ m.pcFormat.length ∧ m.pcFormat.getLast? ≠ some '\n' then [part r.newline] else [])

/-- The state of the assembly. -/
structure Assembly where
  xLength : UInt32
  pcPrintString : ℕ → Cell
  /-- The calls of the formatting functions, newest first: the offset and the size. -/
  calls : List (UInt32 × UInt32)

/-- The state behind the allocation of the buffer. -/
def start : Assembly := ⟨0, fun _ => .uninitialised, []⟩

/-- The assertions on `xLength`, in lines 322 and 343. -/
inductive Assertion
  | notEmpty | inBounds
  deriving DecidableEq

/-- The formatting call for a part, into what is left of the buffer. -/
def append (max : UInt32) (p : Part) (s : Assembly) : Assembly where
  xLength := s.xLength + (vsnprintfSafe (max - s.xLength) p.ret).toUInt32
  pcPrintString :=
    vsnprintf s.pcPrintString s.xLength.toNat (max - s.xLength).toNat p.text p.ret
  calls := (s.xLength, max - s.xLength) :: s.calls

/-- The parts are appended one after the other, each only if `xLength` is below the size. The
    metadata are not guarded; there `xLength` is 0. -/
def assemble (max : UInt32) : List Part → Assembly → Except Assertion Assembly
  | [], s => .ok s
  | p :: ps, s =>
    if s.xLength < max then
      if p.asserted ∧ (append max p s).xLength = 0 then .error .notEmpty
      else assemble max ps (append max p s)
    else assemble max ps s

/-- The terminator is written (lines 343–344). -/
def terminate (max : UInt32) (s : Assembly) : Except Assertion Assembly :=
  if s.xLength < max then
    .ok { s with pcPrintString := Function.update s.pcPrintString s.xLength.toNat (.char '\x00') }
  else .error .inBounds

/-- `prvLoggingPrintfCommon` with its buffer (lines 239–344). What it leaves is queued if `xLength`
    is positive. -/
def prvLoggingPrintfCommon (c : Config) (m : Message) (r : Results m) :
    Except Assertion Assembly := do
  let s ← assemble c.maxMessageLength (parts c m r) start
  terminate c.maxMessageLength s

/-! ## `vsnprintf_safe` -/

/-- An `int` that is converted to a `size_t`. -/
theorem toNat_toUInt32 (ret : Int32) :
    (ret.toUInt32.toNat : ℤ) = if ret < 0 then 2 ^ 32 + ret.toInt else ret.toInt := by
  have htoInt : ret.toInt = (ret.toUInt32.toNat : ℤ).bmod (2 ^ 32) :=
    BitVec.toInt_eq_toNat_bmod ret.toBitVec
  have hlt : ret.toUInt32.toNat < 2 ^ 32 := ret.toUInt32.toNat_lt
  have hneg : ret < 0 ↔ ret.toInt < 0 := Int32.lt_iff_toInt_lt
  rw [Int.bmod_def, Int.emod_eq_of_lt (by omega) (by omega)] at htoInt
  by_cases h : ret < 0
  · have h' : ret.toInt < 0 := hneg.mp h
    rw [if_pos h]
    split at htoInt <;> omega
  · have h' : ¬ ret.toInt < 0 := fun hlt => h (hneg.mpr hlt)
    rw [if_neg h]
    split at htoInt <;> omega

/-- A result that is not negative: the characters that fit. -/
theorem vsnprintfSafe_of_nonneg {n : UInt32} {ret : Int32} (hn : 0 < n) (hret : ¬ ret < 0) :
    (vsnprintfSafe n ret).toUInt32.toNat = min ret.toInt.toNat (n.toNat - 1) := by
  have htoNat := toNat_toUInt32 ret
  rw [if_neg hret] at htoNat
  have hone : (1 : UInt32) ≤ n := UInt32.le_iff_toNat_le.mpr (UInt32.lt_iff_toNat_lt.mp hn)
  have hn : 1 ≤ n.toNat := UInt32.lt_iff_toNat_lt.mp hn
  unfold vsnprintfSafe
  by_cases hfull : n ≤ ret.toUInt32
  · rw [if_pos hfull]
    have hle : n.toNat ≤ ret.toUInt32.toNat := UInt32.le_iff_toNat_le.mp hfull
    show (n - 1).toNat = _
    rw [UInt32.toNat_sub_of_le _ _ hone]
    show n.toNat - 1 = _
    omega
  · rw [if_neg hfull, if_neg hret]
    have hlt : ret.toUInt32.toNat < n.toNat :=
      UInt32.lt_iff_toNat_lt.mp (UInt32.not_le.mp hfull)
    omega

/-- A negative result: it is taken for a text that does not fit, unless the buffer is larger than
    the result as a `size_t`. -/
theorem vsnprintfSafe_of_neg {n : UInt32} {ret : Int32} (hn : 0 < n) (hret : ret < 0) :
    (vsnprintfSafe n ret).toUInt32.toNat =
      if 2 ^ 32 + ret.toInt < n.toNat then 0 else n.toNat - 1 := by
  have htoNat := toNat_toUInt32 ret
  rw [if_pos hret] at htoNat
  have hone : (1 : UInt32) ≤ n := UInt32.le_iff_toNat_le.mpr (UInt32.lt_iff_toNat_lt.mp hn)
  have hn : 1 ≤ n.toNat := UInt32.lt_iff_toNat_lt.mp hn
  unfold vsnprintfSafe
  by_cases hfull : n ≤ ret.toUInt32
  · have hle : n.toNat ≤ ret.toUInt32.toNat := UInt32.le_iff_toNat_le.mp hfull
    rw [if_pos hfull, if_neg (by omega)]
    show (n - 1).toNat = _
    rw [UInt32.toNat_sub_of_le _ _ hone]
    rfl
  · have hlt : ret.toUInt32.toNat < n.toNat :=
      UInt32.lt_iff_toNat_lt.mp (UInt32.not_le.mp hfull)
    rw [if_neg hfull, if_pos hret, if_pos (by omega)]
    rfl

/-- The count is less than the size. -/
theorem vsnprintfSafe_lt {n : UInt32} (hn : 0 < n) (ret : Int32) :
    (vsnprintfSafe n ret).toUInt32.toNat < n.toNat := by
  have hpos : 0 < n.toNat := UInt32.lt_iff_toNat_lt.mp hn
  by_cases hret : ret < 0
  · rw [vsnprintfSafe_of_neg hn hret]
    split <;> omega
  · rw [vsnprintfSafe_of_nonneg hn hret]
    omega

/-! ## The bounds -/

/-- The assembly is inside a buffer of the size. -/
structure InBounds (max : UInt32) (s : Assembly) : Prop where
  length : s.xLength < max
  calls : ∀ call ∈ s.calls, 0 < call.2 ∧ call.1.toNat + call.2.toNat ≤ max.toNat
  outside : ∀ i, max.toNat ≤ i → s.pcPrintString i = .uninitialised

variable {max : UInt32} {p : Part} {s : Assembly}

theorem inBounds_start (hmax : 0 < max) : InBounds max start :=
  ⟨hmax, by simp [start], fun _ _ => rfl⟩

/-- `vsnprintf` writes less than its size behind the offset. -/
theorem vsnprintf_outside (mem : ℕ → Cell) {offset n i : ℕ} (text : List Char) (ret : Int32)
    (hn : 0 < n) (h : i < offset ∨ offset + n ≤ i) : vsnprintf mem offset n text ret i = mem i := by
  unfold vsnprintf
  by_cases hret : ret < 0
  · rw [if_pos hret]
  rw [if_neg hret]
  rcases h with h | h
  · exact if_pos h
  · have hlength : (text.take (n - 1)).length ≤ n - 1 := List.length_take_le _ _
    rw [if_neg (by omega), if_neg (by omega), List.getElem?_eq_none (by omega)]
    rfl

/-- What is left of the buffer. -/
theorem toNat_rest (h : s.xLength < max) :
    (max - s.xLength).toNat = max.toNat - s.xLength.toNat ∧ s.xLength.toNat < max.toNat :=
  ⟨UInt32.toNat_sub_of_le _ _ (UInt32.le_of_lt h), UInt32.lt_iff_toNat_lt.mp h⟩

theorem rest_pos (h : s.xLength < max) : 0 < max - s.xLength := by
  have := toNat_rest h
  rw [UInt32.lt_iff_toNat_lt]
  show 0 < (max - s.xLength).toNat
  omega

/-- The new length, which does not wrap. -/
theorem toNat_xLength_append (h : s.xLength < max) (p : Part) :
    (append max p s).xLength.toNat = s.xLength.toNat +
      (vsnprintfSafe (max - s.xLength) p.ret).toUInt32.toNat := by
  have hlt := vsnprintfSafe_lt (rest_pos h) p.ret
  have hrest := toNat_rest h
  have hmax : max.toNat < 2 ^ 32 := max.toNat_lt
  show (s.xLength + _).toNat = _
  rw [UInt32.toNat_add, Nat.mod_eq_of_lt (by omega)]

/-- The bounds are kept by each part. -/
theorem InBounds.append (h : InBounds max s) (p : Part) : InBounds max (append max p s) := by
  have hrest := toNat_rest h.length
  have hpos := rest_pos h.length
  refine ⟨?_, ?_, ?_⟩
  · have hlt := vsnprintfSafe_lt hpos p.ret
    rw [UInt32.lt_iff_toNat_lt, toNat_xLength_append h.length]
    omega
  · intro call hcall
    rcases List.mem_cons.mp hcall with rfl | hcall
    · refine ⟨hpos, ?_⟩
      show s.xLength.toNat + (max - s.xLength).toNat ≤ max.toNat
      omega
    · exact h.calls call hcall
  · intro i hi
    have hpos : 0 < (max - s.xLength).toNat := UInt32.lt_iff_toNat_lt.mp hpos
    exact (vsnprintf_outside _ p.text p.ret hpos (.inr (by omega))).trans (h.outside i hi)

theorem inBounds_assemble (ps : List Part) (h : InBounds max s) {s' : Assembly}
    (hs' : assemble max ps s = .ok s') : InBounds max s' := by
  induction ps generalizing s with
  | nil =>
    cases hs'
    exact h
  | cons p ps ih =>
    unfold assemble at hs'
    rw [if_pos h.length] at hs'
    by_cases hempty : p.asserted ∧ (append max p s).xLength = 0
    · rw [if_pos hempty] at hs'
      cases hs'
    · rw [if_neg hempty] at hs'
      exact ih (h.append p) hs'

/-- The parts fail no assertion but that on the part of the file. -/
theorem assemble_ne_inBounds (ps : List Part) (s : Assembly) :
    assemble max ps s ≠ .error .inBounds := by
  induction ps generalizing s with
  | nil => exact fun h => by cases h
  | cons p ps ih =>
    unfold assemble
    by_cases hfits : s.xLength < max
    · by_cases hempty : p.asserted ∧ (append max p s).xLength = 0
      · rw [if_pos hfits, if_pos hempty]
        exact fun h => by cases h
      · rw [if_pos hfits, if_neg hempty]
        exact ih _
    · rw [if_neg hfits]
      exact ih s

/-- A part behind which `xLength > 0` is asserted adds a character, or the length is there already:
    an error counts as a text that fills the buffer. -/
theorem xLength_append_ne_zero (h : InBounds max s) (hmax : 2 ≤ max) (hsmall : max ≤ 2 ^ 31)
    (htext : p.text ≠ []) : (append max p s).xLength ≠ 0 := by
  intro hzero
  have hlength := toNat_xLength_append h.length p
  rw [hzero] at hlength
  have hrest := toNat_rest h.length
  have hmax : 2 ≤ max.toNat := UInt32.le_iff_toNat_le.mp hmax
  have hsmall : max.toNat ≤ 2 ^ 31 := UInt32.le_iff_toNat_le.mp hsmall
  have hchars : 0 < p.text.length := List.length_pos_iff.mpr htext
  have hmin : -2 ^ 31 ≤ p.ret.toInt := p.ret.le_toInt
  by_cases hret : p.ret < 0
  · rw [vsnprintfSafe_of_neg (rest_pos h.length) hret, if_neg (by omega)] at hlength
    simp only [UInt32.toNat_zero] at hlength
    omega
  · have hvalid := p.valid.resolve_left hret
    rw [vsnprintfSafe_of_nonneg (rest_pos h.length) hret] at hlength
    simp only [UInt32.toNat_zero] at hlength
    omega

/-- No assertion fails on parts that are not empty where it matters. -/
theorem assemble_ok (hmax : 2 ≤ max) (hsmall : max ≤ 2 ^ 31) (ps : List Part)
    (hps : ∀ p ∈ ps, p.asserted = true → p.text ≠ []) (h : InBounds max s) :
    ∃ s', assemble max ps s = .ok s' := by
  induction ps generalizing s with
  | nil => exact ⟨s, rfl⟩
  | cons p ps ih =>
    unfold assemble
    rw [if_pos h.length, if_neg]
    · exact ih (fun q hq => hps q (List.mem_cons_of_mem p hq)) (h.append p)
    · rintro ⟨hasserted, hzero⟩
      exact xLength_append_ne_zero h hmax hsmall (hps p (by simp) hasserted) hzero

/-- The part of the file is the only one with an assertion, and it has brackets. -/
theorem text_ne_nil_of_asserted (c : Config) (m : Message) (r : Results m) {p : Part}
    (hp : p ∈ parts c m r) (hasserted : p.asserted = true) : p.text ≠ [] := by
  simp only [parts, List.mem_append, List.mem_ite_nil_right, List.mem_singleton] at hp
  rcases hp with (((⟨-, rfl⟩ | ⟨-, rfl⟩) | ⟨-, rfl⟩) | rfl) | ⟨-, rfl⟩
  · cases hasserted
  · cases hasserted
  · simp [part, Message.fileText]
  · cases hasserted
  · cases hasserted

/-- For a buffer of at least two bytes, whatever the parts and the results: `xLength` stays below
    the size behind every part, every call is given memory of the buffer, and so is the
    terminator; for a buffer of at most 2^31 bytes the assertion behind the file holds as well. -/
theorem message_in_bounds (c : Config) (m : Message) (r : Results m)
    (hmax : 2 ≤ c.maxMessageLength) :
    (∀ k s, assemble c.maxMessageLength ((parts c m r).take k) start = .ok s →
      InBounds c.maxMessageLength s) ∧
    (∀ s, prvLoggingPrintfCommon c m r = .ok s →
      InBounds c.maxMessageLength s ∧ s.pcPrintString s.xLength.toNat = .char '\x00') ∧
    prvLoggingPrintfCommon c m r ≠ .error .inBounds ∧
    (c.maxMessageLength ≤ 2 ^ 31 → ∃ s, prvLoggingPrintfCommon c m r = .ok s) := by
  have hstart := inBounds_start c.pos
  -- Behind the parts the length is below the size.
  have hend : prvLoggingPrintfCommon c m r =
      (assemble c.maxMessageLength (parts c m r) start).bind (terminate c.maxMessageLength) := rfl
  have hterminate : ∀ s, assemble c.maxMessageLength (parts c m r) start = .ok s →
      prvLoggingPrintfCommon c m r = .ok { s with
        pcPrintString := Function.update s.pcPrintString s.xLength.toNat (.char '\x00') } := by
    intro s hs
    rw [hend, hs]
    exact if_pos (inBounds_assemble _ hstart hs).length
  refine ⟨fun k s hs => inBounds_assemble _ hstart hs, ?_, ?_, ?_⟩
  · intro s hs
    cases hparts : assemble c.maxMessageLength (parts c m r) start with
    | error e =>
      rw [hend, hparts] at hs
      cases hs
    | ok s' =>
      obtain rfl := Except.ok.inj ((hterminate s' hparts).symm.trans hs)
      have hbounds := inBounds_assemble _ hstart hparts
      have hlength : s'.xLength.toNat < c.maxMessageLength.toNat :=
        UInt32.lt_iff_toNat_lt.mp hbounds.length
      refine ⟨⟨hbounds.length, hbounds.calls, ?_⟩, Function.update_self _ _ _⟩
      intro i hi
      exact (Function.update_of_ne (by omega) _ _).trans (hbounds.outside i hi)
  · intro herror
    cases hparts : assemble c.maxMessageLength (parts c m r) start with
    | error e =>
      rw [hend, hparts] at herror
      obtain rfl : e = .inBounds := Except.error.inj herror
      exact assemble_ne_inBounds _ _ hparts
    | ok s' => exact absurd ((hterminate s' hparts).symm.trans herror) (by simp)
  · intro hsmall
    obtain ⟨s', hs'⟩ := assemble_ok hmax hsmall (parts c m r)
      (fun p hp => text_ne_nil_of_asserted c m r hp) hstart
    exact ⟨_, hterminate s' hs'⟩

/-- A message whose formatting calls all fail, in a buffer of 64 bytes. -/
theorem failed_message_in_bounds :
    let m : Message :=
      { usLoggingLevel := .none, pcFile := some ['f'], pcFormat := ['a'], text := ['a'] }
    let failed : ∀ text, VsnprintfResult text := fun _ => ⟨-1, .inl (by decide)⟩
    ∃ s, prvLoggingPrintfCommon { maxMessageLength := 64, includeTimeAndTaskName := false } m
      ⟨failed _, failed _, failed _, failed _, failed _⟩ = .ok s := by
  intro m failed
  exact (message_in_bounds _ m _ (by decide)).2.2.2 (by decide)

/-- In a buffer of 2^32 - 1 bytes the least `int` counts as no text, which fails the assertion
    behind the part of the file. -/
theorem empty_file_part :
    let m : Message :=
      { usLoggingLevel := .none, pcFile := some ['f'], pcFormat := ['\n'], text := ['\n'] }
    let failed : ∀ text, VsnprintfResult text := fun _ => ⟨-2147483648, .inl (by decide)⟩
    prvLoggingPrintfCommon { maxMessageLength := 0xffffffff, includeTimeAndTaskName := true } m
      ⟨failed _, failed _, failed _, failed _, failed _⟩ = .error .notEmpty := by
  rfl

end Corstone.Logging
