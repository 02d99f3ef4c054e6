import Corstone.Logging.PrintfCommon

/-!
# The length of what has been logged

`vsnprintf_safe` documents that it returns the number of characters that have been written, 0 when
`vsnprintf` fails. Its first comparison converts the result to a `size_t`, where a negative number
is a large one (`iot_logging_task_dynamic_buffers.c`, lines 57–82 and 118–147): the failure counts
as a text that fills the buffer, and what the string of the message begins with is then not
written.

* `logged_length_iff`: when the result is the number of characters, and when the string that is
  queued has been formatted.
* `encoding_error_counts`: a failure that is returned as 9 characters.
-/

namespace Corstone.Logging

open Corstone.Lib

/-- The number of characters that have been written (lines 63–82). -/
def charactersWritten (n : UInt32) (ret : Int32) : ℤ :=
  if ret < 0 then 0 else min ret.toInt (n.toNat - 1)

/-- `vsnprintf` has not failed, or there is no room for a character, or the size is larger than
    the result as a `size_t`. -/
def Counted (n : UInt32) (ret : Int32) : Prop :=
  0 ≤ ret ∨ n = 1 ∨ 2 ^ 32 + ret.toInt < n.toNat

/-- The first part that is written has not failed. A part that fails and is counted as empty
    leaves the buffer to the next part, if there is no assertion behind it. -/
def StartsFormatted (max : UInt32) : List Part → Prop
  | [] => True
  | p :: ps => 0 ≤ p.ret ∨ Counted max p.ret ∧ (p.asserted = true ∨ StartsFormatted max ps)

/-- The string in the buffer, up to its terminator. -/
def Assembly.string (s : Assembly) : List Cell :=
  (items s.pcPrintString s.xLength.toNat).takeWhile (· ≠ .char '\x00')

/-- If a message is queued, then its string consists of characters that were formatted. -/
def QueuesFormatted (result : Except Assertion Assembly) : Prop :=
  ∀ s, result = .ok s → 0 < s.xLength → .uninitialised ∉ s.string

/-! ## The result of `vsnprintf_safe` -/

/-- An `int` of the size of a buffer is not negative where half of the `size_t` suffice. -/
theorem toInt_eq_toNat {ret : Int32} (h : ret.toUInt32.toNat < 2 ^ 31) :
    ret.toInt = ret.toUInt32.toNat := by
  have htoNat := toNat_toUInt32 ret
  have hmin : -2 ^ 31 ≤ ret.toInt := ret.le_toInt
  split at htoNat <;> omega

theorem vsnprintfSafe_eq_iff {n : UInt32} (hn : 0 < n) (ret : Int32) :
    (vsnprintfSafe n ret).toInt = charactersWritten n ret ↔ Counted n ret := by
  have hpos : 0 < n.toNat := UInt32.lt_iff_toNat_lt.mp hn
  unfold charactersWritten Counted
  by_cases hret : ret < 0
  case neg =>
    have hnonneg : 0 ≤ ret := Int32.not_lt.mp hret
    have htoInt : 0 ≤ ret.toInt := Int32.le_iff_toInt_le.mp hnonneg
    have hmax : ret.toInt < 2 ^ 31 := ret.toInt_lt
    have hcount := vsnprintfSafe_of_nonneg hn hret
    rw [if_neg hret, toInt_eq_toNat (by omega)]
    exact iff_of_true (by omega) (.inl hnonneg)
  have hcount := vsnprintfSafe_of_neg hn hret
  have htoNat := toNat_toUInt32 (vsnprintfSafe n ret)
  have hmin : -2 ^ 31 ≤ (vsnprintfSafe n ret).toInt := (vsnprintfSafe n ret).le_toInt
  have hone : n = 1 ↔ n.toNat = 1 := UInt32.toNat_inj.symm
  have hnonneg : ¬ 0 ≤ ret := Int32.not_le.mpr hret
  rw [if_pos hret, hone]
  constructor
  · intro hzero
    refine .inr ?_
    have hsafe : ¬ vsnprintfSafe n ret < 0 := by
      rw [Int32.lt_iff_toInt_lt, hzero]
      exact lt_irrefl _
    rw [if_neg hsafe] at htoNat
    split at hcount <;> omega
  · rintro (h | h)
    · exact absurd h hnonneg
    · have hzero : (vsnprintfSafe n ret).toUInt32.toNat = 0 := by
        split at hcount <;> omega
      rw [toInt_eq_toNat (by omega), hzero]
      rfl

/-! ## The string -/

variable {max : UInt32} {s : Assembly} {p : Part}

/-- Nothing has been written. -/
structure Untouched (s : Assembly) : Prop where
  length : s.xLength = 0
  cells : ∀ i, s.pcPrintString i = .uninitialised

/-- The string in the buffer has been formatted, and is terminated. -/
def Started (s : Assembly) : Prop :=
  ∃ k ≤ s.xLength.toNat, s.pcPrintString k = .char '\x00' ∧
    ∀ i < k, s.pcPrintString i ≠ .uninitialised

/-- The length counts characters that have not been written. -/
structure Miscounted (max : UInt32) (s : Assembly) : Prop where
  length : s.xLength.toNat = max.toNat - 1
  pos : 0 < s.xLength
  first : s.pcPrintString 0 = .uninitialised

theorem Miscounted.ne_zero (h : Miscounted max s) : s.xLength ≠ 0 := by
  intro hzero
  have hpos := h.pos
  rw [hzero] at hpos
  exact absurd hpos (UInt32.lt_irrefl 0)

/-- Nothing is queued behind an assertion that fails. -/
theorem queuesFormatted_error (a : Assertion) : QueuesFormatted (.error a) :=
  fun _ h => by cases h

/-- What a call that does not fail writes: characters and a terminator. -/
theorem vsnprintf_spec (mem : ℕ → Cell) (offset n : ℕ) (text : List Char) {ret : Int32}
    (hret : ¬ ret < 0) :
    vsnprintf mem offset n text ret (offset + (text.take (n - 1)).length) = .char '\x00' ∧
      ∀ i, offset ≤ i → i < offset + (text.take (n - 1)).length →
        vsnprintf mem offset n text ret i ≠ .uninitialised := by
  unfold vsnprintf
  rw [if_neg hret]
  constructor
  · rw [if_neg (by omega), if_pos rfl]
  · intro i hle hlt
    rw [if_neg (by omega), if_neg (by omega),
      List.getElem?_eq_getElem (show i - offset < (text.take (n - 1)).length by omega)]
    exact fun h => by cases h

/-- A part that does not fail leaves a string, if what is before it has been written. -/
theorem started_append (h : s.xLength < max) (hret : ¬ p.ret < 0)
    (hs : ∀ i < s.xLength.toNat, s.pcPrintString i ≠ .uninitialised) :
    Started (append max p s) := by
  have hrest := toNat_rest h
  have hpos : 0 < (max - s.xLength).toNat := UInt32.lt_iff_toNat_lt.mp (rest_pos h)
  have hvalid := p.valid.resolve_left hret
  have hspec := vsnprintf_spec s.pcPrintString s.xLength.toNat (max - s.xLength).toNat p.text hret
  have hlength := toNat_xLength_append h p
  rw [vsnprintfSafe_of_nonneg (rest_pos h) hret] at hlength
  refine ⟨s.xLength.toNat + (p.text.take ((max - s.xLength).toNat - 1)).length, ?_, hspec.1, ?_⟩
  · rw [hlength, List.length_take]
    omega
  · intro i hi
    by_cases hbefore : i < s.xLength.toNat
    · have hsame : (append max p s).pcPrintString i = s.pcPrintString i :=
        vsnprintf_outside _ p.text p.ret hpos (.inl hbefore)
      rw [hsame]
      exact hs i hbefore
    · exact hspec.2 i (by omega) hi

/-- A string that is in the buffer stays: what is added stands at its end or behind it. -/
theorem started_append_of_started (hs : Started s) (h : s.xLength < max) (p : Part) :
    Started (append max p s) := by
  obtain ⟨k, hk, hterminator, hcells⟩ := hs
  have hrest := toNat_rest h
  have hpos : 0 < (max - s.xLength).toNat := UInt32.lt_iff_toNat_lt.mp (rest_pos h)
  have hlength := toNat_xLength_append h p
  have hsame : ∀ i < s.xLength.toNat, (append max p s).pcPrintString i = s.pcPrintString i :=
    fun i hi => vsnprintf_outside _ p.text p.ret hpos (.inl hi)
  by_cases hend : k = s.xLength.toNat
  · by_cases hret : p.ret < 0
    · have hmem : (append max p s).pcPrintString = s.pcPrintString := if_pos hret
      refine ⟨k, by omega, ?_, ?_⟩
      · rw [hmem]
        exact hterminator
      · rw [hmem]
        exact hcells
    · exact started_append h hret (by rwa [← hend])
  · refine ⟨k, by omega, ?_, ?_⟩
    · rw [hsame k (by omega)]
      exact hterminator
    · intro i hi
      rw [hsame i (by omega)]
      exact hcells i hi

/-- A part that fails leaves an untouched buffer so, if the result is counted right. -/
theorem untouched_append (hs : Untouched s) (h : s.xLength < max) (hret : p.ret < 0)
    (hcounted : Counted max p.ret) : Untouched (append max p s) := by
  have hlength := toNat_xLength_append h p
  have hrest := toNat_rest h
  have hone : max = 1 ↔ max.toNat = 1 := UInt32.toNat_inj.symm
  have hnonneg : ¬ 0 ≤ p.ret := Int32.not_le.mpr hret
  rw [vsnprintfSafe_of_neg (rest_pos h) hret, hs.length, UInt32.toNat_zero] at hlength
  rw [hs.length, UInt32.toNat_zero] at hrest
  refine ⟨UInt32.toNat_inj.mp ?_, ?_⟩
  · rw [UInt32.toNat_zero]
    rcases hcounted with h | h | h
    · exact absurd h hnonneg
    · rw [hone] at h
      split at hlength <;> omega
    · rw [if_pos (by omega)] at hlength
      omega
  · intro i
    have hmem : (append max p s).pcPrintString = s.pcPrintString := if_pos hret
    rw [hmem]
    exact hs.cells i

/-- It is a whole buffer of characters that are not there, if the result is not. -/
theorem miscounted_of_untouched (hs : Untouched s) (h : s.xLength < max)
    (hcounted : ¬ Counted max p.ret) : Miscounted max (append max p s) := by
  obtain ⟨hnonneg, hone, hlarge⟩ :
      ¬ 0 ≤ p.ret ∧ ¬ max = 1 ∧ ¬ 2 ^ 32 + p.ret.toInt < max.toNat := by
    simpa [Counted] using hcounted
  have hret : p.ret < 0 := Int32.not_le.mp hnonneg
  have hlength := toNat_xLength_append h p
  have hrest := toNat_rest h
  rw [← UInt32.toNat_inj] at hone
  rw [vsnprintfSafe_of_neg (rest_pos h) hret, hs.length, UInt32.toNat_zero] at hlength
  rw [hs.length, UInt32.toNat_zero] at hrest
  rw [if_neg (by omega)] at hlength
  have hone : max.toNat ≠ 1 := hone
  refine ⟨by omega, ?_, ?_⟩
  · rw [UInt32.lt_iff_toNat_lt, UInt32.toNat_zero]
    omega
  · have hmem : (append max p s).pcPrintString = s.pcPrintString := if_pos hret
    rw [hmem]
    exact hs.cells 0

/-- Behind a whole buffer there is no room for more than a terminator. -/
theorem miscounted_append (hs : Miscounted max s) (h : s.xLength < max) (p : Part) :
    Miscounted max (append max p s) := by
  have hpos : 0 < s.xLength.toNat := UInt32.lt_iff_toNat_lt.mp hs.pos
  have hcount := vsnprintfSafe_lt (rest_pos h) p.ret
  have hlength := toNat_xLength_append h p
  have hrest := toNat_rest h
  have hfull := hs.length
  have hroom : 0 < (max - s.xLength).toNat := UInt32.lt_iff_toNat_lt.mp (rest_pos h)
  have hsame : (append max p s).pcPrintString 0 = s.pcPrintString 0 :=
    vsnprintf_outside _ p.text p.ret hroom (.inl hpos)
  refine ⟨by omega, ?_, hsame.trans hs.first⟩
  rw [UInt32.lt_iff_toNat_lt, UInt32.toNat_zero]
  omega

/-! ## The message -/

/-- The string of the parts, and its terminator. -/
def finish (max : UInt32) (ps : List Part) (s : Assembly) : Except Assertion Assembly :=
  (assemble max ps s).bind (terminate max)

/-- One more part, into a buffer with room for it. -/
theorem finish_cons (h : s.xLength < max) (ps : List Part) :
    finish max (p :: ps) s =
      if p.asserted ∧ (append max p s).xLength = 0 then .error .notEmpty
      else finish max ps (append max p s) := by
  unfold finish
  rw [assemble, if_pos h]
  split <;> rfl

/-- The string has the first cells of the buffer, none of which is a terminator. -/
theorem exists_string (s : Assembly) : ∃ m ≤ s.xLength.toNat,
    s.string = items s.pcPrintString m ∧ ∀ i < m, s.pcPrintString i ≠ .char '\x00' := by
  have hprefix : s.string <+: items s.pcPrintString s.xLength.toNat := List.takeWhile_prefix _
  have hle : s.string.length ≤ s.xLength.toNat := by simpa using hprefix.length_le
  have hstring : s.string = items s.pcPrintString s.string.length := by
    rw [← take_items s.pcPrintString hle]
    exact List.prefix_iff_eq_take.mp hprefix
  refine ⟨s.string.length, hle, hstring, ?_⟩
  intro i hi
  have hmem : s.pcPrintString i ∈ s.string := by
    rw [hstring]
    exact List.mem_map_of_mem (List.mem_range.mpr hi)
  simpa using List.mem_takeWhile_imp hmem

/-- A string that is terminated in the buffer has been formatted. -/
theorem not_mem_string_of_started (hs : Started s) : .uninitialised ∉ s.string := by
  obtain ⟨k, hk, hterminator, hcells⟩ := hs
  obtain ⟨m, hm, hstring, hchars⟩ := exists_string s
  have hle : m ≤ k := by
    by_contra hlt
    exact hchars k (by omega) hterminator
  rw [hstring]
  intro hmem
  obtain ⟨i, hi, heq⟩ := List.mem_map.mp hmem
  exact hcells i (by have := List.mem_range.mp hi; omega) heq

/-- A cell that has not been written begins the string. -/
theorem mem_string_of_first (hpos : 0 < s.xLength.toNat)
    (hfirst : s.pcPrintString 0 = .uninitialised) : .uninitialised ∈ s.string := by
  obtain ⟨n, hn⟩ : ∃ n, s.xLength.toNat = n + 1 := ⟨s.xLength.toNat - 1, by omega⟩
  unfold Assembly.string items
  rw [hn, List.range_succ_eq_map, List.map_cons, hfirst, List.takeWhile_cons, if_pos (by simp)]
  exact List.mem_cons_self

/-- A string that is in the buffer is what is queued. -/
theorem queuesFormatted_of_started (ps : List Part) (h : InBounds max s) (hs : Started s) :
    QueuesFormatted (finish max ps s) := by
  induction ps generalizing s with
  | nil =>
    have hlt : s.xLength < max := h.length
    intro s' hs' _
    obtain rfl := Except.ok.inj ((if_pos hlt).symm.trans hs')
    refine not_mem_string_of_started ?_
    obtain ⟨k, hk, hterminator, hcells⟩ := hs
    refine ⟨k, hk, ?_, ?_⟩
    · show Function.update s.pcPrintString s.xLength.toNat (.char '\x00') k = _
      by_cases heq : k = s.xLength.toNat
      · rw [heq, Function.update_self]
      · rw [Function.update_of_ne heq]
        exact hterminator
    · intro i hi
      show Function.update s.pcPrintString s.xLength.toNat (.char '\x00') i ≠ _
      rw [Function.update_of_ne (by omega)]
      exact hcells i hi
  | cons p ps ih =>
    rw [finish_cons h.length]
    by_cases hempty : p.asserted ∧ (append max p s).xLength = 0
    · rw [if_pos hempty]
      exact queuesFormatted_error .notEmpty
    · rw [if_neg hempty]
      exact ih (h.append p) (started_append_of_started hs h.length p)

/-- Characters that are not there are queued, with what follows. -/
theorem not_queuesFormatted_of_miscounted (ps : List Part) (h : InBounds max s)
    (hs : Miscounted max s) : ¬ QueuesFormatted (finish max ps s) := by
  induction ps generalizing s with
  | nil =>
    intro hqueued
    have hpos : 0 < s.xLength.toNat := UInt32.lt_iff_toNat_lt.mp hs.pos
    refine hqueued _ (if_pos h.length) hs.pos (mem_string_of_first hpos ?_)
    exact (Function.update_of_ne (by omega) _ _).trans hs.first
  | cons p ps ih =>
    have hnext := miscounted_append hs h.length p
    rw [finish_cons h.length, if_neg (fun hempty => hnext.ne_zero hempty.2)]
    exact ih (h.append p) hnext

/-- The parts of a message, from an untouched buffer. The first part that is written decides. -/
theorem queuesFormatted_iff (ps : List Part) (h : InBounds max s) (hs : Untouched s) :
    QueuesFormatted (finish max ps s) ↔ StartsFormatted max ps := by
  induction ps generalizing s with
  | nil =>
    refine iff_of_true ?_ trivial
    intro s' hs' hpos
    obtain rfl := Except.ok.inj ((if_pos h.length).symm.trans hs')
    rw [show s.xLength = 0 from hs.length] at hpos
    exact absurd hpos (UInt32.lt_irrefl 0)
  | cons p ps ih =>
    have hbounds := h.append p
    by_cases hret : p.ret < 0
    case neg =>
      have hlength : s.xLength.toNat = 0 := by
        rw [hs.length]
        rfl
      have hstarted : Started (append max p s) := started_append h.length hret (by omega)
      refine iff_of_true ?_ (.inl (Int32.not_lt.mp hret))
      rw [finish_cons h.length]
      by_cases hempty : p.asserted ∧ (append max p s).xLength = 0
      · rw [if_pos hempty]
        exact queuesFormatted_error .notEmpty
      · rw [if_neg hempty]
        exact queuesFormatted_of_started ps hbounds hstarted
    have hnonneg : ¬ 0 ≤ p.ret := Int32.not_le.mpr hret
    rw [StartsFormatted, or_iff_right hnonneg, finish_cons h.length]
    by_cases hcounted : Counted max p.ret
    · have hnext := untouched_append hs h.length hret hcounted
      rw [and_iff_right hcounted]
      by_cases hasserted : p.asserted = true
      · rw [if_pos ⟨hasserted, hnext.length⟩]
        exact iff_of_true (queuesFormatted_error .notEmpty) (.inl hasserted)
      · rw [if_neg (fun hempty => hasserted hempty.1), or_iff_right hasserted]
        exact ih hbounds hnext
    · have hnext := miscounted_of_untouched hs h.length hcounted
      rw [if_neg (fun hempty => hnext.ne_zero hempty.2)]
      exact iff_of_false (not_queuesFormatted_of_miscounted ps hbounds hnext)
        (fun hstarts => hcounted hstarts.1)

/-- The result is the number of characters iff it is counted right, and the string that is queued
    has been formatted iff the first part that is written has not failed. -/
theorem logged_length_iff (n : UInt32) (hn : 0 < n) :
    (∀ ret, (vsnprintfSafe n ret).toInt = charactersWritten n ret ↔ Counted n ret) ∧
    (∀ (c : Config) (m : Message) (r : Results m), c.maxMessageLength = n →
      (QueuesFormatted (prvLoggingPrintfCommon c m r) ↔ StartsFormatted n (parts c m r))) := by
  refine ⟨vsnprintfSafe_eq_iff hn, ?_⟩
  rintro c m r rfl
  exact queuesFormatted_iff (parts c m r) (inBounds_start c.pos) ⟨rfl, fun _ => rfl⟩

/-- A text of 12 characters in 10 bytes is returned as the 9 characters that fit, and a message of
    one character, which is formatted, is queued as it is. -/
theorem logged_length_truncated :
    let m : Message := { usLoggingLevel := .none, pcFormat := ['a'], text := ['a'] }
    let failed : ∀ text, VsnprintfResult text := fun _ => ⟨-1, .inl (by decide)⟩
    (vsnprintfSafe 10 12).toInt = charactersWritten 10 12 ∧
      QueuesFormatted (prvLoggingPrintfCommon
        { maxMessageLength := 10, includeTimeAndTaskName := false } m
        ⟨failed _, failed _, failed _, ⟨1, .inr (by decide)⟩, ⟨1, .inr (by decide)⟩⟩) := by
  intro m failed
  refine ⟨((logged_length_iff 10 (by decide)).1 12).mpr (.inl (by decide)), ?_⟩
  refine ((logged_length_iff 10 (by decide)).2 _ m _ rfl).mpr ?_
  exact .inl (show (0 : Int32) ≤ 1 by decide)

/-- A failure for a buffer of 10 bytes is returned as 9 characters, and a message that begins with
    it is queued with bytes that nothing has written. -/
theorem encoding_error_counts :
    let m : Message := { usLoggingLevel := .info, pcFormat := ['a'], text := ['a'] }
    let failed : ∀ text, VsnprintfResult text := fun _ => ⟨-1, .inl (by decide)⟩
    vsnprintfSafe 10 (-1) = 9 ∧ charactersWritten 10 (-1) = 0 ∧
      ¬ QueuesFormatted (prvLoggingPrintfCommon
        { maxMessageLength := 10, includeTimeAndTaskName := true } m
        ⟨failed _, failed _, failed _, failed _, failed _⟩) := by
  intro m failed
  refine ⟨by decide, by decide, ?_⟩
  intro hqueued
  have hstart : InBounds 10 start := inBounds_start (by decide)
  have hstarts := (queuesFormatted_iff _ hstart ⟨rfl, fun _ => rfl⟩).mp hqueued
  revert hstarts
  simp [parts, m, StartsFormatted, Counted, part, failed]

end Corstone.Logging
