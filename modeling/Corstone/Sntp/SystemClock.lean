import Mathlib

/-!
# The system clock of the SNTP client

Models of `calculateCurrentTime`, `sntpClient_GetTime` and `sntpClient_SetTime`
(`sntp_client_task.c`, lines 675–707, 852–885 and 887–945). Tick counts have any
width up to 64 bits. The conversion of timestamps is a function of the library.

* `calculateCurrentTime_toNat`: the seconds and the milliseconds that are returned.
* `currentTime_iff`: the time is the documented one iff the base time has no
  milliseconds and the slew does not outweigh the elapsed time.
* `not_documented_milliseconds`: half a second of base time is lost.
* `getTime_roundTrip`: a timestamp is converted back to the current time, in both
  eras and for both widths of the sum.
-/

namespace Corstone.Sntp

/-! ## Types -/

/-- `UTCTime_t`. -/
structure UTCTime where
  secs : UInt32
  msecs : UInt32
  deriving DecidableEq, Repr

/-- The time in milliseconds. -/
def UTCTime.ms (t : UTCTime) : ℕ := t.secs.toNat * 1000 + t.msecs.toNat

/-- `TickType_t`. -/
abbrev TickType (w : ℕ) := BitVec w

/-- `SystemClock_t`. -/
structure SystemClock (w : ℕ) where
  baseTime : UTCTime
  lastSyncTickCount : TickType w
  pollPeriod : UInt32
  slewRate : UInt64
  firstTimeSyncDone : Bool
  deriving DecidableEq, Repr

/-- `SntpTimestamp_t`. -/
structure SntpTimestamp where
  seconds : UInt32
  fractions : UInt32
  deriving DecidableEq, Repr

/-- `SNTP_TIME_AT_UNIX_EPOCH_SECS`. -/
def sntpTimeAtUnixEpochSecs : UInt32 := 2208988800

/-- `SNTP_FRACTION_VALUE_PER_MICROSECOND`. -/
def sntpFractionValuePerMicrosecond : UInt32 := 4295

/-- The SNTP library, as far as it converts timestamps. -/
structure CoreSntp where
  /-- `Sntp_ConvertToUnixTime`: seconds and microseconds, if it succeeds. -/
  convertToUnixTime : SntpTimestamp → Option (UInt32 × UInt32)
  era0 : ∀ t, sntpTimeAtUnixEpochSecs ≤ t.seconds → convertToUnixTime t =
    some (t.seconds - sntpTimeAtUnixEpochSecs, t.fractions / sntpFractionValuePerMicrosecond)
  /-- Second 0 of era 1 is 2085978496 in UNIX time. -/
  era1 : ∀ t, t.seconds ≤ 61505151 → convertToUnixTime t =
    some (t.seconds + 2085978496, t.fractions / sntpFractionValuePerMicrosecond)

/-! ## The functions -/

/-- `MILLISECONDS_PER_TICK`. -/
def millisecondsPerTick : ℕ := 1

section Functions

variable {w : ℕ}

/-- `calculateCurrentTime`, when `xTaskGetTickCount` returns `tickCount`. -/
def calculateCurrentTime (pBaseTime : UTCTime) (lastSyncTickCount : TickType w)
    (slewRate : UInt64) (tickCount : TickType w) : UTCTime :=
  let ticksElapsedSinceLastSync := tickCount - lastSyncTickCount
  let msElapsedSinceLastSync :=
    UInt64.ofNat (ticksElapsedSinceLastSync * BitVec.ofNat w millisecondsPerTick).toNat
  let msElapsedSinceLastSync :=
    if slewRate > 0 then msElapsedSinceLastSync + slewRate * (msElapsedSinceLastSync / 1000)
    else msElapsedSinceLastSync
  if msElapsedSinceLastSync ≥ 1000 then
    { secs := (pBaseTime.secs.toUInt64 + msElapsedSinceLastSync / 1000).toUInt32
      msecs := (msElapsedSinceLastSync % 1000).toUInt32 }
  else { secs := pBaseTime.secs, msecs := msElapsedSinceLastSync.toUInt32 }

/-- The current time of a clock. -/
def SystemClock.currentTime (systemClock : SystemClock w) (tickCount : TickType w) : UTCTime :=
  calculateCurrentTime systemClock.baseTime systemClock.lastSyncTickCount systemClock.slewRate
    tickCount

/-- `MILLISECONDS_TO_SNTP_FRACTIONS` (`sntp_client_task.h`, line 39). -/
def millisecondsToSntpFractions (ms : UInt32) : UInt32 :=
  ms * 1000 * sntpFractionValuePerMicrosecond

/-- The conversion in `sntpClient_GetTime` (lines 868–884). The constant of the epoch
    makes the sum one of 32 or of 64 bits. -/
def toSntpTimestamp (sum64 : Bool) (currentTime : UTCTime) : SntpTimestamp :=
  let ntpSecs : UInt64 :=
    if sum64 then currentTime.secs.toUInt64 + sntpTimeAtUnixEpochSecs.toUInt64
    else (currentTime.secs + sntpTimeAtUnixEpochSecs).toUInt64
  { seconds :=
      if ntpSecs > 4294967295 then (ntpSecs - 4294967295 - 1).toUInt32 else ntpSecs.toUInt32
    fractions := millisecondsToSntpFractions currentTime.msecs }

/-- `sntpClient_GetTime`. -/
def sntpClientGetTime (sum64 : Bool) (systemClock : SystemClock w) (tickCount : TickType w) :
    SntpTimestamp :=
  toSntpTimestamp sum64 (systemClock.currentTime tickCount)

/-- `systemClock.slewRate` behind lines 925–933 of `sntpClient_SetTime`: the quotient of an
    `int64_t` and an `uint32_t`. -/
def nextSlewRate (systemClock : SystemClock w) (clockOffsetMs : Int64) : UInt64 :=
  if systemClock.firstTimeSyncDone = true ∧ systemClock.slewRate = 0 then
    (clockOffsetMs / systemClock.pollPeriod.toUInt64.toInt64).toUInt64
  else systemClock.slewRate

/-- `sntpClient_SetTime`. It ends in its assertion when the time of the server cannot be
    converted. -/
def sntpClientSetTime (C : CoreSntp) (systemClock : SystemClock w) (pServerTime : SntpTimestamp)
    (clockOffsetMs : Int64) (tickCount : TickType w) : Option (SystemClock w) :=
  match C.convertToUnixTime pServerTime with
  | none => none
  | some (unixSecs, unixMicroSecs) =>
    some
      { systemClock with
        baseTime := { secs := unixSecs, msecs := unixMicroSecs / 1000 }
        slewRate := nextSlewRate systemClock clockOffsetMs
        firstTimeSyncDone := true
        lastSyncTickCount := tickCount }

end Functions

/-! ## The current time -/

section CurrentTime

variable {w : ℕ}

/-- The milliseconds since the last synchronisation, with the slew, as the code adds them. -/
def slewedMs (elapsed : ℕ) (slewRate : UInt64) : ℕ :=
  (elapsed + slewRate.toNat * (elapsed / 1000)) % 2 ^ 64

/-- **The time that is returned.** -/
theorem calculateCurrentTime_toNat (hw : w ≤ 64) (base : UTCTime) (last now : TickType w)
    (slewRate : UInt64) :
    (calculateCurrentTime base last slewRate now).secs.toNat =
        (base.secs.toNat + slewedMs (now - last).toNat slewRate / 1000) % 2 ^ 32 ∧
      (calculateCurrentTime base last slewRate now).msecs.toNat =
        slewedMs (now - last).toNat slewRate % 1000 := by
  have helapsed : (now - last).toNat < 2 ^ 64 :=
    lt_of_lt_of_le (now - last).isLt (Nat.pow_le_pow_right (by omega) hw)
  have hticks : (UInt64.ofNat ((now - last) * BitVec.ofNat w millisecondsPerTick).toNat).toNat =
      (now - last).toNat := by
    rw [millisecondsPerTick, BitVec.mul_one, UInt64.toNat_ofNat', Nat.mod_eq_of_lt helapsed]
  have hslewed : (if slewRate > 0 then
      UInt64.ofNat ((now - last) * BitVec.ofNat w millisecondsPerTick).toNat +
        slewRate * (UInt64.ofNat ((now - last) * BitVec.ofNat w millisecondsPerTick).toNat / 1000)
      else UInt64.ofNat ((now - last) * BitVec.ofNat w millisecondsPerTick).toNat).toNat =
        slewedMs (now - last).toNat slewRate := by
    unfold slewedMs
    split_ifs with hslew
    · rw [UInt64.toNat_add, UInt64.toNat_mul, UInt64.toNat_div, hticks, Nat.add_mod_mod]
      rfl
    · have hzero : slewRate.toNat = 0 := by simpa [UInt64.lt_iff_toNat_lt] using hslew
      rw [hticks, hzero, Nat.zero_mul, Nat.add_zero, Nat.mod_eq_of_lt helapsed]
  unfold calculateCurrentTime
  dsimp only
  generalize (if slewRate > 0 then _ else _ : UInt64) = ms at hslewed ⊢
  rw [← hslewed]
  have hms := ms.toNat_lt
  have hsecs := base.secs.toNat_lt
  split_ifs with hsecond
  · simp only [UInt64.toNat_toUInt32, UInt64.toNat_add, UInt64.toNat_div, UInt64.toNat_mod,
      UInt32.toNat_toUInt64]
    simp
    omega
  · have hlt : ms.toNat < 1000 := by simpa [UInt64.le_iff_toNat_le] using hsecond
    simp only [UInt64.toNat_toUInt32]
    omega

theorem msecs_calculateCurrentTime_lt (hw : w ≤ 64) (base : UTCTime) (last now : TickType w)
    (slewRate : UInt64) : (calculateCurrentTime base last slewRate now).msecs.toNat < 1000 := by
  rw [(calculateCurrentTime_toNat hw base last now slewRate).2]
  exact Nat.mod_lt _ (by omega)

/-- The slew of a signed rate, up to 2^64. -/
theorem slewedMs_ofInt (elapsed : ℕ) (rate : ℤ) :
    (slewedMs elapsed (UInt64.ofInt rate) : ℤ) =
      (elapsed + rate * (elapsed / 1000 : ℕ)) % 2 ^ 64 := by
  have hrate : ((UInt64.ofInt rate).toNat : ℤ) = rate % 2 ^ 64 := by
    rw [UInt64.ofInt, UInt64.toNat_ofNat']
    omega
  unfold slewedMs
  push_cast
  rw [hrate]
  exact ((Int.mod_modEq rate (2 ^ 64)).mul_right _).add_left _

/-- The current time of the documented model, in milliseconds: the base time, the elapsed
    time, and the slew for the whole seconds that have elapsed. -/
def documentedMs (base : UTCTime) (last : TickType w) (rate : ℤ) (now : TickType w) : ℤ :=
  let elapsed := (now - last).toNat * millisecondsPerTick
  base.ms + elapsed + rate * (elapsed / 1000 : ℕ)

/-- The slew is not negative beyond the time that has elapsed. -/
def SlewWithinElapsed (last : TickType w) (rate : ℤ) (now : TickType w) : Prop :=
  let elapsed := (now - last).toNat * millisecondsPerTick
  0 ≤ elapsed + rate * (elapsed / 1000 : ℕ)

/-- Base time and slewed elapsed time add up iff the milliseconds of the base time, which the
    code drops, are none, and the elapsed time has not wrapped around. -/
theorem returned_eq_iff {secs msecs slewed : ℕ} {total : ℤ}
    (hslewed : (slewed : ℤ) = total % 2 ^ 64) (hsecs : secs < 2 ^ 32) (hmsecs : msecs < 1000)
    (hnonneg : 0 ≤ (secs * 1000 + msecs : ℕ) + total)
    (hfits : (secs * 1000 + msecs : ℕ) + total < 2 ^ 32 * 1000) :
    (((secs + slewed / 1000) % 2 ^ 32 * 1000 + slewed % 1000 : ℕ) : ℤ) =
        (secs * 1000 + msecs : ℕ) + total ↔ msecs = 0 ∧ 0 ≤ total := by
  by_cases htotal : 0 ≤ total
  · have heq : (slewed : ℤ) = total := by rw [hslewed, Int.emod_eq_of_lt htotal (by omega)]
    subst heq
    omega
  · have heq : (slewed : ℤ) = total + 2 ^ 64 := by
      rw [hslewed, ← Int.add_emod_right, Int.emod_eq_of_lt (by omega) (by omega)]
    -- the quotient of 2^64 by 1000 is no multiple of 2^32
    refine iff_of_false ?_ fun h => htotal h.2
    intro hret
    omega

/-- **The current time** is the documented one, whenever that fits, iff the base time has no
    milliseconds and the slew does not outweigh the elapsed time. -/
theorem currentTime_iff (hw : w ≤ 64) (base : UTCTime) (hmsecs : base.msecs.toNat < 1000)
    (last : TickType w) (rate : ℤ) (now : TickType w)
    (hnonneg : 0 ≤ documentedMs base last rate now)
    (hfits : documentedMs base last rate now < 2 ^ 32 * 1000) :
    ((calculateCurrentTime base last (UInt64.ofInt rate) now).msecs.toNat < 1000 ∧
      ((calculateCurrentTime base last (UInt64.ofInt rate) now).ms : ℤ) =
        documentedMs base last rate now) ↔
      base.msecs = 0 ∧ SlewWithinElapsed last rate now := by
  obtain ⟨hsecs, hmsecs'⟩ := calculateCurrentTime_toNat hw base last now (UInt64.ofInt rate)
  have hslewed := slewedMs_ofInt (now - last).toNat rate
  have hlt := msecs_calculateCurrentTime_lt hw base last now (UInt64.ofInt rate)
  have hzero : base.msecs = 0 ↔ base.msecs.toNat = 0 := UInt32.toNat_inj.symm
  have hdocumented : documentedMs base last rate now = (base.secs.toNat * 1000 +
      base.msecs.toNat : ℕ) + ((now - last).toNat + rate * ((now - last).toNat / 1000 : ℕ)) := by
    simp only [documentedMs, UTCTime.ms, millisecondsPerTick, Nat.mul_one, add_assoc]
  have hwithin : SlewWithinElapsed last rate now ↔
      0 ≤ (now - last).toNat + rate * ((now - last).toNat / 1000 : ℕ) := by
    simp only [SlewWithinElapsed, millisecondsPerTick, Nat.mul_one]
  rw [hdocumented] at hnonneg hfits ⊢
  rw [and_iff_right hlt, UTCTime.ms, hsecs, hmsecs', hzero, hwithin]
  exact returned_eq_iff hslewed base.secs.toNat_lt hmsecs hnonneg hfits

/-- A base time without milliseconds, two and a half seconds later, a millisecond per second
    too fast. -/
theorem currentTime_iff_fast :
    ((calculateCurrentTime ⟨1704067200, 0⟩ (100 : TickType 32) (UInt64.ofInt (-1)) 2600).msecs.toNat
        < 1000 ∧
      ((calculateCurrentTime ⟨1704067200, 0⟩ (100 : TickType 32) (UInt64.ofInt (-1)) 2600).ms : ℤ) =
        documentedMs ⟨1704067200, 0⟩ (100 : TickType 32) (-1) 2600) ↔
      (0 : UInt32) = 0 ∧ SlewWithinElapsed (100 : TickType 32) (-1) 2600 :=
  currentTime_iff (by decide) ⟨1704067200, 0⟩ (by decide) 100 (-1) 2600 (by decide) (by decide)

/-- Half a second of base time and a quarter of a second make a quarter of a second. -/
theorem not_documented_milliseconds :
    documentedMs ⟨1704067200, 500⟩ (0 : TickType 32) 0 250 = 1704067200750 ∧
      ¬ ((calculateCurrentTime ⟨1704067200, 500⟩ (0 : TickType 32) 0 250).msecs.toNat < 1000 ∧
        ((calculateCurrentTime ⟨1704067200, 500⟩ (0 : TickType 32) 0 250).ms : ℤ) =
          documentedMs ⟨1704067200, 500⟩ (0 : TickType 32) 0 250) := by
  decide

end CurrentTime

/-! ## The timestamp -/

section Timestamp

variable {w : ℕ}

/-- The timestamp of a UNIX time before 2^31: era 0 up to 2085978495, era 1 from there. -/
theorem seconds_toSntpTimestamp (sum64 : Bool) {t : UTCTime} (hsecs : t.secs.toNat < 2 ^ 31) :
    (toSntpTimestamp sum64 t).seconds.toNat =
      if t.secs.toNat < 2085978496 then t.secs.toNat + 2208988800
      else t.secs.toNat - 2085978496 := by
  have hepoch : sntpTimeAtUnixEpochSecs.toNat = 2208988800 := rfl
  unfold toSntpTimestamp
  cases sum64 with
  | false =>
    -- the sum has wrapped around in 32 bits, the branch for era 1 is not taken
    have hsum : ¬ (t.secs + sntpTimeAtUnixEpochSecs).toUInt64 > 4294967295 := by
      have hlt := (t.secs + sntpTimeAtUnixEpochSecs).toNat_lt
      simp only [gt_iff_lt, UInt64.lt_iff_toNat_lt, UInt32.toNat_toUInt64]
      simp
      omega
    simp only [Bool.false_eq_true, if_false, if_neg hsum, UInt64.toNat_toUInt32,
      UInt32.toNat_toUInt64, UInt32.toNat_add, hepoch]
    split_ifs <;> omega
  | true =>
    have hsum : (t.secs.toUInt64 + sntpTimeAtUnixEpochSecs.toUInt64).toNat =
        t.secs.toNat + 2208988800 := by
      rw [UInt64.toNat_add, UInt32.toNat_toUInt64, UInt32.toNat_toUInt64, hepoch]
      omega
    simp only [if_true]
    generalize t.secs.toUInt64 + sntpTimeAtUnixEpochSecs.toUInt64 = ntpSecs at hsum ⊢
    have hlarge : ntpSecs > 4294967295 ↔ 4294967295 < t.secs.toNat + 2208988800 := by
      rw [gt_iff_lt, UInt64.lt_iff_toNat_lt, hsum]
      rfl
    by_cases hera : ntpSecs > 4294967295
    · have h := hlarge.mp hera
      rw [if_pos hera, if_neg (by omega), UInt64.toNat_toUInt32, UInt64.toNat_sub, UInt64.toNat_sub,
        hsum]
      simp
      omega
    · have h := mt hlarge.mpr hera
      rw [if_neg hera, if_pos (by omega), UInt64.toNat_toUInt32, hsum]
      omega

/-- The fractions are 4295 to the microsecond. -/
theorem fractions_toSntpTimestamp (sum64 : Bool) {t : UTCTime} (hmsecs : t.msecs.toNat < 1000) :
    (toSntpTimestamp sum64 t).fractions.toNat = t.msecs.toNat * 1000 * 4295 := by
  have hfraction : sntpFractionValuePerMicrosecond.toNat = 4295 := rfl
  show (t.msecs * 1000 * sntpFractionValuePerMicrosecond).toNat = _
  rw [UInt32.toNat_mul, UInt32.toNat_mul, hfraction]
  simp
  omega

/-- **The round trip** of a current time before 2^31 seconds. -/
theorem getTime_roundTrip (C : CoreSntp) (sum64 : Bool) (systemClock : SystemClock w)
    (tickCount : TickType w) (hsecs : (systemClock.currentTime tickCount).secs.toNat < 2 ^ 31)
    (hmsecs : (systemClock.currentTime tickCount).msecs.toNat < 1000) :
    ∃ microSecs,
      C.convertToUnixTime (sntpClientGetTime sum64 systemClock tickCount) =
        some ((systemClock.currentTime tickCount).secs, microSecs) ∧
      microSecs.toNat = (systemClock.currentTime tickCount).msecs.toNat * 1000 := by
  unfold sntpClientGetTime
  generalize systemClock.currentTime tickCount = t at *
  have hseconds := seconds_toSntpTimestamp sum64 hsecs
  have hfractions := fractions_toSntpTimestamp sum64 hmsecs
  have hepoch : sntpTimeAtUnixEpochSecs.toNat = 2208988800 := rfl
  have hmicro : ((toSntpTimestamp sum64 t).fractions / sntpFractionValuePerMicrosecond).toNat =
      t.msecs.toNat * 1000 := by
    rw [UInt32.toNat_div, hfractions]
    exact Nat.mul_div_cancel _ (by decide)
  refine ⟨_, ?_, hmicro⟩
  by_cases hera : t.secs.toNat < 2085978496
  · rw [if_pos hera] at hseconds
    have hle : sntpTimeAtUnixEpochSecs ≤ (toSntpTimestamp sum64 t).seconds := by
      rw [UInt32.le_iff_toNat_le, hseconds, hepoch]
      omega
    have hback : (toSntpTimestamp sum64 t).seconds - sntpTimeAtUnixEpochSecs = t.secs := by
      rw [← UInt32.toNat_inj, UInt32.toNat_sub_of_le _ _ hle, hseconds, hepoch]
      omega
    rw [C.era0 _ hle, hback]
  · rw [if_neg hera] at hseconds
    have hle : (toSntpTimestamp sum64 t).seconds ≤ 61505151 := by
      rw [UInt32.le_iff_toNat_le, hseconds]
      show _ ≤ 61505151
      omega
    have hback : (toSntpTimestamp sum64 t).seconds + 2085978496 = t.secs := by
      rw [← UInt32.toNat_inj, UInt32.toNat_add, hseconds]
      simp
      omega
    rw [C.era1 _ hle, hback]

/-- The library as it is documented: other timestamps are not supported. -/
def documentedSntp : CoreSntp where
  convertToUnixTime t :=
    if sntpTimeAtUnixEpochSecs ≤ t.seconds then
      some (t.seconds - sntpTimeAtUnixEpochSecs, t.fractions / sntpFractionValuePerMicrosecond)
    else if t.seconds ≤ 61505151 then
      some (t.seconds + 2085978496, t.fractions / sntpFractionValuePerMicrosecond)
    else none
  era0 t h := if_pos h
  era1 t h := by
    have hsmall : ¬ sntpTimeAtUnixEpochSecs ≤ t.seconds := by
      rw [UInt32.le_iff_toNat_le] at h ⊢
      have h' : t.seconds.toNat ≤ 61505151 := h
      show ¬ 2208988800 ≤ t.seconds.toNat
      omega
    rw [if_neg hsmall, if_pos h]

/-- A clock that has been set to the last second of era 0. -/
def eraClock : SystemClock 32 where
  baseTime := ⟨2085978495, 0⟩
  lastSyncTickCount := 0
  pollPeriod := 16
  slewRate := 0
  firstTimeSyncDone := true

/-- A second and a quarter later, in era 1. -/
theorem getTime_roundTrip_era1 :
    ∃ microSecs,
      documentedSntp.convertToUnixTime (sntpClientGetTime true eraClock 1250) =
        some ((eraClock.currentTime 1250).secs, microSecs) ∧
      microSecs.toNat = (eraClock.currentTime 1250).msecs.toNat * 1000 :=
  getTime_roundTrip documentedSntp true eraClock 1250 (by decide) (by decide)

end Timestamp

end Corstone.Sntp
