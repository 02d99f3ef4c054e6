import Corstone.Sntp.SystemClock

/-!
# The clock between synchronisations

The time that `calculateCurrentTime` returns in the 2^32 ticks after `sntpClient_SetTime`
(`sntp_client_task.c`, lines 675–707 and 923–933). The slew rate is a signed quotient; the time
is computed modulo 2^64 ms and kept modulo 2^32 s, and `2^64 = 4294967 * (2^32 * 1000) +
1271310319616`.

* `returnedMs_of_steady`: the time for each rate with which the clock keeps going forward.
* `steady_of_forward`: there are no other rates.
* `clockDiscipline_iff`: the clock goes forward, and by no more than the slew rate off, iff the base
  time has no milliseconds and the rate is one of these.
* `steady_iff_of_small`: the rates that are no laps.
* `not_disciplined_negative`: two milliseconds in a second too fast.
-/

namespace Corstone.Sntp

/-! ## The time that is returned -/

/-- The milliseconds that are returned `e` milliseconds after the base time of `secs` seconds. -/
def returnedMs (secs : ℕ) (rate : ℤ) (e : ℕ) : ℤ :=
  (secs * 1000 + (e + rate * (e / 1000 : ℕ)) % 2 ^ 64) % (2 ^ 32 * 1000)

theorem ms_calculateCurrentTime {w : ℕ} (hw : w ≤ 64) (base : UTCTime) (last now : TickType w)
    (rate : ℤ) : ((calculateCurrentTime base last (UInt64.ofInt rate) now).ms : ℤ) =
      returnedMs base.secs.toNat rate (now - last).toNat := by
  obtain ⟨hsecs, hmsecs⟩ := calculateCurrentTime_toNat hw base last now (UInt64.ofInt rate)
  have hslewed := slewedMs_ofInt (now - last).toNat rate
  rw [UTCTime.ms, hsecs, hmsecs, returnedMs, ← hslewed]
  push_cast
  omega

/-- A multiple `j` of 2^32 seconds that a second may add, the seconds at which the sum of the
    milliseconds then wraps around, and by how much the clock jumps. -/
structure Laps where
  j : ℤ
  wraps : List ℕ
  jump : ℤ

/-- The clock gains nothing, or it laps the range of 2^32 seconds up to three times a second. -/
def allLaps : List Laps :=
  [⟨0, [], 0⟩, ⟨1, [], 0⟩, ⟨2, [2147484], 2 ^ 32 * 1000 - 1271310319616⟩,
    ⟨-1, [1], 1271310319616⟩, ⟨-2, [1, 2147484], 1271310319616⟩,
    ⟨-3, [1, 1431656, 2863312], 1271310319616⟩]

/-- The jumps up to second `k`. -/
def Laps.jumps (l : Laps) (k : ℕ) : ℤ := l.jump * (l.wraps.countP fun t => t ≤ k : ℕ)

/-- In a second the clock goes forward by `s` of at least 999 ms, up to laps, and with its jumps
    it stays in the range up to the last of 2^32 milliseconds. -/
structure SteadyBy (secs : ℕ) (rate : ℤ) (s : ℕ) (l : Laps) : Prop where
  forward : 999 ≤ s
  rate_eq : 1000 + rate = s + l.j * (2 ^ 32 * 1000)
  mem : l ∈ allLaps
  range : (secs * 1000 : ℤ) + l.jump * l.wraps.length + 4294967 * s + 295 < 2 ^ 32 * 1000
  /-- One lap a second, just before the sum wraps around. -/
  lap : l.j = 1 → 4294967 * s + 295 < 1271310319616

/-- The rates with which the clock keeps going forward. -/
def Steady (secs : ℕ) (rate : ℤ) : Prop := ∃ s l, SteadyBy secs rate s l

/-! ## Steady rates -/

/-- Both remainders, given the quotients. -/
theorem emod_emod_eq {b h : ℤ} (q m : ℤ) (hq : 0 ≤ h - 2 ^ 64 * q ∧ h - 2 ^ 64 * q < 2 ^ 64)
    (hm : 0 ≤ b + h - 2 ^ 64 * q - 2 ^ 32 * 1000 * m ∧
      b + h - 2 ^ 64 * q - 2 ^ 32 * 1000 * m < 2 ^ 32 * 1000) :
    (b + h % 2 ^ 64) % (2 ^ 32 * 1000) = b + h - 2 ^ 64 * q - 2 ^ 32 * 1000 * m := by
  have hfirst : h % 2 ^ 64 = h - 2 ^ 64 * q := by omega
  rw [hfirst]
  omega

/-- The remainders for each of the laps: `z` of `k * s` milliseconds and `x` behind the last
    second, with the quotients in each stretch between two wraps. -/
theorem emod_emod_of_laps {l : Laps} (hmem : l ∈ allLaps) {b k x z s : ℕ} (hs : 999 ≤ s)
    (hrange : (b : ℤ) + l.jump * l.wraps.length + 4294967 * s + 295 < 2 ^ 32 * 1000)
    (hlap : l.j = 1 → 4294967 * s + 295 < 1271310319616)
    (hx : x < 1000) (hk : k ≤ 4294967) (hlast : k = 4294967 → x ≤ 295) (hz : z ≤ 4294967 * s)
    (hz' : k < 4294967 → z + s ≤ 4294967 * s) (hz0 : k = 0 → z = 0) :
    ((b : ℤ) + (z + l.j * (2 ^ 32 * 1000) * k + x) % 2 ^ 64) % (2 ^ 32 * 1000) =
      b + z + x + l.jumps k := by
  simp only [allLaps, List.mem_cons, List.not_mem_nil, or_false] at hmem
  rcases hmem with rfl | rfl | rfl | rfl | rfl | rfl
  all_goals
    simp only [Laps.jumps, List.countP_cons, List.countP_nil, List.length_cons, List.length_nil,
      decide_eq_true_eq] at *
  · rw [emod_emod_eq 0 0 (by omega) (by omega)]
    omega
  · have hlap := hlap trivial
    rw [emod_emod_eq 0 k (by omega) (by omega)]
    omega
  · by_cases h1 : 2147484 ≤ k
    · rw [emod_emod_eq 1 (2 * k - 4294968) (by omega) (by omega), if_pos h1]
      omega
    · rw [emod_emod_eq 0 (2 * k) (by omega) (by omega), if_neg h1]
      omega
  · by_cases h1 : 1 ≤ k
    · rw [emod_emod_eq (-1) (4294967 - k) (by omega) (by omega), if_pos h1]
      omega
    · rw [emod_emod_eq 0 (-k) (by omega) (by omega), if_neg h1]
      omega
  · by_cases h1 : 1 ≤ k
    · by_cases h2 : 2147484 ≤ k
      · rw [emod_emod_eq (-2) (2 * 4294967 - 2 * k) (by omega) (by omega), if_pos h1, if_pos h2]
        omega
      · rw [emod_emod_eq (-1) (4294967 - 2 * k) (by omega) (by omega), if_pos h1, if_neg h2]
        omega
    · rw [emod_emod_eq 0 (-2 * k) (by omega) (by omega), if_neg h1, if_neg (by omega)]
      omega
  · by_cases h1 : 1 ≤ k
    · by_cases h2 : 1431656 ≤ k
      · by_cases h3 : 2863312 ≤ k
        · rw [emod_emod_eq (-3) (3 * 4294967 - 3 * k) (by omega) (by omega), if_pos h1, if_pos h2,
            if_pos h3]
          omega
        · rw [emod_emod_eq (-2) (2 * 4294967 - 3 * k) (by omega) (by omega), if_pos h1, if_pos h2,
            if_neg h3]
          omega
      · rw [emod_emod_eq (-1) (4294967 - 3 * k) (by omega) (by omega), if_pos h1, if_neg h2,
          if_neg (by omega)]
        omega
    · rw [emod_emod_eq 0 (-3 * k) (by omega) (by omega), if_neg h1, if_neg (by omega),
        if_neg (by omega)]
      omega

/-- **The time with a steady rate.** -/
theorem returnedMs_of_steady {secs : ℕ} {rate : ℤ} {s : ℕ} {l : Laps}
    (h : SteadyBy secs rate s l) {e : ℕ} (he : e < 2 ^ 32) :
    returnedMs secs rate e =
      (secs * 1000 : ℕ) + (e / 1000 * s : ℕ) + (e % 1000 : ℕ) + l.jumps (e / 1000) := by
  have hk : e / 1000 ≤ 4294967 := by omega
  have hsum : (e : ℤ) + rate * (e / 1000 : ℕ) =
      (e / 1000 * s : ℕ) + l.j * (2 ^ 32 * 1000) * (e / 1000 : ℕ) + (e % 1000 : ℕ) := by
    have hrate : rate = s + l.j * (2 ^ 32 * 1000) - 1000 := by linarith only [h.rate_eq]
    have hsplit : (e : ℤ) = 1000 * (e / 1000 : ℕ) + (e % 1000 : ℕ) := by omega
    generalize e / 1000 = k at *
    rw [hrate, hsplit]
    push_cast
    ring
  have hbase : (secs * 1000 : ℤ) = (secs * 1000 : ℕ) := by push_cast; rfl
  unfold returnedMs
  rw [hsum, hbase]
  refine emod_emod_of_laps h.mem h.forward (hbase ▸ h.range) h.lap (by omega) hk (by omega)
    (Nat.mul_le_mul_right s hk) (fun hlt => ?_) fun h0 => by rw [h0, Nat.zero_mul]
  rw [← Nat.succ_mul]
  exact Nat.mul_le_mul_right s hlt

/-- The clock has jumped later, or not yet. -/
theorem Laps.jumps_mono {l : Laps} (hmem : l ∈ allLaps) {k k' : ℕ} (h : k ≤ k') :
    l.jumps k ≤ l.jumps k' := by
  have hjump : 0 ≤ l.jump := by
    revert l
    decide
  have hcount : (l.wraps.countP fun t => t ≤ k) ≤ l.wraps.countP fun t => t ≤ k' :=
    List.countP_mono_left fun t _ ht => by simp at ht ⊢; omega
  exact mul_le_mul_of_nonneg_left (by exact_mod_cast hcount) hjump

/-- **With a steady rate** the clock does not run backwards. -/
theorem SteadyBy.forward_run {secs : ℕ} {rate : ℤ} {s : ℕ} {l : Laps}
    (h : SteadyBy secs rate s l) {e₁ e₂ : ℕ} (hle : e₁ ≤ e₂) (he₂ : e₂ < 2 ^ 32) :
    returnedMs secs rate e₁ ≤ returnedMs secs rate e₂ := by
  rw [returnedMs_of_steady h (by omega), returnedMs_of_steady h he₂]
  have hjumps := Laps.jumps_mono h.mem (Nat.div_le_div_right hle : e₁ / 1000 ≤ e₂ / 1000)
  have hforward := h.forward
  rcases Nat.eq_or_lt_of_le (Nat.div_le_div_right hle : e₁ / 1000 ≤ e₂ / 1000) with heq | hlt
  · rw [heq]
    omega
  · have hnext : e₁ / 1000 * s + s ≤ e₂ / 1000 * s := by
      rw [← Nat.succ_mul]
      exact Nat.mul_le_mul_right s hlt
    generalize e₁ / 1000 * s = z₁ at *
    generalize e₂ / 1000 * s = z₂ at *
    omega

/-- The clock has not jumped in the first second, and by no more than all its jumps later. -/
theorem Laps.jumps_le {l : Laps} (hmem : l ∈ allLaps) (k : ℕ) :
    l.jumps 0 = 0 ∧ 0 ≤ l.jumps k ∧ l.jumps k ≤ l.jump * l.wraps.length := by
  have hjump : l.jumps 0 = 0 ∧ 0 ≤ l.jump := by
    revert l
    decide
  refine ⟨hjump.1, mul_nonneg hjump.2 (Int.natCast_nonneg _), ?_⟩
  exact mul_le_mul_of_nonneg_left (by exact_mod_cast List.countP_le_length) hjump.2

/-- The clock is off by less than the slew, also with its jumps. -/
theorem abs_add_jumps_le {l : Laps} (hmem : l ∈ allLaps) {k z : ℕ} (hz : 999 * k ≤ z)
    (hz' : z ≤ 1000000 * k) :
    |(z : ℤ) - 1000 * k + l.jumps k| ≤ |(z : ℤ) - 1000 * k + l.j * (2 ^ 32 * 1000) * k| := by
  obtain ⟨hzero, hnonneg, hle⟩ := Laps.jumps_le hmem k
  rcases Nat.eq_zero_or_pos k with rfl | hk
  · rw [hzero]
    simp
  generalize l.jumps k = jumps at *
  simp only [allLaps, List.mem_cons, List.not_mem_nil, or_false] at hmem
  rcases hmem with rfl | rfl | rfl | rfl | rfl | rfl
  all_goals simp only [List.length_cons, List.length_nil] at hle ⊢
  · have hnone : jumps = 0 := by omega
    simp [hnone]
  · exact abs_le_abs (by omega) (by omega)
  · exact abs_le_abs (by omega) (by omega)
  · rw [← abs_neg (_ + _ * _ * _)]
    exact abs_le_abs (by omega) (by omega)
  · rw [← abs_neg (_ + _ * _ * _)]
    exact abs_le_abs (by omega) (by omega)
  · rw [← abs_neg (_ + _ * _ * _)]
    exact abs_le_abs (by omega) (by omega)

/-- **With a steady rate** the clock is off by no more than the slew of the elapsed time. -/
theorem SteadyBy.within {secs : ℕ} {rate : ℤ} {s : ℕ} {l : Laps} (h : SteadyBy secs rate s l)
    {e : ℕ} (he : e < 2 ^ 32) :
    1000 * |returnedMs secs rate e - (secs * 1000 + e)| ≤ |rate| * e := by
  have hjump : 0 ≤ l.jump * l.wraps.length :=
    (Laps.jumps_le h.mem 0).2.1.trans (Laps.jumps_le h.mem 0).2.2
  have hs : s ≤ 1000000 := by
    have hrange := h.range
    omega
  have hz : 999 * (e / 1000) ≤ e / 1000 * s := by
    rw [Nat.mul_comm]
    exact Nat.mul_le_mul_left _ h.forward
  have hz' : e / 1000 * s ≤ 1000000 * (e / 1000) := by
    rw [Nat.mul_comm]
    exact Nat.mul_le_mul_right _ hs
  have hoff : returnedMs secs rate e - (secs * 1000 + e) =
      (e / 1000 * s : ℕ) - 1000 * (e / 1000 : ℕ) + l.jumps (e / 1000) := by
    rw [returnedMs_of_steady h he]
    omega
  have hslew : ((e / 1000 * s : ℕ) : ℤ) - 1000 * (e / 1000 : ℕ) +
      l.j * (2 ^ 32 * 1000) * (e / 1000 : ℕ) = rate * (e / 1000 : ℕ) := by
    have hrate : rate = s + l.j * (2 ^ 32 * 1000) - 1000 := by linarith only [h.rate_eq]
    rw [hrate]
    push_cast
    ring
  calc 1000 * |returnedMs secs rate e - (secs * 1000 + e)|
      ≤ 1000 * |rate * (e / 1000 : ℕ)| := by
        rw [hoff, ← hslew]
        exact mul_le_mul_of_nonneg_left (abs_add_jumps_le h.mem hz hz') (by omega)
    _ = |rate| * (1000 * (e / 1000 : ℕ)) := by
        rw [abs_mul, Nat.abs_cast]
        ring
    _ ≤ |rate| * e := by
        refine mul_le_mul_of_nonneg_left ?_ (abs_nonneg rate)
        omega

/-! ## All rates that go forward -/

/-- A remainder that does not fall grows by the remainder of what is added. -/
theorem emod_add_of_le {a d m : ℤ} (hm : 0 < m) (hle : a % m ≤ (a + d) % m) :
    (a + d) % m = a % m + d % m := by
  have ha := Int.emod_lt_of_pos a hm
  have ha' := Int.emod_nonneg a hm.ne'
  have hd := Int.emod_lt_of_pos d hm
  have hd' := Int.emod_nonneg d hm.ne'
  rw [Int.add_emod] at hle ⊢
  rcases lt_or_ge (a % m + d % m) m with hlt | hge
  · exact Int.emod_eq_of_lt (by omega) hlt
  · have hwrap : (a % m + d % m) % m = a % m + d % m - m := by
      rw [← Int.sub_emod_right (a % m + d % m) m]
      exact Int.emod_eq_of_lt (by omega) (by omega)
    omega

/-- What a second adds when the sum of the milliseconds wraps around in it. -/
def wrapGain (s : ℤ) : ℤ :=
  if s < 1271310319616 then 2 ^ 32 * 1000 - 1271310319616 else -1271310319616

/-- The clock after one more second that adds `c` milliseconds. -/
theorem next_second {b p c : ℤ} (hp : 0 ≤ p ∧ p < 2 ^ 64) (hc : 0 ≤ c ∧ c < 2 ^ 64)
    (hle : (b + p) % (2 ^ 32 * 1000) ≤ (b + (p + c) % 2 ^ 64) % (2 ^ 32 * 1000)) :
    (b + (p + c) % 2 ^ 64) % (2 ^ 32 * 1000) =
      (b + p) % (2 ^ 32 * 1000) + c % (2 ^ 32 * 1000) +
        (p + c) / 2 ^ 64 * wrapGain (c % (2 ^ 32 * 1000)) := by
  rcases lt_or_ge (p + c) (2 ^ 64) with hlt | hge
  · have hsum : b + (p + c) % 2 ^ 64 = b + p + c := by omega
    have hzero : (p + c) / 2 ^ 64 = 0 := by omega
    rw [hsum] at hle ⊢
    rw [emod_add_of_le (by omega) hle, hzero]
    ring
  · have hone : (p + c) / 2 ^ 64 = 1 := by
      clear hle
      omega
    have hmod : (p + c) % 2 ^ 64 = p + c - 2 ^ 64 := by
      rw [Int.emod_def, hone, mul_one]
    have hsum : (b + (p + c) % 2 ^ 64) % (2 ^ 32 * 1000) =
        (b + p + (c - 1271310319616)) % (2 ^ 32 * 1000) := by
      rw [hmod]
      clear hle
      omega
    rw [hsum] at hle ⊢
    rw [emod_add_of_le (by omega) hle, hone, wrapGain]
    split_ifs <;> omega

/-- The milliseconds that a second adds, as they are computed. -/
def perSecond (rate : ℤ) : ℤ := (1000 + rate) % 2 ^ 64

theorem perSecond_bounds (rate : ℤ) : 0 ≤ perSecond rate ∧ perSecond rate < 2 ^ 64 := by
  unfold perSecond
  omega

theorem returnedMs_second (secs : ℕ) (rate : ℤ) (k : ℕ) {x : ℕ} (hx : x < 1000) :
    returnedMs secs rate (1000 * k + x) =
      (secs * 1000 + (k * perSecond rate + x) % 2 ^ 64) % (2 ^ 32 * 1000) := by
  have hk : (1000 * k + x) / 1000 = k := by omega
  have hmod : (k * (1000 + rate) + x) % 2 ^ 64 = (k * perSecond rate + x) % 2 ^ 64 :=
    ((Int.mod_modEq (1000 + rate) (2 ^ 64)).symm.mul_left k).add_right x
  unfold returnedMs
  rw [hk, ← hmod]
  push_cast
  ring_nf

/-- **The seconds of a clock that goes forward.** -/
theorem returnedMs_seconds {secs : ℕ} (hsecs : secs < 2 ^ 32) {rate : ℤ}
    (hforward : ∀ k : ℕ, k < 4294967 →
      returnedMs secs rate (1000 * k) ≤ returnedMs secs rate (1000 * (k + 1)))
    {k : ℕ} (hk : k ≤ 4294967) :
    returnedMs secs rate (1000 * k) =
      secs * 1000 + k * (perSecond rate % (2 ^ 32 * 1000)) +
        k * perSecond rate / 2 ^ 64 * wrapGain (perSecond rate % (2 ^ 32 * 1000)) := by
  have hc := perSecond_bounds rate
  have hsecond (k : ℕ) : returnedMs secs rate (1000 * k) =
      (secs * 1000 + (k * perSecond rate) % 2 ^ 64) % (2 ^ 32 * 1000) := by
    have h := returnedMs_second secs rate k (x := 0) (by omega)
    simpa using h
  induction k with
  | zero =>
    rw [hsecond]
    simp
    omega
  | succ k ih =>
    have hnext := hforward k (by omega)
    have ih := ih (by omega)
    rw [hsecond] at ih
    rw [hsecond, hsecond] at hnext
    rw [hsecond]
    have hmul : ((k + 1 : ℕ) : ℤ) * perSecond rate = k * perSecond rate + perSecond rate := by
      push_cast
      ring
    rw [hmul] at hnext ⊢
    generalize perSecond rate = c at *
    generalize (k : ℤ) * c = a at *
    have hmod : (a + c) % 2 ^ 64 = (a % 2 ^ 64 + c) % 2 ^ 64 := by omega
    have hdiv : (a + c) / 2 ^ 64 = a / 2 ^ 64 + (a % 2 ^ 64 + c) / 2 ^ 64 := by omega
    rw [hmod] at hnext ⊢
    rw [next_second (by omega) hc hnext, ih, hdiv]
    push_cast
    ring

/-- A lap or two a second: `last` is the time at the last second, whose remainder is `p`. -/
theorem laps_of_small {b s j wraps p last : ℤ} (hb : 0 ≤ b) (hs : 999 ≤ s)
    (hsmall : s < 1271310319616) (hj : 0 ≤ j)
    (hp : 0 ≤ p ∧ p + 295 < 2 ^ 64) (hwraps : 0 ≤ wraps)
    (hsum : 4294967 * (2 ^ 32 * 1000 * j + s) = 2 ^ 64 * wraps + p)
    (hlast : last = b + 4294967 * s + wraps * (2 ^ 32 * 1000 - 1271310319616))
    (hrange : last + 295 < 2 ^ 32 * 1000) :
    (j = 0 ∧ wraps = 0) ∨ (j = 1 ∧ wraps = 0 ∧ 4294967 * s + 295 < 1271310319616) ∨
      (j = 2 ∧ wraps = 1) := by
  have hle : wraps ≤ 1 := by omega
  obtain rfl | rfl : wraps = 0 ∨ wraps = 1 := by omega
  · have hlap : j ≤ 1 := by omega
    omega
  · have hlap : j ≤ 2 := by omega
    omega

/-- All laps but at most three. -/
theorem laps_of_large {b s j wraps p last : ℤ} (hb : 0 ≤ b) (hlarge : 1271310319616 ≤ s)
    (hs : s < 2 ^ 32 * 1000) (hj : 0 ≤ j) (hc : 2 ^ 32 * 1000 * j + s < 2 ^ 64)
    (hp : 0 ≤ p ∧ p < 2 ^ 64) (hwraps : 0 ≤ wraps)
    (hsum : 4294967 * (2 ^ 32 * 1000 * j + s) = 2 ^ 64 * wraps + p)
    (hlast : last = b + 4294967 * s + wraps * -1271310319616)
    (hrange : last + 295 < 2 ^ 32 * 1000) :
    j = wraps ∧ (wraps = 4294966 ∨ wraps = 4294965 ∨ wraps = 4294964) := by
  have hwraps' : wraps = 4294966 ∨ wraps = 4294965 ∨ wraps = 4294964 := by omega
  refine ⟨?_, hwraps'⟩
  obtain rfl | rfl | rfl := hwraps' <;> omega

/-- The last 295 milliseconds of a clock that goes forward. -/
theorem end_in_range {b p last : ℤ} (hb : 0 ≤ b ∧ b + 1000 ≤ 2 ^ 32 * 1000)
    (hp : 0 ≤ p ∧ p < 2 ^ 64) (hlast : last = (b + p) % (2 ^ 32 * 1000)) (hpast : b + 295 ≤ last)
    (hle : last ≤ (b + (p + 295) % 2 ^ 64) % (2 ^ 32 * 1000)) :
    p + 295 < 2 ^ 64 ∧ last + 295 < 2 ^ 32 * 1000 := by
  rcases lt_or_ge (p + 295) (2 ^ 64) with hlt | hge
  · rw [Int.emod_eq_of_lt (by omega) hlt] at hle
    omega
  · have hwrap : (p + 295) % 2 ^ 64 = p + 295 - 2 ^ 64 := by omega
    rw [hwrap] at hle
    omega

section Forward

variable {secs : ℕ} {rate : ℤ}

/-- The first second adds at least 999 ms. -/
theorem first_second (hsecs : secs < 2 ^ 32)
    (hforward : ∀ e₁ e₂, e₁ ≤ e₂ → e₂ < 2 ^ 32 →
      returnedMs secs rate e₁ ≤ returnedMs secs rate e₂) :
    999 ≤ perSecond rate % (2 ^ 32 * 1000) := by
  have hle := hforward 999 1000 (by omega) (by omega)
  have hlast : returnedMs secs rate 999 = secs * 1000 + 999 := by
    have h := returnedMs_second secs rate 0 (x := 999) (by omega)
    rw [Nat.mul_zero, Nat.zero_add] at h
    rw [h]
    push_cast
    omega
  have hnext : returnedMs secs rate 1000 = secs * 1000 + perSecond rate % (2 ^ 32 * 1000) := by
    have hzero : perSecond rate / 2 ^ 64 = 0 :=
      Int.ediv_eq_zero_of_lt (perSecond_bounds rate).1 (perSecond_bounds rate).2
    have h := returnedMs_seconds hsecs
      (fun k hk => hforward _ _ (by omega) (by omega)) (k := 1) (by omega)
    simpa only [Nat.mul_one, Nat.cast_one, one_mul, hzero, zero_mul, add_zero] using h
  omega

/-- So does a second in which the sum of the milliseconds wraps around. -/
theorem second_second (hsecs : secs < 2 ^ 32)
    (hforward : ∀ e₁ e₂, e₁ ≤ e₂ → e₂ < 2 ^ 32 →
      returnedMs secs rate e₁ ≤ returnedMs secs rate e₂)
    (hlarge : 1271310319616 ≤ perSecond rate % (2 ^ 32 * 1000))
    (hwrap : 2 ^ 63 ≤ perSecond rate) (hnot : perSecond rate + 999 < 2 ^ 64) :
    1271310319616 + 999 ≤ perSecond rate % (2 ^ 32 * 1000) := by
  have hbelow := hforward 1000 1999 (by omega) (by omega)
  have habove := hforward 1999 2000 (by omega) (by omega)
  have hseconds {k : ℕ} (hk : k ≤ 4294967) :=
    returnedMs_seconds hsecs (fun k hk => hforward _ _ (by omega) (by omega)) hk
  have h1000 := hseconds (k := 1) (by omega)
  have h1000' := returnedMs_second secs rate 1 (x := 0) (by omega)
  have h1999 := returnedMs_second secs rate 1 (x := 999) (by omega)
  have h2000 := hseconds (k := 2) (by omega)
  have hgain : wrapGain (perSecond rate % (2 ^ 32 * 1000)) = -1271310319616 :=
    if_neg (not_lt.mpr hlarge)
  rw [hgain] at h1000 h2000
  simp only [Nat.reduceMul, Nat.reduceAdd, Nat.cast_one, one_mul, Nat.cast_ofNat, Nat.cast_zero,
    add_zero] at *
  generalize perSecond rate = c at *
  omega

theorem steady_of_laps (l : Laps) (hmem : l ∈ allLaps) {s : ℤ} (hs : 999 ≤ s)
    (hrate : 1000 + rate = s + l.j * (2 ^ 32 * 1000))
    (hrange : (secs * 1000 : ℤ) + l.jump * l.wraps.length + 4294967 * s + 295 < 2 ^ 32 * 1000)
    (hlap : l.j = 1 → 4294967 * s + 295 < 1271310319616) : Steady secs rate := by
  have hs' : (s.toNat : ℤ) = s := Int.toNat_of_nonneg (by omega)
  exact ⟨s.toNat, l, by omega, by rw [hs']; exact hrate, hmem, by rw [hs']; exact hrange,
    fun h => by have := hlap h; omega⟩

/-- No lap, one or two. -/
theorem steady_of_small {s j wraps last : ℤ} (hrate : -2 ^ 63 ≤ rate ∧ rate < 2 ^ 63)
    (hc : 2 ^ 32 * 1000 * j + s = (1000 + rate) % 2 ^ 64) (hs : 999 ≤ s)
    (hlaps : (j = 0 ∧ wraps = 0) ∨
      (j = 1 ∧ wraps = 0 ∧ 4294967 * s + 295 < 1271310319616) ∨ (j = 2 ∧ wraps = 1))
    (hlast : last = secs * 1000 + 4294967 * s + wraps * (2 ^ 32 * 1000 - 1271310319616))
    (hrange : last + 295 < 2 ^ 32 * 1000) : Steady secs rate := by
  rcases hlaps with ⟨rfl, rfl⟩ | ⟨rfl, rfl, hlap⟩ | ⟨rfl, rfl⟩
  · refine steady_of_laps ⟨0, [], 0⟩ (by simp [allLaps]) hs ?_ ?_ (by simp)
    · show 1000 + rate = s + 0 * (2 ^ 32 * 1000)
      omega
    · show (secs * 1000 : ℤ) + 0 * (0 : ℕ) + 4294967 * s + 295 < 2 ^ 32 * 1000
      omega
  · refine steady_of_laps ⟨1, [], 0⟩ (by simp [allLaps]) hs ?_ ?_ fun _ => hlap
    · show 1000 + rate = s + 1 * (2 ^ 32 * 1000)
      omega
    · show (secs * 1000 : ℤ) + 0 * (0 : ℕ) + 4294967 * s + 295 < 2 ^ 32 * 1000
      omega
  · refine steady_of_laps ⟨2, [2147484], 2 ^ 32 * 1000 - 1271310319616⟩ (by simp [allLaps]) hs ?_ ?_
      (by simp)
    · show 1000 + rate = s + 2 * (2 ^ 32 * 1000)
      omega
    · show (secs * 1000 : ℤ) + (2 ^ 32 * 1000 - 1271310319616) * (1 : ℕ) + 4294967 * s + 295 <
        2 ^ 32 * 1000
      omega

/-- Laps backwards. -/
theorem steady_of_large {s wraps last : ℤ} (hrate : -2 ^ 63 ≤ rate ∧ rate < 2 ^ 63)
    (hc : 2 ^ 32 * 1000 * wraps + s = (1000 + rate) % 2 ^ 64) (hs : 1271310319616 + 999 ≤ s)
    (hwraps : wraps = 4294966 ∨ wraps = 4294965 ∨ wraps = 4294964)
    (hlast : last = secs * 1000 + 4294967 * s + wraps * -1271310319616)
    (hrange : last + 295 < 2 ^ 32 * 1000) : Steady secs rate := by
  rcases hwraps with rfl | rfl | rfl
  · refine steady_of_laps ⟨-1, [1], 1271310319616⟩ (by simp [allLaps])
      (by omega : 999 ≤ s - 1271310319616) ?_ ?_ (by simp)
    · show 1000 + rate = s - 1271310319616 + -1 * (2 ^ 32 * 1000)
      omega
    · show (secs * 1000 : ℤ) + 1271310319616 * (1 : ℕ) + 4294967 * (s - 1271310319616) + 295 <
        2 ^ 32 * 1000
      omega
  · refine steady_of_laps ⟨-2, [1, 2147484], 1271310319616⟩ (by simp [allLaps])
      (by omega : 999 ≤ s - 1271310319616) ?_ ?_ (by simp)
    · show 1000 + rate = s - 1271310319616 + -2 * (2 ^ 32 * 1000)
      omega
    · show (secs * 1000 : ℤ) + 1271310319616 * (2 : ℕ) + 4294967 * (s - 1271310319616) + 295 <
        2 ^ 32 * 1000
      omega
  · refine steady_of_laps ⟨-3, [1, 1431656, 2863312], 1271310319616⟩ (by simp [allLaps])
      (by omega : 999 ≤ s - 1271310319616) ?_ ?_ (by simp)
    · show 1000 + rate = s - 1271310319616 + -3 * (2 ^ 32 * 1000)
      omega
    · show (secs * 1000 : ℤ) + 1271310319616 * (3 : ℕ) + 4294967 * (s - 1271310319616) + 295 <
        2 ^ 32 * 1000
      omega

/-- **There are no other rates.** -/
theorem steady_of_forward (hsecs : secs < 2 ^ 32) (hrate : -2 ^ 63 ≤ rate ∧ rate < 2 ^ 63)
    (hforward : ∀ e₁ e₂, e₁ ≤ e₂ → e₂ < 2 ^ 32 →
      returnedMs secs rate e₁ ≤ returnedMs secs rate e₂) : Steady secs rate := by
  have hc := perSecond_bounds rate
  have hs := first_second hsecs hforward
  have hsecond := second_second hsecs hforward
  have hlast := returnedMs_seconds hsecs
    (fun k hk => hforward _ _ (by omega) (by omega)) (k := 4294967) (by omega)
  have hlast' := returnedMs_second secs rate 4294967 (x := 0) (by omega)
  have hend := hforward (1000 * 4294967) (1000 * 4294967 + 295) (by omega) (by omega)
  rw [returnedMs_second secs rate 4294967 (by omega)] at hend
  have hrate' : perSecond rate = (1000 + rate) % 2 ^ 64 := rfl
  clear hforward
  simp only [add_zero, Nat.cast_zero, Nat.cast_ofNat] at hlast hlast' hend
  generalize returnedMs secs rate (1000 * 4294967) = last at *
  generalize perSecond rate = c at *
  -- the sum at the last second, and how often it has wrapped around
  obtain ⟨wraps, p, hp, hsum, hwraps, hmod⟩ : ∃ wraps p, (0 ≤ p ∧ p < 2 ^ 64) ∧
      4294967 * c = 2 ^ 64 * wraps + p ∧ 4294967 * c / 2 ^ 64 = wraps ∧
      ∀ x, 0 ≤ x → (4294967 * c + x) % 2 ^ 64 = (p + x) % 2 ^ 64 :=
    ⟨4294967 * c / 2 ^ 64, 4294967 * c % 2 ^ 64, by omega, by omega, rfl, fun x hx => by omega⟩
  rw [hwraps] at hlast
  rw [hmod 295 (by omega)] at hend
  have hmod0 := hmod 0 le_rfl
  rw [add_zero, add_zero, Int.emod_eq_of_lt hp.1 hp.2] at hmod0
  rw [hmod0] at hlast'
  have hwraps0 : 0 ≤ wraps := by omega
  clear hmod hmod0 hwraps
  have hsplit : c = 2 ^ 32 * 1000 * (c / (2 ^ 32 * 1000)) + c % (2 ^ 32 * 1000) := by omega
  have hj : 0 ≤ c / (2 ^ 32 * 1000) := by omega
  have hs' : c % (2 ^ 32 * 1000) < 2 ^ 32 * 1000 := by omega
  generalize c % (2 ^ 32 * 1000) = s at *
  generalize c / (2 ^ 32 * 1000) = j at *
  subst hsplit
  rcases lt_or_ge s 1271310319616 with hsmall | hlarge
  · rw [wrapGain, if_pos hsmall] at hlast
    have hin := end_in_range (by omega) hp hlast' (by omega) hend
    exact steady_of_small hrate hrate' hs
      (laps_of_small (by omega) hs hsmall hj ⟨hp.1, hin.1⟩ hwraps0 hsum hlast hin.2) hlast hin.2
  · rw [wrapGain, if_neg (not_lt.mpr hlarge)] at hlast
    have hwraps1 : wraps ≤ 4294966 := by omega
    have hin := end_in_range (by omega) hp hlast' (by omega) hend
    obtain ⟨rfl, hwraps⟩ := laps_of_large (by omega) hlarge hs' hj hc.2 hp hwraps0 hsum hlast hin.2
    exact steady_of_large hrate hrate' (hsecond hlarge (by omega) (by omega)) hwraps hlast hin.2

end Forward

/-! ## The clock after a synchronisation -/

section Discipline

variable {w : ℕ}

/-- `systemClock.slewRate` behind `sntpClient_SetTime`, read as the signed quotient that it is. -/
def slewAfter (systemClock : SystemClock w) (clockOffsetMs : Int64) : ℤ :=
  if systemClock.firstTimeSyncDone = true ∧ systemClock.slewRate = 0 then
    clockOffsetMs.toInt.tdiv systemClock.pollPeriod.toNat
  else systemClock.slewRate.toInt64.toInt

theorem ofInt_toInt_toInt64 (u : UInt64) : UInt64.ofInt u.toInt64.toInt = u := by
  have hsigned : u.toInt64.toInt = Int.bmod u.toNat (2 ^ 64) := BitVec.toInt_eq_toNat_bmod _
  have hlt := u.toNat_lt
  have hmod : Int.bmod u.toNat (2 ^ 64) % 2 ^ 64 = u.toNat := by
    unfold Int.bmod
    dsimp only
    split_ifs <;> omega
  rw [← UInt64.toNat_inj, hsigned, UInt64.ofInt, hmod, UInt64.toNat_ofNat']
  omega

theorem toInt_nextSlewRate (systemClock : SystemClock w) (clockOffsetMs : Int64) :
    (nextSlewRate systemClock clockOffsetMs).toInt64.toInt =
      slewAfter systemClock clockOffsetMs := by
  unfold nextSlewRate slewAfter
  split_ifs with hset
  · have hperiod : systemClock.pollPeriod.toUInt64.toInt64.toInt =
        systemClock.pollPeriod.toNat := by
      have hlt := systemClock.pollPeriod.toNat_lt
      have hsigned : systemClock.pollPeriod.toUInt64.toInt64.toInt =
          Int.bmod systemClock.pollPeriod.toUInt64.toNat (2 ^ 64) := BitVec.toInt_eq_toNat_bmod _
      rw [hsigned, UInt32.toNat_toUInt64]
      exact Int.bmod_eq_of_le (by omega) (by omega)
    have hne : systemClock.pollPeriod.toUInt64.toInt64 ≠ -1 := by
      intro h
      rw [h] at hperiod
      have hminus : (-1 : Int64).toInt = -1 := by decide
      omega
    show (clockOffsetMs / systemClock.pollPeriod.toUInt64.toInt64).toInt = _
    rw [Int64.toInt_div_of_ne_right _ _ hne, hperiod]
  · rfl

/-- In the 2^32 milliseconds after the synchronisation, the clock does not run backwards, and it
    is within the slew of the elapsed time. -/
structure Disciplined (systemClock : SystemClock w) (rate : ℤ) : Prop where
  forward : ∀ e₁ e₂ : ℕ, e₁ ≤ e₂ → e₂ < 2 ^ 32 →
    (systemClock.currentTime (systemClock.lastSyncTickCount + BitVec.ofNat w e₁)).ms ≤
      (systemClock.currentTime (systemClock.lastSyncTickCount + BitVec.ofNat w e₂)).ms
  within : ∀ e : ℕ, e < 2 ^ 32 →
    1000 * |((systemClock.currentTime (systemClock.lastSyncTickCount + BitVec.ofNat w e)).ms : ℤ) -
      (systemClock.baseTime.ms + e * millisecondsPerTick)| ≤ |rate| * e

theorem ms_currentTime (hw : 32 ≤ w) (hw' : w ≤ 64) {systemClock : SystemClock w} {rate : ℤ}
    (hrate : systemClock.slewRate = UInt64.ofInt rate) {e : ℕ} (he : e < 2 ^ 32) :
    ((systemClock.currentTime (systemClock.lastSyncTickCount + BitVec.ofNat w e)).ms : ℤ) =
      returnedMs systemClock.baseTime.secs.toNat rate e := by
  have helapsed : (systemClock.lastSyncTickCount + BitVec.ofNat w e -
      systemClock.lastSyncTickCount).toNat = e := by
    have hlt : e < 2 ^ w := lt_of_lt_of_le he (Nat.pow_le_pow_right (by omega) hw)
    rw [add_sub_cancel_left, BitVec.toNat_ofNat, Nat.mod_eq_of_lt hlt]
  unfold SystemClock.currentTime
  rw [hrate, ms_calculateCurrentTime hw', helapsed]

/-- A clock with a signed rate. -/
theorem disciplined_iff_steady (hw : 32 ≤ w) (hw' : w ≤ 64) {systemClock : SystemClock w} {rate : ℤ}
    (hrate : systemClock.slewRate = UInt64.ofInt rate)
    (hbounds : -2 ^ 63 ≤ rate ∧ rate < 2 ^ 63) :
    Disciplined systemClock rate ↔
      systemClock.baseTime.msecs = 0 ∧ Steady systemClock.baseTime.secs.toNat rate := by
  have hms {e : ℕ} (he : e < 2 ^ 32) := ms_currentTime hw hw' hrate he
  have hsecs := systemClock.baseTime.secs.toNat_lt
  constructor
  · rintro ⟨hforward, hwithin⟩
    constructor
    · -- at the synchronisation itself there is no slew
      have hzero := hwithin 0 (by omega)
      rw [hms (by omega)] at hzero
      have hreturned : returnedMs systemClock.baseTime.secs.toNat rate 0 =
          systemClock.baseTime.secs.toNat * 1000 := by
        unfold returnedMs
        simp
        omega
      rw [hreturned, UTCTime.ms] at hzero
      rw [← UInt32.toNat_inj]
      have hdiff : |(systemClock.baseTime.secs.toNat * 1000 : ℤ) -
          ((systemClock.baseTime.secs.toNat * 1000 + systemClock.baseTime.msecs.toNat : ℕ) +
            (0 : ℕ) * (millisecondsPerTick : ℕ))| = systemClock.baseTime.msecs.toNat := by
        push_cast
        rw [zero_mul, add_zero, sub_add_cancel_left, abs_neg, Nat.abs_cast]
      rw [hdiff, Nat.cast_zero, mul_zero] at hzero
      show systemClock.baseTime.msecs.toNat = 0
      omega
    · refine steady_of_forward hsecs hbounds fun e₁ e₂ hle he₂ => ?_
      rw [← hms (lt_of_le_of_lt hle he₂), ← hms he₂]
      exact_mod_cast hforward e₁ e₂ hle he₂
  · rintro ⟨hmsecs, s, l, hsteady⟩
    constructor
    · intro e₁ e₂ hle he₂
      have h := hsteady.forward_run hle he₂
      rw [← hms (lt_of_le_of_lt hle he₂), ← hms he₂] at h
      exact_mod_cast h
    · intro e he
      rw [hms he, UTCTime.ms, hmsecs, millisecondsPerTick]
      have h := hsteady.within he
      simpa using h

/-- **The clock between synchronisations** goes forward, within the slew, iff the time of the
    server has no milliseconds and the rate is steady. -/
theorem clockDiscipline_iff (hw : 32 ≤ w) (hw' : w ≤ 64) (C : CoreSntp)
    (systemClock : SystemClock w) (pServerTime : SntpTimestamp) (clockOffsetMs : Int64)
    (tickCount : TickType w) {synchronised : SystemClock w}
    (hset : sntpClientSetTime C systemClock pServerTime clockOffsetMs tickCount =
      some synchronised) :
    Disciplined synchronised (slewAfter systemClock clockOffsetMs) ↔
      synchronised.baseTime.msecs = 0 ∧
        Steady synchronised.baseTime.secs.toNat (slewAfter systemClock clockOffsetMs) := by
  have hrate : synchronised.slewRate = nextSlewRate systemClock clockOffsetMs := by
    unfold sntpClientSetTime at hset
    split at hset
    · cases hset
    · obtain rfl := Option.some.inj hset
      rfl
  rw [← toInt_nextSlewRate]
  refine disciplined_iff_steady hw hw' ?_ ⟨Int64.le_toInt _, Int64.toInt_lt _⟩
  rw [ofInt_toInt_toInt64, hrate]

/-- The steady rates that are no laps: at most a millisecond a second too fast, with the last
    of the 2^32 milliseconds still in range. -/
theorem steady_iff_of_small {secs : ℕ} {rate : ℤ} (hrate : |rate| ≤ 2 ^ 31 * 1000) :
    Steady secs rate ↔ -1 ≤ rate ∧
      (secs * 1000 : ℤ) + 4294967 * (1000 + rate) + 295 < 2 ^ 32 * 1000 := by
  obtain ⟨hlow, hhigh⟩ := abs_le.mp hrate
  constructor
  · rintro ⟨s, l, hforward, heq, hmem, hrange, hlap⟩
    simp only [allLaps, List.mem_cons, List.not_mem_nil, or_false] at hmem
    rcases hmem with rfl | rfl | rfl | rfl | rfl | rfl
    all_goals
      simp only [List.length_cons, List.length_nil] at heq hrange
      omega
  · rintro ⟨hforward, hrange⟩
    refine steady_of_laps ⟨0, [], 0⟩ (by simp [allLaps]) (by omega : 999 ≤ 1000 + rate) ?_ ?_
      (by simp)
    · show 1000 + rate = 1000 + rate + 0 * (2 ^ 32 * 1000)
      omega
    · show (secs * 1000 : ℤ) + 0 * (0 : ℕ) + 4294967 * (1000 + rate) + 295 < 2 ^ 32 * 1000
      omega

/-- A clock that has been set once, to the first second of 2024. -/
def onceSynchronised : SystemClock 32 where
  baseTime := ⟨1704067200, 0⟩
  lastSyncTickCount := 0
  pollPeriod := 16
  slewRate := 0
  firstTimeSyncDone := true

/-- The same 16 seconds later, when it is found to be `clockOffsetMs` behind. -/
def twiceSynchronised (clockOffsetMs : Int64) : SystemClock 32 where
  baseTime := ⟨1704067216, 0⟩
  lastSyncTickCount := 16000
  pollPeriod := 16
  slewRate := (clockOffsetMs / 16).toUInt64
  firstTimeSyncDone := true

/-- Half a second behind. -/
theorem clockDiscipline_iff_behind :
    Disciplined (twiceSynchronised 500) (slewAfter onceSynchronised 500) ↔
      (twiceSynchronised 500).baseTime.msecs = 0 ∧
        Steady (twiceSynchronised 500).baseTime.secs.toNat (slewAfter onceSynchronised 500) :=
  clockDiscipline_iff (by decide) (by decide) documentedSntp onceSynchronised ⟨3913056016, 0⟩ 500
    16000 (by decide)

/-- 32 ms ahead: the rate is -2, and a millisecond before the first second has passed the clock
    is a millisecond further than at its end. -/
theorem not_disciplined_negative :
    sntpClientSetTime documentedSntp onceSynchronised ⟨3913056016, 0⟩ (-32) 16000 =
        some (twiceSynchronised (-32)) ∧
      ((twiceSynchronised (-32)).currentTime (16000 + 999)).ms = 1704067216999 ∧
      ((twiceSynchronised (-32)).currentTime (16000 + 1000)).ms = 1704067216998 ∧
      ¬ Disciplined (twiceSynchronised (-32)) (slewAfter onceSynchronised (-32)) := by
  refine ⟨by decide, by decide, by decide, fun h => ?_⟩
  have hle := h.forward 999 1000 (by omega) (by omega)
  revert hle
  decide

end Discipline

end Corstone.Sntp
