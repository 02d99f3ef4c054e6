import Corstone.Lib.CString

/-!
# Decimal text

`decimal n` is what `printf` writes for `%u`, `strtoul s` what
`strtoul(s, &end, 10)` returns where `unsigned long` has 32 bits.
`strtoul_decimal`: reading back what was written gives the same value.
-/

namespace Corstone.Lib

/-- The character of a decimal digit. -/
def digitByte (d : ℕ) : UInt8 := UInt8.ofNat (48 + d)

/-- The bytes `printf` writes for `%u`. -/
def decimal (n : ℕ) : Bytes := (Nat.toDigits 10 n).map fun c => UInt8.ofNat c.toNat

/-- `isdigit`. -/
def isDigit (b : UInt8) : Bool := 48 ≤ b && b ≤ 57

/-- `isspace`. -/
def isSpace (b : UInt8) : Bool := b == 32 || (9 ≤ b && b ≤ 13)

/-- The digits at the start of `s`, read behind the digits of `acc`. -/
def readDigits : ℕ → Bytes → ℕ
  | acc, [] => acc
  | acc, b :: s => if isDigit b then readDigits (acc * 10 + (b.toNat - 48)) s else acc

/-- The sign at the start of `s` and what follows it. -/
def readSign : Bytes → Bool × Bytes
  | 45 :: s => (true, s)
  | 43 :: s => (false, s)
  | s => (false, s)

/-- `ULONG_MAX` of a 32-bit `unsigned long`. -/
def ulongMax : ℕ := 2 ^ 32 - 1

/-- `strtoul(s, &end, 10)`: white space, a sign, digits. Out of range it
    returns `ULONG_MAX`; a minus sign negates the value modulo `2^32`. -/
def strtoul (s : Bytes) : UInt32 :=
  let (neg, s) := readSign (s.dropWhile isSpace)
  let v := readDigits 0 s
  if ulongMax < v then UInt32.ofNat ulongMax
  else if neg then -UInt32.ofNat v else UInt32.ofNat v

theorem digitChar_toNat {d : ℕ} (h : d < 10) : (Nat.digitChar d).toNat = 48 + d := by
  interval_cases d <;> rfl

theorem isDigit_digitByte {d : ℕ} (h : d < 10) : isDigit (digitByte d) = true := by
  interval_cases d <;> rfl

theorem digitByte_toNat {d : ℕ} (h : d < 10) : (digitByte d).toNat - 48 = d := by
  interval_cases d <;> rfl

/-- The last digit of a number comes last. -/
theorem decimal_eq (n : ℕ) :
    decimal n = (if n < 10 then [] else decimal (n / 10)) ++ [digitByte (n % 10)] := by
  unfold decimal
  rw [Nat.toDigits_eq_if (by omega)]
  by_cases h : n < 10
  · simp [h, digitByte, digitChar_toNat h, Nat.mod_eq_of_lt h]
  · simp [h, digitByte, digitChar_toNat (Nat.mod_lt n (by omega : 10 > 0))]

/-- The number has only digits, and the first of them decides sign and white
    space. -/
theorem decimal_digits (n : ℕ) : ∀ b ∈ decimal n, isDigit b = true := by
  induction n using Nat.strong_induction_on with
  | _ n ih =>
    intro b hb
    rw [decimal_eq, List.mem_append, List.mem_singleton] at hb
    rcases hb with hb | rfl
    · by_cases h : n < 10
      · simp [h] at hb
      · rw [if_neg h] at hb
        exact ih (n / 10) (by omega) b hb
    · exact isDigit_digitByte (Nat.mod_lt _ (by omega))

theorem readDigits_append_digit (acc d : ℕ) (hd : d < 10) {s : Bytes}
    (hs : ∀ b ∈ s, isDigit b = true) :
    readDigits acc (s ++ [digitByte d]) = readDigits acc s * 10 + d := by
  induction s generalizing acc with
  | nil => simp [readDigits, isDigit_digitByte hd, digitByte_toNat hd]
  | cons b s ih =>
    have hb := hs b (by simp)
    simp only [List.cons_append, readDigits, hb, ite_true]
    exact ih _ fun c hc => hs c (List.mem_cons_of_mem _ hc)

theorem readDigits_decimal (n : ℕ) : readDigits 0 (decimal n) = n := by
  induction n using Nat.strong_induction_on with
  | _ n ih =>
    have hd : n % 10 < 10 := Nat.mod_lt _ (by omega)
    rw [decimal_eq]
    by_cases h : n < 10
    · rw [if_pos h, readDigits_append_digit 0 _ hd (by simp)]
      simp [readDigits, Nat.mod_eq_of_lt h]
    · rw [if_neg h, readDigits_append_digit 0 _ hd (decimal_digits _), ih _ (by omega)]
      omega

/-- A text that starts with a digit has no white space and no sign to skip. -/
theorem readSign_of_digits {s : Bytes} (hs : ∀ b ∈ s, isDigit b = true) :
    readSign (s.dropWhile isSpace) = (false, s) := by
  cases s with
  | nil => rfl
  | cons b s =>
    have hb := hs b (by simp)
    have hlo : (48 : UInt8) ≤ b := by
      simp only [isDigit, Bool.and_eq_true, decide_eq_true_eq] at hb
      exact hb.1
    have hsp : isSpace b = false := by
      simp only [isSpace, UInt8.le_iff_toNat_le] at *
      have h48 : (48 : UInt8).toNat = 48 := rfl
      have h9 : (9 : UInt8).toNat = 9 := rfl
      have h13 : (13 : UInt8).toNat = 13 := rfl
      have hne : b ≠ 32 := by rintro rfl; simp at hlo
      simp [hne]; omega
    rw [List.dropWhile_cons, hsp]
    unfold readSign
    split
    · rename_i h; simp at h; simp [h.1] at hlo
    · rename_i h; simp at h; simp [h.1] at hlo
    · rfl

/-- Reading back the text of a 32-bit value gives the value. -/
theorem strtoul_decimal (x : UInt32) : strtoul (decimal x.toNat) = x := by
  have hx : ¬ ulongMax < x.toNat := by
    have := x.toNat_lt
    simp only [ulongMax]; omega
  unfold strtoul
  rw [readSign_of_digits (decimal_digits _)]
  simp only [readDigits_decimal, hx, ite_false, Bool.false_eq_true]
  exact UInt32.ofNat_toNat

end Corstone.Lib
