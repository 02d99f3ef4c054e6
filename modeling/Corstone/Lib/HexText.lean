import Corstone.Lib.CString

/-!
# Bytes in hexadecimal

Two lower-case digits for each byte, and the text without blanks and line ends
that is read back.

* `readHex_hexText`: what is written is read.
* `hexValue_hexDigit`: so is one digit.
-/

namespace Corstone.Lib

/-- The digit `d` of `%x`. -/
def hexDigit (d : ℕ) : UInt8 := UInt8.ofNat (if d < 10 then 48 + d else 87 + d)

/-- The value of a lower-case digit. -/
def hexValue (c : UInt8) : Option ℕ :=
  if 48 ≤ c.toNat ∧ c.toNat < 58 then some (c.toNat - 48)
  else if 97 ≤ c.toNat ∧ c.toNat < 103 then some (c.toNat - 87)
  else none

/-- `%02x`. -/
def hexByte (b : UInt8) : Bytes := [hexDigit (b.toNat / 16), hexDigit (b.toNat % 16)]

def hexText (s : Bytes) : Bytes := s.flatMap hexByte

/-- The bytes of a text of digits. -/
def readHex : Bytes → Option Bytes
  | [] => some []
  | [_] => none
  | high :: low :: s =>
    match hexValue high, hexValue low, readHex s with
    | some h, some l, some bytes => some (UInt8.ofNat (16 * h + l) :: bytes)
    | _, _, _ => none

@[simp] theorem length_hexByte (b : UInt8) : (hexByte b).length = 2 := rfl

theorem toNat_hexDigit {d : ℕ} (h : d < 16) :
    (hexDigit d).toNat = if d < 10 then 48 + d else 87 + d := by
  rw [hexDigit, UInt8.toNat_ofNat']
  split_ifs <;> omega

theorem hexValue_hexDigit {d : ℕ} (h : d < 16) : hexValue (hexDigit d) = some d := by
  have hd := toNat_hexDigit h
  by_cases hlt : d < 10
  · rw [if_pos hlt] at hd
    rw [hexValue, if_pos (by omega), hd, Nat.add_sub_cancel_left]
  · rw [if_neg hlt] at hd
    rw [hexValue, if_neg (by omega), if_pos (by omega), hd, Nat.add_sub_cancel_left]

/-- A digit is printable, and not a blank. -/
theorem lt_hexDigit {d : ℕ} (h : d < 16) : 32 < (hexDigit d).toNat := by
  rw [toNat_hexDigit h]
  split_ifs <;> omega

theorem lt_of_mem_hexByte {b c : UInt8} (h : c ∈ hexByte b) : 32 < c.toNat := by
  have hb := b.toNat_lt
  rcases List.mem_cons.mp h with rfl | h
  · exact lt_hexDigit (by omega)
  · rw [List.mem_singleton.mp h]
    exact lt_hexDigit (by omega)

@[simp] theorem hexText_nil : hexText [] = [] := rfl

@[simp] theorem hexText_cons (b : UInt8) (s : Bytes) :
    hexText (b :: s) = hexByte b ++ hexText s := rfl

/-- What is written is read: by induction, one byte for two digits. -/
theorem readHex_hexText (s : Bytes) : readHex (hexText s) = some s := by
  induction s with
  | nil => rfl
  | cons b s ih =>
    have hb := b.toNat_lt
    have hhigh : hexValue (hexDigit (b.toNat / 16)) = some (b.toNat / 16) :=
      hexValue_hexDigit (by omega)
    have hlow : hexValue (hexDigit (b.toNat % 16)) = some (b.toNat % 16) :=
      hexValue_hexDigit (by omega)
    have hbyte : UInt8.ofNat (16 * (b.toNat / 16) + b.toNat % 16) = b := by
      rw [Nat.div_add_mod, UInt8.ofNat_toNat]
    show readHex (hexDigit (b.toNat / 16) :: hexDigit (b.toNat % 16) :: hexText s) = _
    simp only [readHex, hhigh, hlow, ih, hbyte]

end Corstone.Lib
