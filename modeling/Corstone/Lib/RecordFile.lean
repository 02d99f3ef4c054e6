import Corstone.Lib.Decimal

/-!
# Files of records

A file is the list of the bytes that are not read yet. Its records consist of lines, some of which
hold a number, and of integers with a fixed number of bytes, the lowest first.

* `readline_append`: a line that has been written is read.
* `toInt_decimal`: so is a number, with any zeros before it.
* `fromBytes_toBytes`: so are integers that fit.
* `readAll_flatMap`: what holds for one record, whatever follows it, holds for the file.
-/

namespace Corstone.Lib

/-! ## Lines -/

/-- The next line with its end, and what follows. -/
def readline : Bytes → Bytes × Bytes
  | [] => ([], [])
  | b :: s => if b = 10 then ([b], s) else (b :: (readline s).1, (readline s).2)

theorem readline_append (line rest : Bytes) (h : ∀ b ∈ line, b ≠ 10) :
    readline (line ++ 10 :: rest) = (line ++ [10], rest) := by
  induction line with
  | nil => rfl
  | cons b line ih =>
    have hb : b ≠ 10 := h b (by simp)
    have hline := ih fun c hc => h c (List.mem_cons_of_mem _ hc)
    rw [List.cons_append, readline, if_neg hb, hline]
    rfl

/-- `int(line)` for a number without sign and underscores: the digits between white space. -/
def toInt (line : Bytes) : Option ℕ :=
  let text := (line.dropWhile isSpace).rdropWhile isSpace
  if text ≠ [] ∧ ∀ b ∈ text, isDigit b = true then some (readDigits 0 text) else none

/-- `{:0<width>d}` of `format`: with zeros up to the width. -/
def zeroPadded (width n : ℕ) : Bytes :=
  List.replicate (width - (decimal n).length) (digitByte 0) ++ decimal n

theorem isSpace_of_isDigit {b : UInt8} (h : isDigit b = true) : isSpace b = false := by
  simp only [isDigit, Bool.and_eq_true, decide_eq_true_eq, UInt8.le_iff_toNat_le] at h
  have h48 : (48 : UInt8).toNat = 48 := rfl
  have h13 : (13 : UInt8).toNat = 13 := rfl
  have hne : b ≠ 32 := by
    rintro rfl
    exact absurd h.1 (by decide)
  simp only [isSpace, UInt8.le_iff_toNat_le, Bool.or_eq_false_iff, beq_eq_false_iff_ne,
    Bool.and_eq_false_imp, decide_eq_true_eq, decide_eq_false_iff_not]
  exact ⟨hne, fun _ => by omega⟩

/-- A line of digits. -/
theorem toInt_digits (text : Bytes) (hne : text ≠ []) (h : ∀ b ∈ text, isDigit b = true) :
    toInt (text ++ [10]) = some (readDigits 0 text) := by
  have hdrop : (text ++ [10]).dropWhile isSpace = text ++ [10] := by
    obtain ⟨b, rest, rfl⟩ := List.exists_cons_of_ne_nil hne
    rw [List.cons_append, List.dropWhile_cons_of_neg]
    simp [isSpace_of_isDigit (h b (by simp))]
  have hlast : text.rdropWhile isSpace = text := by
    rw [List.rdropWhile_eq_self_iff]
    intro _
    simp [isSpace_of_isDigit (h _ (List.getLast_mem hne))]
  have htext : (text ++ [10]).rdropWhile isSpace = text := by
    rw [List.rdropWhile_concat_pos _ _ _ (by decide), hlast]
  simp only [toInt, hdrop, htext]
  rw [if_pos ⟨hne, h⟩]

theorem decimal_ne_nil (n : ℕ) : decimal n ≠ [] := by
  rw [decimal_eq]
  simp

theorem readDigits_replicate_zero (k : ℕ) (s : Bytes) :
    readDigits 0 (List.replicate k (digitByte 0) ++ s) = readDigits 0 s := by
  induction k with
  | zero => rfl
  | succ k ih =>
    rw [List.replicate_succ, List.cons_append, readDigits,
      if_pos (isDigit_digitByte (by omega)), digitByte_toNat (by omega)]
    exact ih

theorem zeroPadded_digits (width n : ℕ) : ∀ b ∈ zeroPadded width n, isDigit b = true := by
  intro b hb
  rcases List.mem_append.mp hb with hb | hb
  · rw [List.eq_of_mem_replicate hb]
    exact isDigit_digitByte (by omega)
  · exact decimal_digits n b hb

theorem toInt_zeroPadded (width n : ℕ) : toInt (zeroPadded width n ++ [10]) = some n := by
  rw [toInt_digits _ (by simp [zeroPadded, decimal_ne_nil]) (zeroPadded_digits width n), zeroPadded,
    readDigits_replicate_zero, readDigits_decimal]

theorem toInt_decimal (n : ℕ) : toInt (decimal n ++ [10]) = some n := by
  rw [toInt_digits _ (decimal_ne_nil n) (decimal_digits n), readDigits_decimal]

/-- Digits do not end a line. -/
theorem ne_newline_of_digits {text : Bytes} (h : ∀ b ∈ text, isDigit b = true) :
    ∀ b ∈ text, b ≠ 10 := by
  rintro b hb rfl
  exact absurd (h 10 hb) (by decide)

/-! ## Integers -/

/-- The lowest `n` bytes of `x`. -/
def toBytes : ℕ → ℕ → Bytes
  | 0, _ => []
  | n + 1, x => UInt8.ofNat x :: toBytes n (x / 256)

/-- The integer with these bytes. -/
def ofBytes : Bytes → ℕ
  | [] => 0
  | b :: s => b.toNat + 256 * ofBytes s

/-- `count` integers of `n` bytes. -/
def fromBytes (n : ℕ) : ℕ → Bytes → List ℕ
  | 0, _ => []
  | count + 1, s => ofBytes (s.take n) :: fromBytes n count (s.drop n)

@[simp] theorem length_toBytes (n x : ℕ) : (toBytes n x).length = n := by
  induction n generalizing x with
  | zero => rfl
  | succ n ih => rw [toBytes, List.length_cons, ih]

theorem ofBytes_toBytes (n x : ℕ) : ofBytes (toBytes n x) = x % 256 ^ n := by
  induction n generalizing x with
  | zero => simp [toBytes, ofBytes, Nat.mod_one]
  | succ n ih =>
    have hbyte : (UInt8.ofNat x).toNat = x % 256 := UInt8.toNat_ofNat'
    rw [toBytes, ofBytes, ih, hbyte, pow_succ', Nat.mod_mul]

@[simp] theorem length_fromBytes (n count : ℕ) (s : Bytes) :
    (fromBytes n count s).length = count := by
  induction count generalizing s with
  | zero => rfl
  | succ count ih => rw [fromBytes, List.length_cons, ih]

theorem length_flatMap_toBytes (n : ℕ) (xs : List ℕ) :
    (xs.flatMap (toBytes n)).length = n * xs.length := by
  induction xs with
  | nil => rfl
  | cons x xs ih =>
    rw [List.flatMap_cons, List.length_append, length_toBytes, ih, List.length_cons]
    ring

theorem fromBytes_toBytes (n : ℕ) (xs : List ℕ) (h : ∀ x ∈ xs, x < 256 ^ n) :
    fromBytes n xs.length (xs.flatMap (toBytes n)) = xs := by
  induction xs with
  | nil => rfl
  | cons x xs ih =>
    have hx : x % 256 ^ n = x := Nat.mod_eq_of_lt (h x (by simp))
    have hxs := ih fun y hy => h y (List.mem_cons_of_mem _ hy)
    rw [List.flatMap_cons, List.length_cons, fromBytes, List.take_left' (length_toBytes n x),
      List.drop_left' (length_toBytes n x), ofBytes_toBytes, hx, hxs]

/-! ## Files -/

variable {α β : Type*}

/-- The records up to the end of the file, where the reader yields `some none`; it yields `none` for
    an error. At most `fuel` calls. -/
def readAll (read : Bytes → Option (Option (β × Bytes))) : ℕ → Bytes → Option (List β)
  | 0, _ => none
  | fuel + 1, s =>
    match read s with
    | none => none
    | some none => some []
    | some (some (y, rest)) => (readAll read fuel rest).map (y :: ·)

/-- If each record is read back as the value `f` of what was written, then so is the file, with one
    call more than there are records. -/
theorem readAll_flatMap {read : Bytes → Option (Option (β × Bytes))} {write : α → Bytes}
    {f : α → β} (hend : read [] = some none)
    (hread : ∀ x rest, read (write x ++ rest) = some (some (f x, rest))) (xs : List α) (fuel : ℕ) :
    readAll read (xs.length + 1 + fuel) (xs.flatMap write) = some (xs.map f) := by
  induction xs with
  | nil =>
    rw [List.length_nil, Nat.zero_add, Nat.add_comm, List.flatMap_nil, readAll, hend]
    rfl
  | cons x xs ih =>
    have hfuel : (x :: xs).length + 1 + fuel = xs.length + 1 + fuel + 1 := by
      rw [List.length_cons]
      omega
    rw [hfuel, List.flatMap_cons, readAll, hread]
    dsimp only
    rw [ih]
    rfl

end Corstone.Lib
