import Mathlib.Data.List.Basic
import Mathlib.Tactic.Ring

/-!
# Byte strings and big-endian integers

Fixed-width unsigned integers as the byte sequences a `for (shift = 8 * (width - 1); ...; shift -= 8)`
loop writes and a `result = (result << 8) | byte` loop reads, with the two
facts every framed format rests on: the width is fixed, and reading undoes
writing.
-/

namespace Wire

/-- A byte string of any length. -/
abbrev Bytes := List UInt8

/-- The bytes of an ASCII literal. -/
def ascii (text : String) : Bytes :=
  text.toList.map fun char => char.toNat.toUInt8

/-! ## Big-endian integers -/

/-- The `width` low-order bytes of `value`, most significant first. -/
def bigEndian (width value : Nat) : Bytes :=
  (List.range width).reverse.map fun index => (value >>> (8 * index)).toUInt8

/-- The accumulator loop `result = (result << 8) | byte`, over a result wide
enough never to lose a bit. -/
def fromBigEndian (bytes : Bytes) : Nat :=
  bytes.foldl (fun result byte => result * 256 + byte.toNat) 0

@[simp] theorem length_bigEndian (width value : Nat) :
    (bigEndian width value).length = width := by
  simp [bigEndian]

theorem bigEndian_succ (width value : Nat) :
    bigEndian (width + 1) value =
      (value >>> (8 * width)).toUInt8 :: bigEndian width value := by
  simp [bigEndian, List.range_succ]

theorem foldl_bigEndian_append (bytes : Bytes) (start : Nat) :
    bytes.foldl (fun result byte => result * 256 + byte.toNat) start =
      start * 256 ^ bytes.length + fromBigEndian bytes := by
  induction bytes generalizing start with
  | nil => simp [fromBigEndian]
  | cons byte bytes ih =>
      have unfolded : fromBigEndian (byte :: bytes) =
          bytes.foldl (fun result byte => result * 256 + byte.toNat) byte.toNat := by
        simp [fromBigEndian]
      rw [unfolded, List.foldl_cons, ih, ih byte.toNat, List.length_cons, Nat.pow_succ]
      ring

/-- Reading a written integer recovers it up to the width. -/
theorem fromBigEndian_bigEndian (width value : Nat) :
    fromBigEndian (bigEndian width value) = value % 256 ^ width := by
  induction width with
  | zero => simp [bigEndian, fromBigEndian, Nat.mod_one]
  | succ width ih =>
      have top : (value >>> (8 * width)).toUInt8.toNat = value / 256 ^ width % 256 := by
        rw [Nat.toUInt8, UInt8.toNat_ofNat', Nat.shiftRight_eq_div_pow, Nat.pow_mul]
      rw [bigEndian_succ, fromBigEndian, List.foldl_cons, foldl_bigEndian_append,
        length_bigEndian, ih, Nat.zero_mul, Nat.zero_add, top, Nat.pow_succ,
        Nat.mod_mul]
      ring

/-- Two values below the width's bound with one encoding are equal. -/
theorem bigEndian_inj {width left right : Nat} (leftLt : left < 256 ^ width)
    (rightLt : right < 256 ^ width)
    (same : bigEndian width left = bigEndian width right) : left = right := by
  have read := congrArg fromBigEndian same
  rwa [fromBigEndian_bigEndian, fromBigEndian_bigEndian, Nat.mod_eq_of_lt leftLt,
    Nat.mod_eq_of_lt rightLt] at read

/-! ## Fixed-width writers -/

/-- `push_back` of the two bytes of a 16-bit value. -/
def u16Bytes (value : UInt16) : Bytes := bigEndian 2 value.toNat

/-- The four bytes of a 32-bit value, `shift` running from 24 down to 0. -/
def u32Bytes (value : UInt32) : Bytes := bigEndian 4 value.toNat

/-- The eight bytes of a 64-bit value, `shift` running from 56 down to 0. -/
def u64Bytes (value : UInt64) : Bytes := bigEndian 8 value.toNat

@[simp] theorem length_u16Bytes (value : UInt16) : (u16Bytes value).length = 2 :=
  length_bigEndian 2 value.toNat

@[simp] theorem length_u32Bytes (value : UInt32) : (u32Bytes value).length = 4 :=
  length_bigEndian 4 value.toNat

@[simp] theorem length_u64Bytes (value : UInt64) : (u64Bytes value).length = 8 :=
  length_bigEndian 8 value.toNat

theorem fromBigEndian_u16Bytes (value : UInt16) :
    fromBigEndian (u16Bytes value) = value.toNat := by
  have fits : value.toNat < 256 ^ 2 := value.toNat_lt
  rw [u16Bytes, fromBigEndian_bigEndian, Nat.mod_eq_of_lt fits]

theorem fromBigEndian_u32Bytes (value : UInt32) :
    fromBigEndian (u32Bytes value) = value.toNat := by
  have fits : value.toNat < 256 ^ 4 := value.toNat_lt
  rw [u32Bytes, fromBigEndian_bigEndian, Nat.mod_eq_of_lt fits]

theorem fromBigEndian_u64Bytes (value : UInt64) :
    fromBigEndian (u64Bytes value) = value.toNat := by
  have fits : value.toNat < 256 ^ 8 := value.toNat_lt
  rw [u64Bytes, fromBigEndian_bigEndian, Nat.mod_eq_of_lt fits]

/-! ## Composite writers

The value written before a string, a sequence or an optional says how much
follows it.
-/

/-- `boolean(value)`: one byte, zero or one. -/
def boolBytes (value : Bool) : Bytes := [if value then 1 else 0]

/-- `bytes(value)`: the 64-bit size, then the bytes. -/
def stringBytes (value : Bytes) : Bytes := u64Bytes value.length.toUInt64 ++ value

/-- `u64(values.size())`, then every value in order. -/
def countedBytes {α : Type} (encode : α → Bytes) (values : List α) : Bytes :=
  u64Bytes values.length.toUInt64 ++ values.flatMap encode

/-- `boolean(value.has_value())`, then the value when there is one. -/
def optionalBytes {α : Type} (encode : α → Bytes) (value : Option α) : Bytes :=
  boolBytes value.isSome ++ value.elim [] encode

theorem toNat_length_toUInt64 {α : Type} {values : List α} (bound : values.length < 2 ^ 64) :
    values.length.toUInt64.toNat = values.length := by
  rw [Nat.toUInt64, UInt64.toNat_ofNat', Nat.mod_eq_of_lt bound]

/-! ## Signed integers

A sign byte and the magnitude, so that the least 64-bit value needs no case of
its own.
-/

/-- `negative ? static_cast<std::uint64_t>(-(value + 1)) + 1U : value`. -/
def i64Magnitude (value : Int64) : UInt64 :=
  if value < 0 then (-(value + 1)).toUInt64 + 1 else value.toUInt64

/-- The sign byte and the magnitude. -/
def i64Bytes (value : Int64) : Bytes :=
  boolBytes (decide (value < 0)) ++ u64Bytes (i64Magnitude value)

theorem i64Magnitude_toNat (value : Int64) :
    (i64Magnitude value).toNat = value.toInt.natAbs := by
  have signed : value.toInt = if 2 * value.toBitVec.toNat < 2 ^ 64
      then (value.toBitVec.toNat : Int) else (value.toBitVec.toNat : Int) - 2 ^ 64 :=
    BitVec.toInt_eq_toNat_cond value.toBitVec
  have bound := value.toBitVec.isLt
  have sign : value < 0 ↔ ¬ 2 * value.toBitVec.toNat < 2 ^ 64 := by
    rw [Int64.lt_iff_toInt_lt, signed, Int64.toInt_zero]
    split <;> omega
  unfold i64Magnitude
  split
  · next negative =>
      have high := sign.mp negative
      rw [signed, if_neg high]
      change (-(value.toBitVec + 1#64) + 1#64).toNat = _
      bv_omega
  · next nonnegative =>
      rw [signed, if_pos (not_not.mp (mt sign.mpr nonnegative))]
      rfl

/-- The greatest magnitude of a sign. -/
def limitOf (negative : Bool) : UInt64 := 9223372036854775807 + (if negative then 1 else 0)

theorem limitOf_toNat (negative : Bool) :
    (limitOf negative).toNat = 2 ^ 63 - 1 + (if negative then 1 else 0) := by
  cases negative with
  | false => rfl
  | true => rfl

theorem i64Magnitude_le_limitOf (value : Int64) :
    i64Magnitude value ≤ limitOf (decide (value < 0)) := by
  have least := value.le_toInt
  have greatest := value.toInt_lt
  rw [UInt64.le_iff_toNat_le, limitOf_toNat, i64Magnitude_toNat]
  by_cases negative : value < 0
  · rw [decide_eq_true negative, if_pos rfl]
    omega
  · rw [decide_eq_false negative, if_neg Bool.false_ne_true]
    rw [Int64.lt_iff_toInt_lt, Int64.toInt_zero] at negative
    omega

/-- The number that a sign and a magnitude stand for. -/
def signed (negative : Bool) (magnitude : UInt64) : Int :=
  if negative then -magnitude.toNat else magnitude.toNat

theorem signed_i64Magnitude (value : Int64) :
    signed (decide (value < 0)) (i64Magnitude value) = value.toInt := by
  rw [signed, i64Magnitude_toNat]
  by_cases negative : value < 0
  · rw [decide_eq_true negative, if_pos rfl]
    rw [Int64.lt_iff_toInt_lt, Int64.toInt_zero] at negative
    omega
  · rw [decide_eq_false negative, if_neg Bool.false_ne_true]
    rw [Int64.lt_iff_toInt_lt, Int64.toInt_zero] at negative
    omega

theorem toInt64_eq (magnitude : UInt64) : magnitude.toInt64 = Int64.ofNat magnitude.toNat := by
  have literal : UInt64.ofNatLT magnitude.toNat magnitude.toNat_lt = magnitude := rfl
  rw [← UInt64.toInt64_ofNatLT magnitude.toNat_lt, literal]

end Wire
