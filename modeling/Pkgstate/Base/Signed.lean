import Pkgstate.Base.Consumed
import Pkgstate.Base.MachineReader

/-!
# Signed integers without overflow

Signed arithmetic on 64 bits where every intermediate result must be one that 64 bits
hold, and the reader of a sign and a magnitude over it. Sign and magnitude of every
value, the least one included, are computed without overflow (`magnitude_eq`), and the
reader computes the value back without one (`checkedI64_eq`). What it admits is said
of the nine bytes it reads (`decodes_signed`, `refuses_signed`).
-/

namespace Wire

open Cpp

/-! ## Checked arithmetic -/

namespace Checked

/-- 64 signed bits hold the integer. -/
abbrev Representable (value : Int) : Prop := -2 ^ 63 ≤ value ∧ value < 2 ^ 63

/-- The sum of two signed integers. -/
def plus (left right : Int64) : Option Int64 :=
  if Representable (left.toInt + right.toInt) then some (left + right) else none

/-- The opposite of a signed integer. -/
def negate (value : Int64) : Option Int64 :=
  if Representable (-value.toInt) then some (-value) else none

/-- `static_cast<std::int64_t>`, of a value that is representable. -/
def toSigned (value : UInt64) : Option Int64 :=
  if Representable value.toNat then some value.toInt64 else none

/-- `static_cast<std::uint64_t>`, of a value that is not negative. -/
def toUnsigned (value : Int64) : Option UInt64 :=
  if 0 ≤ value.toInt then some value.toUInt64 else none

/-- The sum of two unsigned integers. -/
def plusUnsigned (left right : UInt64) : Option UInt64 :=
  if left.toNat + right.toNat < 2 ^ 64 then some (left + right) else none

theorem plus_eq {left right : Int64} (fits : Representable (left.toInt + right.toInt)) :
    plus left right = some (left + right) ∧
      (left + right).toInt = left.toInt + right.toInt := by
  refine ⟨if_pos fits, ?_⟩
  rw [Int64.toInt_add]
  exact Int.bmod_eq_of_le (by omega) (by omega)

theorem negate_eq {value : Int64} (fits : Representable (-value.toInt)) :
    negate value = some (-value) ∧ (-value).toInt = -value.toInt := by
  refine ⟨if_pos fits, ?_⟩
  rw [Int64.toInt_neg]
  exact Int.bmod_eq_of_le (by omega) (by omega)

theorem toSigned_eq {value : UInt64} (fits : value.toNat < 2 ^ 63) :
    toSigned value = some value.toInt64 ∧ value.toInt64.toInt = value.toNat := by
  refine ⟨if_pos (by omega), ?_⟩
  rw [toInt64_eq]
  exact Int64.toInt_ofNat_of_lt fits

theorem toUnsigned_eq {value : Int64} (above : 0 ≤ value.toInt) :
    toUnsigned value = some value.toUInt64 ∧ (value.toUInt64.toNat : Int) = value.toInt := by
  refine ⟨if_pos above, ?_⟩
  have small := value.toInt_lt
  have cond : value.toInt = if 2 * value.toUInt64.toNat < 2 ^ 64
      then (value.toUInt64.toNat : Int) else (value.toUInt64.toNat : Int) - 2 ^ 64 :=
    BitVec.toInt_eq_toNat_cond value.toBitVec
  have bound := value.toUInt64.toNat_lt
  split at cond <;> omega

end Checked

open Checked

/-- `negative ? static_cast<std::uint64_t>(-(value + 1)) + 1U : value`, step by step: no
step overflows, at the least value either. -/
theorem magnitude_eq (value : Int64) :
    (if value < 0 then do
        let above ← plus value 1
        let opposite ← negate above
        let unsigned ← toUnsigned opposite
        plusUnsigned unsigned 1
      else toUnsigned value) = some (i64Magnitude value) := by
  have least := value.le_toInt
  have one : (1 : Int64).toInt = 1 := rfl
  unfold i64Magnitude
  by_cases negative : value < 0
  · rw [if_pos negative, if_pos negative]
    rw [Int64.lt_iff_toInt_lt, Int64.toInt_zero] at negative
    obtain ⟨above, sum⟩ : plus value 1 = _ ∧ _ := Checked.plus_eq (by omega)
    obtain ⟨opposite, negated⟩ : negate (value + 1) = _ ∧ _ := negate_eq (by omega)
    obtain ⟨unsigned, same⟩ : toUnsigned (-(value + 1)) = _ ∧ _ := toUnsigned_eq (by omega)
    have fits : (-(value + 1)).toUInt64.toNat + (1 : UInt64).toNat < 2 ^ 64 := by
      have unit : (1 : UInt64).toNat = 1 := rfl
      omega
    rw [above]
    change (negate (value + 1) >>= _) = _
    rw [opposite]
    change (toUnsigned (-(value + 1)) >>= _) = _
    rw [unsigned]
    exact if_pos fits
  · rw [if_neg negative, if_neg negative]
    rw [Int64.lt_iff_toInt_lt, Int64.toInt_zero, not_lt] at negative
    exact (toUnsigned_eq negative).1

/-! ## The reader -/

namespace Machine

variable {ε α : Type}

/-- An expression whose overflow stops the run. -/
def checked (value : Option α) : Machine ε α :=
  match value with
  | some value => pure value
  | none => fun _ => .error .wrapped

/-- `i64(label)` in checked arithmetic. -/
def checkedI64 (failures : ReaderFailures ε) (label : Bytes) : Machine ε Int64 := do
  let negative ← boolean failures label
  let magnitude ← u64 failures label
  let limit ← checked (plusUnsigned 9223372036854775807 (if negative then 1 else 0))
  if magnitude > limit then refuse (failures.invalid label)
  else if negative = false then checked (toSigned magnitude)
  else if magnitude = limit then pure Int64.minValue
  else do
    let value ← checked (toSigned magnitude)
    checked (negate value)

end Machine

theorem plusUnsigned_limitOf (negative : Bool) :
    plusUnsigned 9223372036854775807 (if negative then 1 else 0) = some (limitOf negative) := by
  cases negative with
  | false => exact if_pos (by decide)
  | true => exact if_pos (by decide)

/-- A magnitude up to the limit of its sign is converted and negated without overflow. -/
theorem checkedI64_eq {ε : Type} (failures : ReaderFailures ε) (label : Bytes) :
    Machine.checkedI64 failures label = Machine.i64 failures label := by
  unfold Machine.checkedI64 Machine.i64
  congr 1
  funext negative
  congr 1
  funext magnitude
  rw [plusUnsigned_limitOf]
  have limit := limitOf_toNat negative
  change (if magnitude > limitOf negative then _ else _ : Machine ε Int64) =
    (if magnitude > limitOf negative then _ else _ : Machine ε Int64)
  split
  · rfl
  · next fits =>
      have bound := UInt64.le_iff_toNat_le.mp (UInt64.not_lt.mp fits)
      rw [limit] at bound
      split
      · next positive =>
          rw [positive] at bound
          rw [(toSigned_eq (Nat.lt_succ_of_le bound)).1]
          rfl
      · next below =>
        rw [Bool.not_eq_false] at below
        change (if magnitude = limitOf negative then _ else _ : Machine ε Int64) =
          (if magnitude = limitOf negative then _ else _ : Machine ε Int64)
        split
        · rfl
        · next notLimit =>
            have different : magnitude.toNat ≠ (limitOf negative).toNat :=
              fun same => notLimit (UInt64.toNat.inj same)
            rw [limit] at different
            rw [below, if_pos rfl] at bound different
            obtain ⟨converted, value⟩ : toSigned magnitude = _ ∧ _ := toSigned_eq (by omega)
            obtain ⟨negated, _⟩ : negate magnitude.toInt64 = _ ∧ _ := negate_eq (by omega)
            rw [converted]
            change Machine.checked (negate magnitude.toInt64) = _
            rw [negated]
            rfl

/-! ## The nine bytes -/

/-- The nine bytes hold a sign and a magnitude within its range. -/
def SignedText : Bytes → Prop
  | [] => False
  | sign :: magnitude =>
      sign = 0 ∧ fromBigEndian magnitude ≤ 2 ^ 63 - 1 ∨ sign = 1 ∧ fromBigEndian magnitude ≤ 2 ^ 63

/-- The number that the nine bytes stand for. -/
def signedValue : Bytes → Int
  | [] => 0
  | sign :: magnitude =>
      if sign = 1 then -fromBigEndian magnitude else fromBigEndian magnitude

theorem signedValue_eq (negative : Bool) (magnitude : UInt64) :
    signedValue (boolBytes negative ++ u64Bytes magnitude) = signed negative magnitude := by
  cases negative with
  | false => exact congrArg Nat.cast (fromBigEndian_u64Bytes magnitude)
  | true => exact congrArg (fun value : Nat => -(value : Int)) (fromBigEndian_u64Bytes magnitude)

theorem signedText_iff (negative : Bool) (magnitude : UInt64) :
    SignedText (boolBytes negative ++ u64Bytes magnitude) ↔ magnitude ≤ limitOf negative := by
  rw [UInt64.le_iff_toNat_le, limitOf_toNat]
  cases negative with
  | false =>
      change (0 : UInt8) = 0 ∧ fromBigEndian (u64Bytes magnitude) ≤ _ ∨
        (0 : UInt8) = 1 ∧ fromBigEndian (u64Bytes magnitude) ≤ _ ↔ _
      rw [fromBigEndian_u64Bytes]
      simp
  | true =>
      change (1 : UInt8) = 0 ∧ fromBigEndian (u64Bytes magnitude) ≤ _ ∨
        (1 : UInt8) = 1 ∧ fromBigEndian (u64Bytes magnitude) ≤ _ ↔ _
      rw [fromBigEndian_u64Bytes]
      simp

/-- Nine bytes are a sign and a magnitude, or their first byte is no sign. -/
theorem nine_cases {text : Bytes} (length : text.length = 9) :
    (∃ negative magnitude, text = boolBytes negative ++ u64Bytes magnitude) ∨
      ∃ sign magnitude, text = sign :: magnitude ∧ sign > 1 := by
  obtain _ | ⟨sign, bytes⟩ := text
  · cases length
  by_cases invalid : sign > 1
  · exact Or.inr ⟨sign, bytes, rfl, invalid⟩
  · obtain ⟨magnitude, rfl⟩ := exists_u64Bytes (Nat.succ_inj.mp length)
    obtain rfl | rfl := bit_cases invalid
    · exact Or.inl ⟨false, magnitude, rfl⟩
    · exact Or.inl ⟨true, magnitude, rfl⟩

/-- The two spellings of zero. -/
def zeroText (negative : Bool) : Bytes := boolBytes negative ++ u64Bytes 0

theorem signedText_zero (negative : Bool) : SignedText (zeroText negative) :=
  (signedText_iff negative 0).mpr UInt64.zero_le

theorem signedValue_zero (negative : Bool) : signedValue (zeroText negative) = 0 := by
  rw [zeroText, signedValue_eq]
  cases negative with
  | false => rfl
  | true => rfl

/-- What stands behind a sign is admitted with the sign. -/
theorem SignedText.cases {text : Bytes} (admitted : SignedText text) (length : text.length = 9) :
    ∃ negative magnitude, text = boolBytes negative ++ u64Bytes magnitude := by
  obtain spelled | ⟨sign, magnitude, rfl, invalid⟩ := nine_cases length
  · exact spelled
  · obtain ⟨rfl, _⟩ | ⟨rfl, _⟩ := admitted
    · exact absurd invalid (by decide)
    · exact absurd invalid (by decide)

/-- A sign is written in front of eight bytes. -/
theorem length_i64Bytes (value : Int64) : (i64Bytes value).length = 9 := by
  rw [i64Bytes, List.length_append, length_u64Bytes]
  rfl

/-- No writer writes the negative zero. -/
theorem i64Bytes_ne_zeroText (value : Int64) : i64Bytes value ≠ zeroText true := by
  intro same
  obtain ⟨sign, same⟩ := SelfDelimiting.boolean.strip same
  have magnitude := i64Magnitude_toNat value
  rw [SelfDelimiting.u64.injective same] at magnitude
  have zero : value.toInt = 0 := Int.natAbs_eq_zero.mp magnitude.symm
  have negative : value.toInt < 0 := Int64.lt_iff_toInt_lt.mp (of_decide_eq_true sign)
  omega

/-- Texts of one number are the same, or they are the two zeros. -/
theorem signedValue_inj {text other : Bytes} (admitted : SignedText text)
    (otherAdmitted : SignedText other) (length : text.length = 9) (otherLength : other.length = 9)
    (same : signedValue text = signedValue other) :
    text = other ∨ ∃ negative, text = zeroText negative ∧ other = zeroText (!negative) := by
  obtain ⟨negative, magnitude, rfl⟩ := admitted.cases length
  obtain ⟨otherNegative, otherMagnitude, rfl⟩ := otherAdmitted.cases otherLength
  rw [signedValue_eq, signedValue_eq] at same
  by_cases signs : negative = otherNegative
  · subst signs
    have magnitudes : magnitude.toNat = otherMagnitude.toNat := by
      unfold signed at same
      split at same <;> omega
    exact Or.inl (by rw [UInt64.toNat.inj magnitudes])
  · obtain rfl : otherNegative = !negative := Bool.eq_not_of_ne (Ne.symm signs)
    have zeros : magnitude.toNat = 0 ∧ otherMagnitude.toNat = 0 := by
      cases negative with
      | false =>
          change (magnitude.toNat : Int) = -otherMagnitude.toNat at same
          omega
      | true =>
          change -(magnitude.toNat : Int) = otherMagnitude.toNat at same
          omega
    have zero : magnitude = 0 := UInt64.toNat.inj zeros.1
    have otherZero : otherMagnitude = 0 := UInt64.toNat.inj zeros.2
    exact Or.inr ⟨negative, by rw [zero]; rfl, by rw [otherZero]; rfl⟩

section Nine

variable {ε : Type} (failures : ReaderFailures ε) (label : Bytes)

/-- A sign and a magnitude within its range are read as the number they stand for. -/
theorem decodes_signed {text : Bytes} (length : text.length = 9) (admitted : SignedText text) :
    ∃ value : Int64, Decodes (Reader.i64 failures label) text value ∧
      value.toInt = signedValue text := by
  obtain ⟨negative, magnitude, rfl⟩ := admitted.cases length
  rw [signedValue_eq]
  exact decodes_signMagnitude failures label ((signedText_iff negative magnitude).mp admitted)

/-- Other nine bytes are refused. -/
theorem refuses_signed {text : Bytes} (length : text.length = 9) (refused : ¬ SignedText text) :
    Refuses (Reader.i64 failures label) text (failures.invalid label) := by
  obtain ⟨negative, magnitude, rfl⟩ | ⟨sign, magnitude, rfl, invalid⟩ := nine_cases length
  · have excess : magnitude > limitOf negative :=
      UInt64.not_le.mp (mt (signedText_iff negative magnitude).mpr refused)
    apply (decodes_boolean failures label negative).refuses_bind
    rw [← List.append_nil (u64Bytes magnitude)]
    apply (decodes_u64 failures label magnitude).refuses_bind
    intro before after
    exact congrFun (if_pos excess) _
  · have head : Refuses (Reader.boolean failures label) [sign] (failures.invalid label) := by
      rw [← List.append_nil [sign]]
      apply (decodes_u8 failures label sign).refuses_bind
      intro before after
      exact congrFun (if_pos invalid) _
    exact (head.append magnitude).bind

end Nine

end Wire
