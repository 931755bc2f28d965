import Pkgstate.Base.Confined

/-!
# What a successful read consumes

`Decodes` says what a reader does in front of an encoding. `Consumes decoder reads`
goes the other way: whatever the record, a reader that succeeds has stepped over some
bytes of it, and `reads` relates its value to those bytes and to the rest.
-/

namespace Wire

open Cpp

/-- From inside a record, a success of `decoder` steps over the consumed bytes. -/
def Consumes {ε α : Type} (decoder : Decoder ε α)
    (reads : (value : α) → (consumed rest : Bytes) → Prop) : Prop :=
  ∀ (cursor : Cursor) (value : α) (next : Cursor), cursor.Within →
    decoder cursor = .ok (value, next) →
    ∃ consumed rest, cursor.bytes.drop cursor.position = consumed ++ rest ∧
      next = ⟨cursor.bytes, cursor.position + consumed.length⟩ ∧ reads value consumed rest

/-- Behind what was consumed stands the rest. -/
theorem drop_consumed {cursor : Cursor} {consumed rest : Bytes} (within : cursor.Within)
    (unread : cursor.bytes.drop cursor.position = consumed ++ rest) :
    cursor.position + consumed.length ≤ cursor.bytes.length ∧
      cursor.bytes.drop (cursor.position + consumed.length) = rest := by
  have started : cursor.position ≤ cursor.bytes.length := within
  have sizes := congrArg List.length unread
  rw [List.length_drop, List.length_append] at sizes
  refine ⟨by omega, ?_⟩
  rw [← List.drop_drop, unread, List.drop_left]

theorem length_slice {cursor : Cursor} {size : Nat}
    (room : cursor.position + size ≤ cursor.bytes.length) :
    ((cursor.bytes.drop cursor.position).take size).length = size := by
  rw [List.length_take, List.length_drop]
  omega

namespace Consumes

variable {ε α β : Type} {decoder : Decoder ε α} {next : α → Decoder ε β}
  {reads : (value : α) → (consumed rest : Bytes) → Prop}
  {goal : (value : β) → (consumed rest : Bytes) → Prop}

theorem bind (head : Consumes decoder reads)
    (tail : ∀ value first, Consumes (next value) fun result second rest =>
      reads value first (second ++ rest) → goal result (first ++ second) rest) :
    Consumes (decoder >>= next) goal := by
  intro cursor result final within ran
  change (decoder cursor >>= fun step => next step.1 step.2) = _ at ran
  cases started : decoder cursor with
  | error failure =>
      rw [started] at ran
      cases ran
  | ok step =>
      rw [started] at ran
      obtain ⟨first, unread, split, moved, known⟩ := head cursor step.1 step.2 within started
      obtain ⟨inside, behind⟩ := drop_consumed within split
      have later : step.2.Within := by
        rw [moved]
        exact inside
      obtain ⟨second, rest, shorter, ended, meets⟩ :=
        tail step.1 first step.2 result final later ran
      rw [moved] at shorter ended
      change cursor.bytes.drop (cursor.position + first.length) = _ at shorter
      have joined : unread = second ++ rest := behind.symm.trans shorter
      refine ⟨first ++ second, rest, ?_, ?_, meets (joined ▸ known)⟩
      · rw [split, joined, List.append_assoc]
      · rw [ended, List.length_append, Nat.add_assoc]

theorem pure {value : β} (meets : ∀ rest, goal value [] rest) :
    Consumes (Pure.pure value : Decoder ε β) goal := by
  intro cursor result final _ ran
  cases ran
  exact ⟨[], _, rfl, rfl, meets _⟩

theorem fail (failure : ε) : Consumes (Reader.fail failure : Decoder ε β) goal := by
  intro cursor result final _ ran
  cases ran

theorem ite {condition : Prop} [Decidable condition] {first second : Decoder ε β}
    (positive : condition → Consumes first goal) (negative : ¬ condition → Consumes second goal) :
    Consumes (if condition then first else second) goal := by
  split
  · next holds => exact positive holds
  · next fails => exact negative fails

end Consumes

/-! ## The primitive reads -/

theorem fromBigEndian_cons (byte : UInt8) (bytes : Bytes) :
    fromBigEndian (byte :: bytes) = byte.toNat * 256 ^ bytes.length + fromBigEndian bytes := by
  rw [fromBigEndian, List.foldl_cons, foldl_bigEndian_append, Nat.zero_mul, Nat.zero_add]

theorem fromBigEndian_lt (bytes : Bytes) : fromBigEndian bytes < 256 ^ bytes.length := by
  induction bytes with
  | nil => decide
  | cons byte bytes ih =>
      have digit : byte.toNat + 1 ≤ 256 := byte.toNat_lt
      have scaled := Nat.mul_le_mul_right (256 ^ bytes.length) digit
      rw [Nat.succ_mul] at scaled
      rw [fromBigEndian_cons, List.length_cons, Nat.pow_succ, Nat.mul_comm _ 256]
      omega

/-- Bytes of one length are read apart. -/
theorem fromBigEndian_inj {left right : Bytes} (length : left.length = right.length)
    (same : fromBigEndian left = fromBigEndian right) : left = right := by
  induction left generalizing right with
  | nil => exact (List.length_eq_zero_iff.mp length.symm).symm
  | cons byte left ih =>
      obtain _ | ⟨other, right⟩ := right
      · cases length
      rw [List.length_cons, List.length_cons, Nat.succ_inj] at length
      rw [fromBigEndian_cons, fromBigEndian_cons, length] at same
      have leftLt : fromBigEndian left < 256 ^ right.length := length ▸ fromBigEndian_lt left
      have rightLt := fromBigEndian_lt right
      have digits : byte.toNat = other.toNat := by
        have high := congrArg (· / 256 ^ right.length) same
        simpa only [Nat.mul_comm _ (256 ^ right.length),
          Nat.mul_add_div (Nat.pow_pos (by decide : 0 < 256)), Nat.div_eq_of_lt leftLt,
          Nat.div_eq_of_lt rightLt, Nat.add_zero] using high
      rw [digits, Nat.add_left_cancel_iff] at same
      rw [UInt8.toNat_inj.mp digits, ih length same]

/-- Writing an integer that was read gives back its bytes. -/
theorem bigEndian_fromBigEndian {size : Nat} {bytes : Bytes} (length : bytes.length = size) :
    bigEndian size (fromBigEndian bytes) = bytes := by
  subst length
  apply fromBigEndian_inj (length_bigEndian _ _)
  rw [fromBigEndian_bigEndian, Nat.mod_eq_of_lt (fromBigEndian_lt bytes)]

/-- Eight bytes are the big-endian form of a value. -/
theorem exists_u64Bytes {bytes : Bytes} (length : bytes.length = 8) :
    ∃ value : UInt64, bytes = u64Bytes value := by
  have bound : fromBigEndian bytes < 2 ^ 64 := by
    have small := fromBigEndian_lt bytes
    rwa [length] at small
  refine ⟨(fromBigEndian bytes).toUInt64, ?_⟩
  rw [u64Bytes, Nat.toUInt64, UInt64.toNat_ofNat', Nat.mod_eq_of_lt bound,
    bigEndian_fromBigEndian length]

theorem bit_cases {byte : UInt8} (valid : ¬ byte > 1) : byte = 0 ∨ byte = 1 := by
  have small : byte.toNat ≤ 1 := UInt8.le_iff_toNat_le.mp (UInt8.not_lt.mp valid)
  simp only [← UInt8.toNat_inj]
  change byte.toNat = 0 ∨ byte.toNat = 1
  omega

section Primitives

variable {ε : Type} (failures : ReaderFailures ε)

theorem consumes_take {size : Nat} (label : Bytes) :
    Consumes (do
        Reader.require failures size label
        Reader.take failures size)
      fun bytes consumed _ => bytes = consumed ∧ consumed.length = size := by
  intro cursor bytes final within ran
  change (Reader.require failures size label cursor >>= fun step =>
    Reader.take failures size step.2) = _ at ran
  unfold Reader.require Cursor.remaining at ran
  split at ran
  · cases ran
  · next enough =>
      have started : cursor.position ≤ cursor.bytes.length := within
      have room : cursor.position + size ≤ cursor.bytes.length := by omega
      change Reader.take failures size cursor = _ at ran
      rw [Reader.take, bytesAt_eq failures room] at ran
      cases ran
      have length := length_slice room
      exact ⟨_, _, (List.take_append_drop size _).symm, by rw [length], rfl, length⟩

/-- An integer of fixed width is read from what its writer writes. -/
theorem consumes_integer {α : Type} {size : Nat} (label : Bytes) {convert : Nat → α}
    {encode : α → Bytes}
    (encodes : ∀ value, value < 256 ^ size → encode (convert value) = bigEndian size value) :
    Consumes (do
        let value ← Reader.unsigned failures size label
        pure (convert value))
      fun value consumed _ => consumed = encode value := by
  rw [Reader.unsigned_bind, ← bind_assoc]
  apply (consumes_take failures label).bind
  intro bytes first
  apply Consumes.pure
  rintro rest ⟨rfl, length⟩
  have bound := fromBigEndian_lt bytes
  rw [length] at bound
  rw [encodes _ bound, bigEndian_fromBigEndian length, List.append_nil]

theorem consumes_expect (expected label : Bytes) :
    Consumes (Reader.expect failures expected label) fun _ consumed _ => consumed = expected := by
  rw [Reader.expect, ← bind_assoc]
  apply (consumes_take failures label).bind
  intro actual first
  apply Consumes.ite
  · intro same
    apply Consumes.pure
    rintro rest ⟨rfl, length⟩
    rw [List.append_nil, same]
  · intro different
    exact .fail _

theorem consumes_u8 (label : Bytes) :
    Consumes (Reader.u8 failures label) fun value consumed _ => consumed = [value] :=
  consumes_integer failures label fun value bound => by
    simp [bigEndian]

theorem consumes_u16 (label : Bytes) :
    Consumes (Reader.u16 failures label) fun value consumed _ => consumed = u16Bytes value :=
  consumes_integer failures label fun value bound => by
    rw [u16Bytes, Nat.toUInt16, UInt16.toNat_ofNat',
      Nat.mod_eq_of_lt (show value < 2 ^ 16 from bound)]

theorem consumes_u32 (label : Bytes) :
    Consumes (Reader.u32 failures label) fun value consumed _ => consumed = u32Bytes value :=
  consumes_integer failures label fun value bound => by
    rw [u32Bytes, Nat.toUInt32, UInt32.toNat_ofNat',
      Nat.mod_eq_of_lt (show value < 2 ^ 32 from bound)]

theorem consumes_u64 (label : Bytes) :
    Consumes (Reader.u64 failures label) fun value consumed _ => consumed = u64Bytes value :=
  consumes_integer failures label fun value bound => by
    rw [u64Bytes, Nat.toUInt64, UInt64.toNat_ofNat',
      Nat.mod_eq_of_lt (show value < 2 ^ 64 from bound)]

theorem consumes_boolean (label : Bytes) :
    Consumes (Reader.boolean failures label) fun value consumed _ => consumed = boolBytes value := by
  apply (consumes_u8 failures label).bind
  intro byte first
  apply Consumes.ite
  · intro invalid
    exact .fail _
  · intro valid
    apply Consumes.pure
    rintro rest rfl
    obtain rfl | rfl := bit_cases valid
    · rfl
    · rfl

/-- Both signs of zero are read. -/
theorem consumes_i64 (label : Bytes) :
    Consumes (Reader.i64 failures label) fun value consumed _ => ∃ negative magnitude,
      consumed = boolBytes negative ++ u64Bytes magnitude ∧
        value.toInt = signed negative magnitude := by
  apply (consumes_boolean failures label).bind
  intro negative first
  apply (consumes_u64 failures label).bind
  intro magnitude second
  by_cases fits : magnitude ≤ limitOf negative
  · obtain ⟨value, returned, number⟩ := converts_signed (failures.invalid label) fits
    apply (congrArg (fun decoder => Consumes decoder _) returned).mpr
    apply Consumes.pure
    rintro rest rfl rfl
    exact ⟨negative, magnitude, by rw [List.append_nil], number⟩
  · apply (congrArg (fun decoder => Consumes decoder _) (if_pos (UInt64.not_le.mp fits))).mpr
    exact .fail _

/-- A text is the slice that its length announces. -/
theorem consumes_bytes (label : Bytes) :
    Consumes (Reader.bytes failures label) fun text consumed _ =>
      consumed = stringBytes text.bytes := by
  apply (consumes_u64 failures label).bind
  intro size first cursor text final within ran
  change (if size.toNat > cursor.remaining ∨ size.toNat > sizeMax then
    Reader.fail (failures.overlong label) else Reader.substr failures size :
      Decoder ε StdString) cursor = _ at ran
  split at ran
  · cases ran
  · next fits =>
      have started : cursor.position ≤ cursor.bytes.length := within
      have enough := (not_or.mp fits).1
      unfold Cursor.remaining at enough
      have length := length_slice (show cursor.position + size.toNat ≤ _ by omega)
      rw [Reader.substr, if_neg (by omega)] at ran
      cases ran
      refine ⟨_, _, (List.take_append_drop size.toNat _).symm, by rw [length], ?_⟩
      rintro rfl
      rw [stringBytes, length, Nat.toUInt64, UInt64.ofNat_toNat]

theorem consumes_count (label : Bytes) :
    Consumes (Reader.count failures label) fun value consumed rest =>
      consumed = u64Bytes value ∧ value.toNat ≤ rest.length := by
  apply (consumes_u64 failures label).bind
  intro value first cursor result final within ran
  change (if value.toNat > failures.maximumCount ∨ value.toNat > cursor.remaining then
    Reader.fail (failures.implausible label) else pure value : Decoder ε UInt64) cursor = _ at ran
  split at ran
  · cases ran
  · next fits =>
      cases ran
      refine ⟨[], cursor.bytes.drop cursor.position, rfl, rfl, ?_⟩
      rintro rfl
      have room := (not_or.mp fits).2
      unfold Cursor.remaining at room
      rw [List.append_nil, List.length_drop]
      exact ⟨rfl, Nat.not_lt.mp room⟩

end Primitives

end Wire
