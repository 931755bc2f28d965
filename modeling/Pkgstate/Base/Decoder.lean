import Pkgstate.Base.SelfDelimiting

/-!
# Cursors over a byte record

A record reader is a state monad over a byte string and a position. The
primitive reads are those of a length-checked binary reader; what each failure
is called is a parameter, so that several readers share one set of facts. An
access past the end of the record is an outcome of its own, never a default
byte.

`Decodes decoder encoding value` says that `decoder`, standing anywhere before
`encoding`, reads exactly `encoding` and returns `value`; `Refuses` says that it
fails there. Both compose along `>>=`, so the round trip of a record follows the
decoder line by line.
-/

namespace Wire

open Cpp

/-- The record being read and the offset of the next unread byte. -/
structure Cursor where
  bytes : Bytes
  position : Nat

/-- `remaining()`. -/
def Cursor.remaining (cursor : Cursor) : Nat :=
  cursor.bytes.length - cursor.position

/-- A reader over a cursor that may fail. -/
abbrev Decoder (ε α : Type) := StateT Cursor (Except ε) α

/-- The failures of one reader, by the label of the value being read, and the
largest collection it admits. `outOfRange` stands for an access outside the
record, which the source leaves undefined. -/
structure ReaderFailures (ε : Type) where
  truncated : Bytes → ε
  mismatch : Bytes → ε
  invalid : Bytes → ε
  overlong : Bytes → ε
  implausible : Bytes → ε
  trailing : ε
  outOfRange : ε
  maximumCount : Nat

/-- `std::numeric_limits<std::size_t>::max()`. -/
def sizeMax : Nat := 2 ^ 64 - 1

namespace Reader

variable {ε α : Type}

/-- Stop with a failure. -/
def fail (failure : ε) : Decoder ε α := fun _ => .error failure

/-- A computation that does not touch the cursor. -/
def lift (value : Except ε α) : Decoder ε α := fun cursor =>
  match value with
  | .ok value => .ok (value, cursor)
  | .error failure => .error failure

section Primitives

variable (failures : ReaderFailures ε)

/-- `require(size, label)`. -/
def require (size : Nat) (label : Bytes) : Decoder ε Unit := fun cursor =>
  if size > cursor.remaining then .error (failures.truncated label) else .ok ((), cursor)

/-- The bytes at `start`, `start + 1`, ..., each access checked. -/
def bytesAt (bytes : Bytes) : (start size : Nat) → Except ε Bytes
  | _, 0 => .ok []
  | start, size + 1 =>
      match bytes[start]? with
      | none => .error failures.outOfRange
      | some byte =>
          match bytesAt bytes (start + 1) size with
          | .error failure => .error failure
          | .ok rest => .ok (byte :: rest)

/-- The next `size` bytes, which the caller has required to be there. -/
def take (size : Nat) : Decoder ε Bytes := fun cursor =>
  match bytesAt failures cursor.bytes cursor.position size with
  | .error failure => .error failure
  | .ok bytes => .ok (bytes, { cursor with position := cursor.position + size })

/-- `expect(expected, label)`. -/
def expect (expected label : Bytes) : Decoder ε Unit := do
  require failures expected.length label
  let actual ← take failures expected.length
  if actual = expected then pure () else fail (failures.mismatch label)

/-- A big-endian unsigned integer of `size` bytes. -/
def unsigned (size : Nat) (label : Bytes) : Decoder ε Nat := do
  require failures size label
  let bytes ← take failures size
  pure (fromBigEndian bytes)

/-- `u8(label)`. -/
def u8 (label : Bytes) : Decoder ε UInt8 := do
  let value ← unsigned failures 1 label
  pure value.toUInt8

/-- `u16(label)`. -/
def u16 (label : Bytes) : Decoder ε UInt16 := do
  let value ← unsigned failures 2 label
  pure value.toUInt16

/-- `u32(label)`. -/
def u32 (label : Bytes) : Decoder ε UInt32 := do
  let value ← unsigned failures 4 label
  pure value.toUInt32

/-- `u64(label)`. -/
def u64 (label : Bytes) : Decoder ε UInt64 := do
  let value ← unsigned failures 8 label
  pure value.toUInt64

/-- `boolean(label)`. -/
def boolean (label : Bytes) : Decoder ε Bool := do
  let value ← u8 failures label
  if value > 1 then fail (failures.invalid label) else pure (value == 1)

/-- `i64(label)`: a sign and a magnitude within the range of that sign. -/
def i64 (label : Bytes) : Decoder ε Int64 := do
  let negative ← boolean failures label
  let magnitude ← u64 failures label
  let limit : UInt64 := 9223372036854775807 + (if negative then 1 else 0)
  if magnitude > limit then fail (failures.invalid label)
  else if negative = false then pure magnitude.toInt64
  else if magnitude = limit then pure Int64.minValue
  else pure (-magnitude.toInt64)

/-- `bytes_.substr(position_, size)` and the step past it. -/
def substr (size : UInt64) : Decoder ε StdString := fun cursor =>
  if cursor.position > cursor.bytes.length then .error failures.outOfRange
  else .ok
    (⟨(cursor.bytes.drop cursor.position).take size.toNat,
      Nat.lt_of_le_of_lt (List.length_take_le _ _) size.toNat_lt⟩,
    { cursor with position := cursor.position + size.toNat })

/-- `bytes(label)`. -/
def bytes (label : Bytes) : Decoder ε StdString := do
  let size ← u64 failures label
  let cursor ← get
  if size.toNat > cursor.remaining ∨ size.toNat > sizeMax then fail (failures.overlong label)
  else substr failures size

/-- `count(label)`. -/
def count (label : Bytes) : Decoder ε UInt64 := do
  let value ← u64 failures label
  let cursor ← get
  if value.toNat > failures.maximumCount ∨ value.toNat > cursor.remaining then
    fail (failures.implausible label)
  else pure value

/-- `finish()`. -/
def finish : Decoder ε Unit := fun cursor =>
  if cursor.position ≠ cursor.bytes.length then .error failures.trailing else .ok ((), cursor)

end Primitives

/-- The body of `for (index = 0; index < count; ++index) result.push_back(...)`. -/
def times (decoder : Decoder ε α) : (count : Nat) → Decoder ε { values : List α // values.length = count }
  | 0 => pure ⟨[], rfl⟩
  | count + 1 => do
      let value ← decoder
      let rest ← times decoder count
      pure ⟨value :: rest.val, by rw [List.length_cons, rest.property]⟩

/-- A plausible count followed by that many values. -/
def counted (failures : ReaderFailures ε) (label : Bytes) (decoder : Decoder ε α) :
    Decoder ε (StdVector α) := do
  let size ← count failures label
  let values ← times decoder size.toNat
  pure ⟨values.val, by rw [values.property]; exact size.toNat_lt⟩

/-- A presence byte followed, when it is one, by a value. -/
def optional (failures : ReaderFailures ε) (label : Bytes) (decoder : Decoder ε α) :
    Decoder ε (Option α) := do
  let present ← boolean failures label
  if present then
    let value ← decoder
    pure (some value)
  else pure none

/-- A converted integer, with its bytes in hand. -/
theorem unsigned_bind (failures : ReaderFailures ε) (size : Nat) (label : Bytes)
    (convert : Nat → α) :
    (unsigned failures size label >>= fun value => pure (convert value) : Decoder ε α) = (do
      require failures size label
      let bytes ← take failures size
      pure (convert (fromBigEndian bytes))) := by
  simp only [unsigned, bind_assoc, pure_bind]

end Reader

/-! ## Reading back what was written -/

/-- `decoder` reads exactly `encoding` as `value`, whatever stands around it. -/
def Decodes {ε α : Type} (decoder : Decoder ε α) (encoding : Bytes) (value : α) : Prop :=
  ∀ before after : Bytes,
    decoder ⟨before ++ (encoding ++ after), before.length⟩ =
      .ok (value, ⟨before ++ (encoding ++ after), before.length + encoding.length⟩)

/-- In front of `rest`, `decoder` reads exactly `encoding` as `value`. -/
def Reaches {ε α : Type} (decoder : Decoder ε α) (encoding rest : Bytes) (value : α) : Prop :=
  ∀ before : Bytes,
    decoder ⟨before ++ (encoding ++ rest), before.length⟩ =
      .ok (value, ⟨before ++ (encoding ++ rest), before.length + encoding.length⟩)

/-- `decoder` reads `encoding` as `value` when the record ends there. -/
def Completes {ε α : Type} (decoder : Decoder ε α) (encoding : Bytes) (value : α) : Prop :=
  ∀ before : Bytes,
    decoder ⟨before ++ encoding, before.length⟩ =
      .ok (value, ⟨before ++ encoding, before.length + encoding.length⟩)

/-- `decoder` fails with `failure` in front of `encoding`. -/
def Refuses {ε α : Type} (decoder : Decoder ε α) (encoding : Bytes) (failure : ε) : Prop :=
  ∀ before after : Bytes,
    decoder ⟨before ++ (encoding ++ after), before.length⟩ = .error failure

section Composition

variable {ε α β : Type} {decoder : Decoder ε α} {next : α → Decoder ε β}
  {first second rest : Bytes} {a : α} {b : β} {failure : ε}

theorem Decodes.reaches (decodes : Decodes decoder first a) (rest : Bytes) :
    Reaches decoder first rest a :=
  fun before => decodes before rest

/-- Behind what is read the rest goes on. -/
theorem Reaches.bind_run (head : Reaches decoder first rest a) (before : Bytes) :
    (decoder >>= next) ⟨before ++ (first ++ rest), before.length⟩ =
      next a ⟨(before ++ first) ++ rest, (before ++ first).length⟩ := by
  change (decoder _ >>= fun step => next step.1 step.2) = _
  rw [head before, List.append_assoc, List.length_append]
  rfl

theorem Reaches.bind (head : Reaches decoder first (second ++ rest) a)
    (tail : Reaches (next a) second rest b) :
    Reaches (decoder >>= next) (first ++ second) rest b := by
  intro before
  rw [List.append_assoc, head.bind_run, tail (before ++ first)]
  simp only [List.append_assoc, List.length_append, Nat.add_assoc]

theorem Decodes.bind_run (head : Decodes decoder first a) (before after : Bytes) :
    (decoder >>= next) ⟨before ++ (first ++ after), before.length⟩ =
      next a ⟨(before ++ first) ++ after, (before ++ first).length⟩ :=
  (head.reaches after).bind_run before

theorem Decodes.bind (head : Decodes decoder first a) (tail : Decodes (next a) second b) :
    Decodes (decoder >>= next) (first ++ second) b :=
  fun before after => ((head.reaches _).bind (tail.reaches after)) before

theorem Decodes.refuses_bind (head : Decodes decoder first a)
    (tail : Refuses (next a) second failure) :
    Refuses (decoder >>= next) (first ++ second) failure := by
  intro before after
  rw [List.append_assoc, head.bind_run]
  exact tail (before ++ first) after

theorem Decodes.pure (value : α) : Decodes (Pure.pure value : Decoder ε α) [] value :=
  fun _ _ => rfl

theorem Decodes.lift (value : α) : Decodes (Reader.lift (.ok value) : Decoder ε α) [] value :=
  fun _ _ => rfl

/-- A step that consumes nothing stands in front of the rest. -/
theorem Decodes.bind_nil (head : Decodes decoder [] a) (tail : Decodes (next a) second b) :
    Decodes (decoder >>= next) second b :=
  head.bind tail

/-- The last step may be a plain return. -/
theorem Decodes.bind_pure {value : β} (head : Decodes decoder first a)
    (tail : next a = Pure.pure value) : Decodes (decoder >>= next) first value := by
  have whole := head.bind (tail ▸ Decodes.pure value)
  rwa [List.append_nil] at whole

theorem Decodes.completes_bind (head : Decodes decoder first a)
    (tail : Completes (next a) second b) : Completes (decoder >>= next) (first ++ second) b := by
  intro before
  rw [head.bind_run, tail (before ++ first)]
  simp only [List.append_assoc, List.length_append, Nat.add_assoc]

/-- `finish` accepts the end of the record. -/
theorem completes_finish (failures : ReaderFailures ε) (value : α) :
    Completes (Reader.finish failures >>= fun _ => Pure.pure value) [] value := by
  intro before
  have atEnd : ¬ before.length ≠ (before ++ []).length := by simp
  change (Reader.finish failures _ >>= _) = _
  rw [Reader.finish, if_neg atEnd]
  rfl

/-- A whole record: reading from its start consumes all of it. -/
theorem Completes.run (completes : Completes decoder first a) :
    decoder ⟨first, 0⟩ = .ok (a, ⟨first, first.length⟩) := by
  have whole := completes []
  simpa only [List.nil_append, List.length_nil, Nat.zero_add] using whole

/-- Two encodings that one decoder reads, at the front of one record, are the same
encoding of the same value. -/
theorem Decodes.strip {s t : Bytes} {other : α} (left : Decodes decoder first a)
    (right : Decodes decoder second other) (same : first ++ s = second ++ t) :
    a = other ∧ s = t := by
  have leftRun := left [] s
  have rightRun := right [] t
  simp only [List.nil_append, List.length_nil, Nat.zero_add, same] at leftRun rightRun
  rw [leftRun] at rightRun
  simp only [Except.ok.injEq, Prod.mk.injEq, Cursor.mk.injEq, true_and] at rightRun
  exact ⟨rightRun.1, (List.append_inj same rightRun.2).2⟩

/-- The values of a whole sequence can be read off its bytes in one way only. -/
theorem Decodes.flatMap_inj {encode : α → Bytes} {values others : List α}
    (nonempty : ∀ value, encode value ≠ [])
    (each : ∀ value ∈ values, Decodes decoder (encode value) value)
    (eachOther : ∀ value ∈ others, Decodes decoder (encode value) value)
    (same : values.flatMap encode = others.flatMap encode) : values = others :=
  SelfDelimiting.flatMap_eq nonempty
    (fun value member other otherMember _ _ =>
      (each value member).strip (eachOther other otherMember)) same

/-- A refusal ends the computation. -/
theorem Refuses.bind (refuses : Refuses decoder first failure) :
    Refuses (decoder >>= next) first failure := by
  intro before after
  change (decoder _ >>= fun step => next step.1 step.2) = _
  rw [refuses before after]
  rfl

theorem Refuses.append (refuses : Refuses decoder first failure) (rest : Bytes) :
    Refuses decoder (first ++ rest) failure := by
  intro before after
  rw [List.append_assoc]
  exact refuses before (rest ++ after)

theorem Refuses.run (refuses : Refuses decoder first failure) :
    decoder ⟨first, 0⟩ = .error failure := by
  have whole := refuses [] []
  simpa only [List.nil_append, List.append_nil, List.length_nil] using whole

end Composition

section Primitives

variable {ε : Type} (failures : ReaderFailures ε)

theorem bytesAt_append (before middle after : Bytes) :
    Reader.bytesAt failures (before ++ (middle ++ after)) before.length middle.length =
      .ok middle := by
  induction middle generalizing before with
  | nil => rfl
  | cons byte middle ih =>
      have tail := ih (before ++ [byte])
      simp only [List.append_assoc, List.cons_append, List.nil_append, List.length_append,
        List.length_cons, List.length_nil, Nat.zero_add] at tail
      rw [List.length_cons, Reader.bytesAt, List.getElem?_append_right (Nat.le_refl _),
        Nat.sub_self]
      simp only [List.cons_append, List.getElem?_cons_zero, tail]

theorem require_append {size : Nat} (label before : Bytes) {encoding after : Bytes}
    (fits : size ≤ (encoding ++ after).length) :
    Reader.require failures size label ⟨before ++ (encoding ++ after), before.length⟩ =
      .ok ((), ⟨before ++ (encoding ++ after), before.length⟩) := by
  have enough : ¬ size > (Cursor.mk (before ++ (encoding ++ after)) before.length).remaining := by
    simp only [Cursor.remaining, List.length_append] at fits ⊢
    omega
  rw [Reader.require, if_neg enough]

theorem decodes_take (encoding : Bytes) :
    Decodes (Reader.take failures encoding.length) encoding encoding := by
  intro before after
  simp only [Reader.take, bytesAt_append]

theorem decodes_unsigned {size : Nat} {encoding : Bytes} (label : Bytes)
    (length : encoding.length = size) :
    Decodes (Reader.unsigned failures size label) encoding (fromBigEndian encoding) := by
  subst length
  intro before after
  have fits : encoding.length ≤ (encoding ++ after).length := by simp
  have room := require_append failures label before fits
  have taken := decodes_take failures encoding before after
  change (Reader.require failures encoding.length label _ >>= fun step =>
    (Reader.take failures encoding.length step.2 >>= fun step =>
      .ok (fromBigEndian step.1, step.2))) = _
  rw [room]
  change (Reader.take failures encoding.length _ >>= _) = _
  rw [taken]
  rfl

theorem decodes_expect (expected label : Bytes) :
    Decodes (Reader.expect failures expected label) expected () := by
  intro before after
  have fits : expected.length ≤ (expected ++ after).length := by simp
  have room := require_append failures label before fits
  have taken := decodes_take failures expected before after
  change (Reader.require failures expected.length label _ >>= fun step =>
    (Reader.take failures expected.length step.2 >>= fun step =>
      (if step.1 = expected then pure () else Reader.fail (failures.mismatch label) :
        Decoder ε Unit) step.2)) = _
  rw [room]
  change (Reader.take failures expected.length _ >>= _) = _
  rw [taken]
  change (if expected = expected then pure () else Reader.fail (failures.mismatch label) :
        Decoder ε Unit) _ = _
  rw [if_pos rfl]
  rfl

theorem decodes_u8 (label : Bytes) (value : UInt8) :
    Decodes (Reader.u8 failures label) [value] value := by
  have read := decodes_unsigned failures label (show [value].length = 1 from rfl)
  exact read.bind_pure (by simp [fromBigEndian])

theorem decodes_u16 (label : Bytes) (value : UInt16) :
    Decodes (Reader.u16 failures label) (u16Bytes value) value :=
  (decodes_unsigned failures label (length_u16Bytes value)).bind_pure
    (by rw [fromBigEndian_u16Bytes]; simp)

theorem decodes_u32 (label : Bytes) (value : UInt32) :
    Decodes (Reader.u32 failures label) (u32Bytes value) value :=
  (decodes_unsigned failures label (length_u32Bytes value)).bind_pure
    (by rw [fromBigEndian_u32Bytes]; simp)

theorem decodes_u64 (label : Bytes) (value : UInt64) :
    Decodes (Reader.u64 failures label) (u64Bytes value) value :=
  (decodes_unsigned failures label (length_u64Bytes value)).bind_pure
    (by rw [fromBigEndian_u64Bytes]; simp)

theorem decodes_boolean (label : Bytes) (value : Bool) :
    Decodes (Reader.boolean failures label) (boolBytes value) value := by
  apply (decodes_u8 failures label _).bind_pure
  cases value <;> rfl

/-- A magnitude within the range of its sign is converted to the number they stand for;
the least one has no opposite. -/
theorem converts_signed {negative : Bool} {magnitude : UInt64} (failure : ε)
    (fits : magnitude ≤ limitOf negative) : ∃ value : Int64,
      (if magnitude > limitOf negative then Reader.fail failure
        else if negative = false then pure magnitude.toInt64
        else if magnitude = limitOf negative then pure Int64.minValue
        else pure (-magnitude.toInt64) : Decoder ε Int64) = pure value ∧
      value.toInt = signed negative magnitude := by
  have bound := UInt64.le_iff_toNat_le.mp fits
  rw [limitOf_toNat] at bound
  rw [if_neg (UInt64.not_lt.mpr fits)]
  cases negative with
  | false =>
      refine ⟨_, if_pos rfl, ?_⟩
      rw [toInt64_eq]
      exact Int64.toInt_ofNat_of_lt (Nat.lt_succ_of_le bound)
  | true =>
      rw [if_neg Bool.true_eq_false.mp]
      by_cases extreme : magnitude = limitOf true
      · subst extreme
        exact ⟨_, if_pos rfl, by decide⟩
      · refine ⟨_, if_neg extreme, ?_⟩
        rw [toInt64_eq]
        exact Int64.toInt_neg_ofNat_of_le bound

theorem decodes_signMagnitude (label : Bytes) {negative : Bool} {magnitude : UInt64}
    (fits : magnitude ≤ limitOf negative) : ∃ value : Int64,
      Decodes (Reader.i64 failures label) (boolBytes negative ++ u64Bytes magnitude) value ∧
        value.toInt = signed negative magnitude := by
  obtain ⟨value, returned, number⟩ := converts_signed (failures.invalid label) fits
  refine ⟨value, ?_, number⟩
  apply (decodes_boolean failures label negative).bind
  exact (decodes_u64 failures label magnitude).bind_pure returned

theorem decodes_i64 (label : Bytes) (value : Int64) :
    Decodes (Reader.i64 failures label) (i64Bytes value) value := by
  obtain ⟨returned, decodes, number⟩ :=
    decodes_signMagnitude failures label (i64Magnitude_le_limitOf value)
  rw [signed_i64Magnitude] at number
  obtain rfl : returned = value := Int64.toInt.inj number
  exact decodes

theorem decodes_substr {encoding : Bytes} {size : UInt64} (length : encoding.length = size.toNat)
    (bound : encoding.length < 2 ^ 64) :
    Decodes (Reader.substr failures size) encoding ⟨encoding, bound⟩ := by
  intro before after
  have inside : ¬ before.length > (before ++ (encoding ++ after)).length := by
    rw [List.length_append]
    omega
  simp only [Reader.substr, if_neg inside, List.drop_left, ← length, List.take_left]

theorem decodes_bytes (label : Bytes) (value : StdString) :
    Decodes (Reader.bytes failures label) (stringBytes value.bytes) value := by
  have size := toNat_length_toUInt64 value.size_lt
  apply (decodes_u64 failures label _).bind
  intro before after
  have sliced := decodes_substr failures size.symm value.size_lt before after
  have within : ¬ (value.bytes.length.toUInt64.toNat >
      (Cursor.mk (before ++ (value.bytes ++ after)) before.length).remaining ∨
      value.bytes.length.toUInt64.toNat > sizeMax) := by
    have bound := value.size_lt
    rw [size]
    simp only [Cursor.remaining, sizeMax, List.length_append]
    omega
  change (if _ then Reader.fail (failures.overlong label)
    else Reader.substr failures value.bytes.length.toUInt64 : Decoder ε StdString) _ = _
  rw [if_neg within]
  exact sliced

/-- Reading as many values as were written, one after the other. -/
theorem decodes_times {α : Type} {decoder : Decoder ε α} {encode : α → Bytes} {values : List α}
    {count : Nat} (length : values.length = count)
    (each : ∀ value ∈ values, Decodes decoder (encode value) value) :
    Decodes (Reader.times decoder count) (values.flatMap encode) ⟨values, length⟩ := by
  induction values generalizing count with
  | nil =>
      cases length
      exact Decodes.pure _
  | cons value values ih =>
      cases length
      have rest := ih rfl fun other member => each other (List.mem_cons_of_mem _ member)
      rw [List.flatMap_cons]
      exact (each value List.mem_cons_self).bind (rest.bind_pure rfl)

/-- A count is admitted when it is within the bound and that many bytes follow. -/
theorem reaches_count (label : Bytes) {value : UInt64} {rest : Bytes}
    (admitted : value.toNat ≤ failures.maximumCount) (within : value.toNat ≤ rest.length) :
    Reaches (Reader.count failures label) (u64Bytes value) rest value := by
  intro before
  have read := decodes_u64 failures label value before rest
  change (Reader.u64 failures label _ >>= _) = _
  rw [read]
  change (if _ then Reader.fail (failures.implausible label) else pure value :
    Decoder ε UInt64) _ = _
  rw [if_neg]
  · rfl
  · simp only [Cursor.remaining, List.length_append, length_u64Bytes]
    omega

/-- A count above the bound is refused whatever follows it. -/
theorem refuses_count (label : Bytes) {value : UInt64}
    (excess : failures.maximumCount < value.toNat) :
    Refuses (Reader.count failures label) (u64Bytes value) (failures.implausible label) := by
  intro before after
  have read := decodes_u64 failures label value before after
  change (Reader.u64 failures label _ >>= _) = _
  rw [read]
  change (if _ then Reader.fail (failures.implausible label) else pure value :
    Decoder ε UInt64) _ = _
  rw [if_pos (Or.inl excess)]
  rfl

/-- A sequence longer than the bound is refused at its count. -/
theorem refuses_counted {α : Type} (label : Bytes) (decoder : Decoder ε α) (encode : α → Bytes)
    (values : StdVector α) (excess : failures.maximumCount < values.toList.length) :
    Refuses (Reader.counted failures label decoder) (countedBytes encode values.toList)
      (failures.implausible label) := by
  have size := toNat_length_toUInt64 values.size_lt
  exact ((refuses_count failures label (size.symm ▸ excess)).bind).append _

theorem length_le_flatMap {α : Type} {encode : α → Bytes} {values : List α}
    (nonempty : ∀ value ∈ values, encode value ≠ []) :
    values.length ≤ (values.flatMap encode).length := by
  induction values with
  | nil => simp
  | cons value values ih =>
      have head := List.length_pos_of_ne_nil (nonempty value List.mem_cons_self)
      have rest := ih fun other member => nonempty other (List.mem_cons_of_mem _ member)
      rw [List.flatMap_cons, List.length_cons, List.length_append]
      omega

/-- No element is empty, so the count of a sequence is never implausible. -/
theorem count_le_flatMap {α : Type} {encode : α → Bytes} (values : StdVector α)
    (nonempty : ∀ value ∈ values.toList, encode value ≠ []) (rest : Bytes) :
    values.toList.length.toUInt64.toNat ≤ (values.toList.flatMap encode ++ rest).length := by
  have longEnough := length_le_flatMap nonempty
  rw [toNat_length_toUInt64 values.size_lt, List.length_append]
  omega

/-- A counted sequence. -/
theorem decodes_counted {α : Type} (label : Bytes) {decoder : Decoder ε α} {encode : α → Bytes}
    (values : StdVector α) (admitted : values.toList.length ≤ failures.maximumCount)
    (nonempty : ∀ value ∈ values.toList, encode value ≠ [])
    (each : ∀ value ∈ values.toList, Decodes decoder (encode value) value) :
    Decodes (Reader.counted failures label decoder) (countedBytes encode values.toList)
      values := by
  have size := toNat_length_toUInt64 values.size_lt
  intro before after
  have counted := reaches_count failures label (size.symm ▸ admitted)
    (count_le_flatMap values nonempty after)
  refine counted.bind (Decodes.reaches ?_ after) before
  exact (decodes_times size.symm each).bind_pure rfl

/-- An optional value: its presence byte, then the value when there is one. -/
theorem decodes_optional {α : Type} (label : Bytes) {decoder : Decoder ε α} {encode : α → Bytes}
    (value : Option α) (each : ∀ present, value = some present →
      Decodes decoder (encode present) present) :
    Decodes (Reader.optional failures label decoder) (optionalBytes encode value) value := by
  apply (decodes_boolean failures label value.isSome).bind
  cases value with
  | none => exact Decodes.pure none
  | some present => exact (each present rfl).bind_pure rfl

end Primitives

end Wire
