import Pkgstate.ReaderSafety
import Pkgstate.RecordFraming
import Pkgstate.SignedTimestamps

/-!
# Writers and readers

The classes `writer` of the generation codec and of the publication codec, which shift
and mask integers into bytes, beside the classes `reader`, as the machine runs both.
Under any sequence of calls the two are inverse: the reader reads what the writer wrote,
and the writer writes again what the reader read, unless it read a negative zero
(`sessions_exact`). The `append` functions of `canonical_record`, which shift and mask as
the writers do, are here as well.
-/

namespace Pkgstate

open Wire Cpp

/-! ## Writers -/

/-- `for (int shift = 24; shift >= 0; shift -= 8)`. -/
def shifts32 : List UInt32 := [24, 16, 8, 0]

namespace GenerationWriter

/-- `writer::raw`. -/
def raw (written value : Bytes) : Bytes := written ++ value

/-- `writer::u16`. -/
def u16 (written : Bytes) (value : UInt16) : Bytes :=
  u8 (u8 written ((value >>> 8) &&& 0xff).toUInt8) (value &&& 0xff).toUInt8

/-- `writer::u32`. -/
def u32 (written : Bytes) (value : UInt32) : Bytes :=
  shifts32.foldl (fun written shift => u8 written (value >>> shift).toUInt8) written

/-- `writer::bytes`, and `writer::digest` of the digest's text. -/
def bytes (written : Bytes) (value : StdString) : Bytes :=
  let sized := u64 written value.bytes.length.toUInt64
  if value.bytes.isEmpty then sized else raw sized value.bytes

end GenerationWriter

/-- A call of one of the functions of a writer. -/
inductive WriterCall
  | raw (value : StdString)
  | u8 (value : UInt8)
  | u16 (value : UInt16)
  | u32 (value : UInt32)
  | u64 (value : UInt64)
  | i64 (value : Int64)
  | boolean (value : Bool)
  | bytes (value : StdString)

namespace WriterCall

/-- Make the call. An overflow leaves no bytes. -/
def push (written : Bytes) : WriterCall → Option Bytes
  | .raw value => some (GenerationWriter.raw written value.bytes)
  | .u8 value => some (GenerationWriter.u8 written value)
  | .u16 value => some (GenerationWriter.u16 written value)
  | .u32 value => some (GenerationWriter.u32 written value)
  | .u64 value => some (GenerationWriter.u64 written value)
  | .i64 value => GenerationWriter.i64 written value
  | .boolean value => some (GenerationWriter.boolean written value)
  | .bytes value => some (GenerationWriter.bytes written value)

/-- The field that the call writes. -/
def field : WriterCall → Bytes
  | .raw value => value.bytes
  | .u8 value => [value]
  | .u16 value => u16Bytes value
  | .u32 value => u32Bytes value
  | .u64 value => u64Bytes value
  | .i64 value => i64Bytes value
  | .boolean value => boolBytes value
  | .bytes value => stringBytes value.bytes

end WriterCall

/-- A class `writer`: which of the functions it has. -/
structure WriterClass where
  offers : WriterCall → Bool

/-- `writer` of the generation codec. -/
def generationWriter : WriterClass where
  offers _ := true

/-- `writer` of the publication codec, whose functions are the same, but which has
neither `u32` nor `i64`. -/
def publicationWriter : WriterClass where
  offers
    | .u32 _ | .i64 _ => false
    | _ => true

namespace WriterClass

variable (writer : WriterClass)

/-- A call of a function that the class has. -/
abbrev Call : Type := { call : WriterCall // writer.offers call }

/-- Make calls one after another. -/
def run (written : Bytes) (calls : List writer.Call) : Option Bytes :=
  calls.foldlM (fun written call => call.val.push written) written

end WriterClass

/-! ### What is written -/

/-- The two masked halves are the two bytes of a value. -/
theorem u16_halves (value : UInt16) :
    [((value >>> 8) &&& 0xff).toUInt8, (value &&& 0xff).toUInt8] = u16Bytes value := by
  have high : ((value >>> 8) &&& 0xff).toUInt8.toNat = (value.toNat >>> 8).toUInt8.toNat := by
    rw [UInt16.toUInt8_and]
    change ((value >>> 8).toUInt8 &&& -1).toNat = _
    rw [UInt8.and_neg_one, UInt16.toNat_toUInt8, UInt16.toNat_shiftRight]
    simp
  have low : (value &&& 0xff).toUInt8.toNat = (value.toNat >>> 0).toUInt8.toNat := by
    rw [UInt16.toUInt8_and]
    change (value.toUInt8 &&& -1).toNat = _
    rw [UInt8.and_neg_one, UInt16.toNat_toUInt8]
    simp
  rw [u16Bytes, bigEndian_succ, bigEndian_succ]
  exact congrArg₂ (fun first second => [first, second]) (UInt8.toNat.inj high)
    (UInt8.toNat.inj low)

/-- The loop over the shifts writes the four bytes of a value. -/
theorem map_shifts32 (value : UInt32) :
    shifts32.map (fun shift => (value >>> shift).toUInt8) = u32Bytes value := by
  have indexed : shifts32 = (List.range 4).reverse.map fun index => (8 * index).toUInt32 := rfl
  rw [indexed, List.map_map, u32Bytes, bigEndian]
  apply List.map_congr_left
  intro index member
  have below : index < 4 := List.mem_range.mp (List.mem_reverse.mp member)
  have width : (8 * index).toUInt32.toNat % 32 = 8 * index := by
    rw [Nat.toUInt32, UInt32.toNat_ofNat']
    omega
  apply UInt8.toNat.inj
  change (value >>> (8 * index).toUInt32).toUInt8.toNat =
    (value.toNat >>> (8 * index)).toUInt8.toNat
  rw [UInt32.toNat_toUInt8, UInt32.toNat_shiftRight, width, Nat.toUInt8, UInt8.toNat_ofNat']

/-- A call appends its field. -/
theorem WriterCall.push_eq (call : WriterCall) (written : Bytes) :
    call.push written = some (written ++ call.field) := by
  cases call with
  | raw value => rfl
  | u8 value => rfl
  | u16 value =>
      rw [push, field, ← u16_halves, GenerationWriter.u16, GenerationWriter.u8,
        GenerationWriter.u8, List.append_assoc]
      rfl
  | u32 value =>
      simp only [push, field, GenerationWriter.u32, GenerationWriter.u8]
      rw [foldl_push, map_shifts32]
  | u64 value => rw [push, field, GenerationWriter.u64, foldl_push, map_shifts]
  | i64 value => exact GenerationWriter.i64_eq written value
  | boolean value => rfl
  | bytes value =>
      rw [push, field, GenerationWriter.bytes, GenerationWriter.u64, foldl_push, map_shifts,
        stringBytes]
      split
      · next empty => rw [List.isEmpty_iff.mp empty, List.append_nil]
      · rw [GenerationWriter.raw, List.append_assoc]

/-- Calls append their fields, and none of them overflows. -/
theorem WriterClass.run_eq (writer : WriterClass) (written : Bytes) (calls : List writer.Call) :
    writer.run written calls = some (written ++ calls.flatMap fun call => call.val.field) := by
  induction calls generalizing written with
  | nil => exact congrArg some (List.append_nil written).symm
  | cons call calls ih =>
      rw [run, List.foldlM_cons, call.val.push_eq]
      change writer.run (written ++ call.val.field) calls = _
      rw [ih, List.flatMap_cons, List.append_assoc]

/-! ### Canonical records -/

namespace CanonicalRecord

/-- `append_u16`. -/
def appendU16 (bytes : Bytes) (value : UInt16) : Bytes :=
  appendU8 (appendU8 bytes ((value >>> 8) &&& 0xff).toUInt8) (value &&& 0xff).toUInt8

/-- `append_u32`. -/
def appendU32 (bytes : Bytes) (value : UInt32) : Bytes :=
  shifts32.foldl (fun bytes shift => appendU8 bytes ((value >>> shift) &&& 0xff).toUInt8) bytes

/-- `append_raw`. -/
def appendRaw (bytes value : Bytes) : Bytes := if value.isEmpty then bytes else bytes ++ value

/-- `append_bytes`. -/
def appendBytes (bytes value : Bytes) : Bytes :=
  appendRaw (appendU64 bytes value.length.toUInt64) value

/-- Make a call. An overflow leaves no bytes. -/
def pushCall (written : Bytes) : Call → Option Bytes
  | .appendBool value => some (appendBool written value)
  | .appendU8 value => some (appendU8 written value)
  | .appendU16 value => some (appendU16 written value)
  | .appendU32 value => some (appendU32 written value)
  | .appendU64 value => some (appendU64 written value)
  | .appendI64 value => appendI64 written value
  | .appendBytes value => some (appendBytes written value.bytes)
  | .appendDigest value =>
      some (appendBytes (appendU16 (appendU16 written value.representationVersion)
        value.algorithm.toUInt16) value.bytes)

theorem appendU16_eq (bytes : Bytes) (value : UInt16) :
    appendU16 bytes value = bytes ++ u16Bytes value := by
  rw [← u16_halves, appendU16, appendU8, appendU8, List.append_assoc]
  rfl

theorem appendU32_eq (bytes : Bytes) (value : UInt32) :
    appendU32 bytes value = bytes ++ u32Bytes value := by
  have masked (wide : UInt32) : (wide &&& 0xff).toUInt8 = wide.toUInt8 := by
    rw [UInt32.toUInt8_and]
    exact UInt8.and_neg_one
  simp only [appendU32, appendU8, masked]
  rw [foldl_push, map_shifts32]

theorem appendU64_eq (bytes : Bytes) (value : UInt64) :
    appendU64 bytes value = bytes ++ u64Bytes value := by
  simp only [appendU64, toUInt8_masked]
  rw [foldl_push, map_shifts]

theorem appendBytes_eq (bytes value : Bytes) :
    appendBytes bytes value = bytes ++ stringBytes value := by
  rw [appendBytes, appendRaw, appendU64_eq, stringBytes]
  split
  · next empty => rw [List.isEmpty_iff.mp empty, List.append_nil]
  · rw [List.append_assoc]

/-- A call of the machine appends what the call appends. -/
theorem pushCall_eq (call : Call) (written : Bytes) :
    pushCall written call = some (append written call) := by
  cases call with
  | appendBool value => rfl
  | appendU8 value => rfl
  | appendU16 value => exact congrArg some (appendU16_eq written value)
  | appendU32 value => exact congrArg some (appendU32_eq written value)
  | appendU64 value => exact congrArg some (appendU64_eq written value)
  | appendI64 value => exact appendI64_eq written value
  | appendBytes value => exact congrArg some (appendBytes_eq written value.bytes)
  | appendDigest value =>
      rw [pushCall, appendBytes_eq, appendU16_eq, appendU16_eq, List.append_assoc,
        List.append_assoc]
      rfl

/-- The machine appends the fields of a record, and overflows nowhere. -/
theorem foldlM_pushCall (calls : List Call) (written : Bytes) :
    calls.foldlM pushCall written = some (calls.foldl append written) := by
  induction calls generalizing written with
  | nil => rfl
  | cons call calls ih =>
      rw [List.foldlM_cons, pushCall_eq]
      exact ih (append written call)

/-- The machine constructs a record and makes some calls. -/
def written (domain : StdString) (calls : List Call) : Except Failure (Option Bytes) := do
  let bytes ← construct domain
  pure (calls.foldlM pushCall bytes)

theorem written_eq (domain : StdString) (calls : List Call) :
    written domain calls = (record domain calls).map some := by
  unfold written record
  cases construct domain with
  | error failure => rfl
  | ok bytes => exact congrArg Except.ok (foldlM_pushCall calls bytes)

/-- Behind its header an identity hashes just what was appended. -/
theorem written_canonicalDomain (domain : IdentityDomain) (calls : List Call) (size_lt) :
    written ⟨domain.canonicalDomain, size_lt⟩ calls =
      .ok (some (header domain ++ calls.flatMap Call.bytes)) := by
  rw [written_eq, record, construct_canonicalDomain]
  exact congrArg (fun bytes => Except.ok (some bytes)) (foldl_append _ calls)

end CanonicalRecord

/-! ## Answers -/

/-- An operation of a reader and what it returned. -/
abbrev ReaderAnswer : Type := (operation : ReaderOperation) × operation.Result

/-- The call that writes what was returned. -/
def ReaderAnswer.rewriting : ReaderAnswer → WriterCall
  | ⟨.expect expected _, _⟩ => .raw expected
  | ⟨.u8 _, value⟩ => .u8 value
  | ⟨.u16 _, value⟩ => .u16 value
  | ⟨.u32 _, value⟩ => .u32 value
  | ⟨.u64 _, value⟩ => .u64 value
  | ⟨.i64 _, value⟩ => .i64 value
  | ⟨.boolean _, value⟩ => .boolean value
  | ⟨.bytes _, text⟩ => .bytes text
  | ⟨.count _, value⟩ => .u64 value

/-- The answer that reads a call's field, where nothing has to be named. -/
def WriterCall.reading : WriterCall → ReaderAnswer
  | .raw value => ⟨.expect value [], ()⟩
  | .u8 value => ⟨.u8 [], value⟩
  | .u16 value => ⟨.u16 [], value⟩
  | .u32 value => ⟨.u32 [], value⟩
  | .u64 value => ⟨.u64 [], value⟩
  | .i64 value => ⟨.i64 [], value⟩
  | .boolean value => ⟨.boolean [], value⟩
  | .bytes value => ⟨.bytes [], value⟩

theorem WriterCall.reading_rewriting (call : WriterCall) : call.reading.rewriting = call := by
  cases call <;> rfl

/-- What a step of a run answered. -/
def ReaderStep.answer (step : ReaderStep) : ReaderAnswer := ⟨step.operation, step.result⟩

/-- The bytes that a step consumed. -/
def ReaderStep.consumed (step : ReaderStep) : Bytes :=
  (step.before.bytes.bytes.drop step.before.position.toNat).take
    (step.operation.size step.result)

/-- A step has read zero from the bytes with a negative sign. -/
def ReaderStep.NegativeZero (step : ReaderStep) : Prop :=
  (∃ label, step.operation = .i64 label) ∧ step.consumed = zeroText true

/-- Where a reader stands behind some steps. -/
def viewBehind (view : View) (steps : List ReaderStep) : View :=
  steps.foldl (fun _ step => step.after) view

namespace ReaderClass

variable (reader : ReaderClass)

/-- An answer of a function that the class has. -/
abbrev Answer : Type := { answer : ReaderAnswer // reader.offers answer.1 }

/-- The function that answered. -/
def Answer.operation {reader : ReaderClass} (answer : reader.Answer) : reader.Operation :=
  ⟨answer.val.1, answer.property⟩

/-- The reader admits an answer in front of `rest`: a count has to be plausible there. -/
def Fits (rest : Bytes) : ReaderAnswer → Prop
  | ⟨.count _, value⟩ =>
      value.toNat ≤ reader.failures.maximumCount ∧ value.toNat ≤ rest.length
  | _ => True

/-- Only a count can be implausible. -/
theorem fits_reading (rest : Bytes) (call : WriterCall) :
    reader.Fits rest call.reading := by
  cases call <;> trivial

/-- The fields of some answers. -/
def fields {reader : ReaderClass} (answers : List reader.Answer) : Bytes :=
  answers.flatMap fun answer => answer.val.rewriting.field

/-- The reader admits answers one after another, in front of what follows them. -/
def AllFit (after : Bytes) : List reader.Answer → Prop
  | [] => True
  | answer :: answers =>
      reader.Fits (fields answers ++ after) answer.val ∧ AllFit after answers

end ReaderClass

/-- The writer and the reader of one codec. Whatever the one has a function for, so has the
other. -/
structure RecordCodec where
  writer : WriterClass
  reader : ReaderClass
  offered : ∀ answer : ReaderAnswer, reader.offers answer.1 → writer.offers answer.rewriting
  readable : ∀ call : WriterCall, writer.offers call → reader.offers call.reading.1

/-- The classes of the generation codec. -/
def generationRecords : RecordCodec where
  writer := generationWriter
  reader := generationReader
  offered _ _ := rfl
  readable _ _ := rfl

/-- The classes of the publication codec. -/
def publicationRecords : RecordCodec where
  writer := publicationWriter
  reader := publicationReader
  offered answer offers := by
    rcases answer with ⟨operation, result⟩
    cases operation with
    | u32 label => cases offers
    | i64 label => cases offers
    | expect expected label => rfl
    | u8 label => rfl
    | u16 label => rfl
    | u64 label => rfl
    | boolean label => rfl
    | bytes label => rfl
    | count label => rfl
  readable call offers := by
    cases call with
    | u32 value => cases offers
    | i64 value => cases offers
    | raw value => rfl
    | u8 value => rfl
    | u16 value => rfl
    | u64 value => rfl
    | boolean value => rfl
    | bytes value => rfl

/-- The call that writes an answer. -/
def RecordCodec.rewriting (codec : RecordCodec) (answer : codec.reader.Answer) :
    codec.writer.Call :=
  ⟨answer.val.rewriting, codec.offered answer.val answer.property⟩

/-! ## Reading what was written -/

namespace ReaderClass

variable (reader : ReaderClass)

/-- The decoder reads a field as its answer. -/
theorem reaches_decode {answer : ReaderAnswer} {rest : Bytes}
    (fits : reader.Fits rest answer) :
    Reaches (reader.decode answer.1) answer.rewriting.field rest answer.2 := by
  rcases answer with ⟨operation, result⟩
  cases operation with
  | expect expected label =>
      exact (decodes_expect reader.failures expected.bytes label).reaches rest
  | u8 label => exact (decodes_u8 reader.failures label result).reaches rest
  | u16 label => exact (decodes_u16 reader.failures label result).reaches rest
  | u32 label => exact (decodes_u32 reader.failures label result).reaches rest
  | u64 label => exact (decodes_u64 reader.failures label result).reaches rest
  | i64 label => exact (decodes_i64 reader.failures label result).reaches rest
  | boolean label => exact (decodes_boolean reader.failures label result).reaches rest
  | bytes label => exact (decodes_bytes reader.failures label result).reaches rest
  | count label => exact reaches_count reader.failures label fits.1 fits.2

/-- One call in front of a field. -/
theorem perform_reads {answer : ReaderAnswer} {before rest : Bytes} {record : StdString}
    (fits : reader.Fits rest answer)
    (whole : record.bytes = before ++ (answer.rewriting.field ++ rest)) :
    reader.perform answer.1 ⟨record, before.length.toUInt64⟩ =
      .ok (answer.2, ⟨record, (before ++ answer.rewriting.field).length.toUInt64⟩) := by
  have size := record.size_lt
  have sizes := congrArg List.length whole
  simp only [List.length_append] at sizes
  have position : before.length.toUInt64.toNat = before.length :=
    toNat_length_toUInt64 (by omega)
  have place : (View.mk record before.length.toUInt64).cursor =
      ⟨before ++ (answer.rewriting.field ++ rest), before.length⟩ := by
    rw [View.cursor, whole, position]
  have within : (View.mk record before.length.toUInt64).Within := by
    rw [View.Within, place]
    simp [Cursor.Within]
  have simulated := reader.simulates_perform answer.1 _ within
  rw [place, reader.reaches_decode fits before] at simulated
  cases ran : reader.perform answer.1 ⟨record, before.length.toUInt64⟩ with
  | error stop =>
      rw [ran] at simulated
      cases stop with
      | refused failure view => cases simulated.2.2
      | wrapped => exact simulated.elim
      | outside => exact simulated.elim
  | ok step =>
      rw [ran] at simulated
      obtain ⟨result, ⟨kept, moved⟩⟩ := step
      obtain ⟨rfl, _, same⟩ := simulated
      obtain ⟨rfl, cursor⟩ := Prod.ext_iff.mp (Except.ok.inj same)
      have advanced : before.length + answer.rewriting.field.length = moved.toNat :=
        congrArg Cursor.position cursor
      have stood : moved = (before ++ answer.rewriting.field).length.toUInt64 := by
        apply UInt64.toNat.inj
        rw [toNat_length_toUInt64 (by rw [List.length_append]; omega), List.length_append,
          advanced]
      rw [stood]

/-- A run goes on behind a call that succeeded. -/
theorem run_cons {operation : reader.Operation} {operations : List reader.Operation}
    {view after : View} {result : operation.val.Result} {steps : List ReaderStep}
    {stop : Option (Stop Failure)}
    (performed : reader.perform operation.val view = .ok (result, after))
    (ran : reader.run operations after = (steps, stop)) :
    reader.run (operation :: operations) view =
      (⟨operation.val, view, result, after⟩ :: steps, stop) := by
  simp only [run, performed, ran]

/-- A run in front of the fields of some answers. -/
theorem run_reads (answers : List reader.Answer) {before after : Bytes} {record : StdString}
    (fits : reader.AllFit after answers)
    (whole : record.bytes = before ++ (fields answers ++ after)) :
    ∃ steps, reader.run (answers.map Answer.operation) ⟨record, before.length.toUInt64⟩ =
        (steps, none) ∧
      steps.map ReaderStep.answer = answers.map Subtype.val ∧
      viewBehind ⟨record, before.length.toUInt64⟩ steps =
        ⟨record, (before ++ fields answers).length.toUInt64⟩ := by
  induction answers generalizing before with
  | nil =>
      refine ⟨[], rfl, rfl, ?_⟩
      rw [fields, List.flatMap_nil, List.append_nil]
      rfl
  | cons answer answers ih =>
      rw [fields, List.flatMap_cons, List.append_assoc] at whole
      have performed := reader.perform_reads fits.1 whole
      rw [← List.append_assoc] at whole
      obtain ⟨steps, ran, answered, stands⟩ := ih fits.2 whole
      refine ⟨_, reader.run_cons performed ran, ?_, ?_⟩
      · rw [List.map_cons, List.map_cons, answered]
        rfl
      · rw [fields, List.flatMap_cons, ← List.append_assoc]
        exact stands

end ReaderClass

/-! ## Writing what was read -/

/-- A sign and a magnitude are the field of the number that they stand for, unless they
are a negative zero. -/
theorem i64Bytes_eq_iff {value : Int64} {negative : Bool} {magnitude : UInt64}
    (number : value.toInt = signed negative magnitude) :
    i64Bytes value = boolBytes negative ++ u64Bytes magnitude ↔
      boolBytes negative ++ u64Bytes magnitude ≠ zeroText true := by
  constructor
  · intro same
    rw [← same]
    exact i64Bytes_ne_zeroText value
  · intro nonzero
    have bound : magnitude ≤ limitOf negative := by
      have least := value.le_toInt
      have greatest := value.toInt_lt
      rw [UInt64.le_iff_toNat_le, limitOf_toNat]
      unfold signed at number
      cases negative with
      | false =>
          rw [if_neg (by decide)] at number ⊢
          omega
      | true =>
          rw [if_pos rfl] at number ⊢
          omega
    have written : SignedText (i64Bytes value) :=
      (signedText_iff _ _).mpr (i64Magnitude_le_limitOf value)
    have values : signedValue (i64Bytes value) =
        signedValue (boolBytes negative ++ u64Bytes magnitude) := by
      rw [signedValue_eq, ← number]
      exact (signedValue_eq _ _).trans (signed_i64Magnitude value)
    obtain same | ⟨sign, first, second⟩ := signedValue_inj written
        ((signedText_iff _ _).mpr bound) (length_i64Bytes value)
        (by rw [List.length_append, length_u64Bytes]; rfl) values
    · exact same
    · cases sign with
      | true => exact absurd first (i64Bytes_ne_zeroText value)
      | false => exact absurd second nonzero

/-- What was read is written as bytes of the same number, and as the same bytes unless
they are a negative zero. -/
theorem rewriting_field (answer : ReaderAnswer) {consumed rest : Bytes}
    (reads : answer.1.Reads answer.2 consumed rest) :
    answer.rewriting.field.length = consumed.length ∧
      (answer.rewriting.field = consumed ↔
        ¬ ((∃ label, answer.1 = .i64 label) ∧ consumed = zeroText true)) := by
  rcases answer with ⟨operation, result⟩
  cases operation with
  | i64 label =>
      obtain ⟨negative, magnitude, rfl, number⟩ := reads
      refine ⟨?_, (i64Bytes_eq_iff number).trans (by simp)⟩
      change (i64Bytes result).length = _
      rw [length_i64Bytes, List.length_append, length_u64Bytes]
      rfl
  | count label =>
      obtain ⟨rfl, _⟩ := reads
      simp [ReaderAnswer.rewriting, WriterCall.field]
  | _ =>
      cases reads
      simp [ReaderAnswer.rewriting, WriterCall.field]

/-- What a sound step consumed stands between its positions, and is written again unless
it is a negative zero. -/
theorem ReaderStep.Sound.rewritten {record : StdString} {step : ReaderStep}
    (sound : step.Sound record) :
    step.before.bytes.bytes.drop step.before.position.toNat =
        step.consumed ++ step.after.bytes.bytes.drop step.after.position.toNat ∧
      step.after.position.toNat = step.before.position.toNat + step.consumed.length ∧
      step.answer.rewriting.field.length = step.consumed.length ∧
      (step.answer.rewriting.field = step.consumed ↔ ¬ step.NegativeZero) := by
  obtain rfl := sound.record_before
  have size : step.consumed.length = step.operation.size step.result := sound.reads.length
  refine ⟨?_, ?_, rewriting_field step.answer sound.reads⟩
  · rw [sound.record_after, sound.advanced, ← List.drop_drop]
    exact (List.take_append_drop _ _).symm
  · rw [sound.advanced, size]

/-- Fields of the same number of bytes stand in front of a record together if each stands
where it belongs. -/
theorem append_prefix_append_iff {field consumed later rest : Bytes}
    (lengths : field.length = consumed.length) :
    field ++ later <+: consumed ++ rest ↔ field = consumed ∧ later <+: rest := by
  constructor
  · intro ⟨more, whole⟩
    rw [List.append_assoc] at whole
    obtain ⟨same, behind⟩ := List.append_inj whole lengths
    exact ⟨same, more, behind⟩
  · intro ⟨same, front⟩
    rw [same]
    exact (List.prefix_append_right_inj consumed).mpr front

namespace ReaderClass

variable (reader : ReaderClass)

/-- A run that nothing stopped. -/
theorem run_rewritten {operations : List reader.Operation} {view : View} (within : view.Within)
    {steps : List ReaderStep} (ran : reader.run operations view = (steps, none)) :
    ∃ answers : List reader.Answer, answers.map Answer.operation = operations ∧
      steps.map ReaderStep.answer = answers.map Subtype.val ∧
      (viewBehind view steps).position.toNat = view.position.toNat + (fields answers).length ∧
      (view.InFront (fields answers) ↔ ∀ step ∈ steps, ¬ step.NegativeZero) := by
  induction operations generalizing view steps with
  | nil =>
      cases ran
      exact ⟨[], rfl, rfl, rfl, by simp [View.InFront, fields]⟩
  | cons operation operations ih =>
      cases performed : reader.perform operation.val view with
      | error stop =>
          rw [run, performed] at ran
          cases ran
      | ok step =>
          obtain ⟨result, after⟩ := step
          obtain ⟨laterWithin, sound⟩ := (reader.perform_sound operation.val within).1 _ _ performed
          cases rest : reader.run operations after with
          | mk later stop =>
              rw [reader.run_cons performed rest] at ran
              cases ran
              obtain ⟨answers, called, answered, position, front⟩ := ih laterWithin rest
              obtain ⟨unread, moved, length, same⟩ := sound.rewritten
              refine ⟨⟨⟨operation.val, result⟩, operation.property⟩ :: answers, ?_, ?_, ?_, ?_⟩
              · rw [List.map_cons, called]
                rfl
              · rw [List.map_cons, List.map_cons, answered]
                rfl
              · rw [fields, List.flatMap_cons, List.length_append, ← Nat.add_assoc]
                change (viewBehind after later).position.toNat = _
                rw [position, moved, ← length]
                rfl
              · rw [View.InFront, unread, fields, List.flatMap_cons, List.forall_mem_cons]
                exact (append_prefix_append_iff length).trans (and_congr same front)

end ReaderClass

/-! ## Both ways -/

/-- The classes of a codec are inverse, whatever is called and in whatever order. -/
structure RecordCodec.Inverse (codec : RecordCodec) : Prop where
  /-- Every sequence of calls writes answers, of which none is a count. -/
  answers (calls : List codec.writer.Call) : ∃ answers : List codec.reader.Answer,
    answers.map codec.rewriting = calls ∧ ∀ after, codec.reader.AllFit after answers
  /-- No call overflows. -/
  writes (before : Bytes) (calls : List codec.writer.Call) :
    ∃ written, codec.writer.run before calls = some written
  /-- What was written between other bytes is read, if its counts are plausible there. -/
  reads {before written after : Bytes} {answers : List codec.reader.Answer} {record : StdString} :
    codec.writer.run before (answers.map codec.rewriting) = some written →
    record.bytes = written ++ after → codec.reader.AllFit after answers →
    ∃ steps, codec.reader.run (answers.map ReaderClass.Answer.operation)
        ⟨record, before.length.toUInt64⟩ = (steps, none) ∧
      steps.map ReaderStep.answer = answers.map Subtype.val ∧
      viewBehind ⟨record, before.length.toUInt64⟩ steps = ⟨record, written.length.toUInt64⟩
  /-- What was read anywhere is written as so many bytes, and as the same bytes exactly if no
  negative zero was read. -/
  rewrites {operations : List codec.reader.Operation} {view : View} {steps : List ReaderStep} :
    view.Within → codec.reader.run operations view = (steps, none) →
    ∃ (answers : List codec.reader.Answer) (written : Bytes),
      answers.map ReaderClass.Answer.operation = operations ∧
      steps.map ReaderStep.answer = answers.map Subtype.val ∧
      codec.writer.run [] (answers.map codec.rewriting) = some written ∧
      (viewBehind view steps).position.toNat = view.position.toNat + written.length ∧
      (view.InFront written ↔ ∀ step ∈ steps, ¬ step.NegativeZero)

namespace RecordCodec

variable (codec : RecordCodec)

/-- Some answers are written as their fields. -/
theorem run_rewriting (before : Bytes) (answers : List codec.reader.Answer) :
    codec.writer.run before (answers.map codec.rewriting) =
      some (before ++ ReaderClass.fields answers) := by
  rw [codec.writer.run_eq, List.flatMap_map]
  rfl

/-- Calls write answers. -/
theorem exists_answers (calls : List codec.writer.Call) :
    ∃ answers : List codec.reader.Answer, answers.map codec.rewriting = calls ∧
      ∀ after, codec.reader.AllFit after answers := by
  induction calls with
  | nil => exact ⟨[], rfl, fun _ => trivial⟩
  | cons call calls ih =>
      obtain ⟨answers, rewritten, fits⟩ := ih
      refine ⟨⟨call.val.reading, codec.readable call.val call.property⟩ :: answers, ?_, ?_⟩
      · rw [List.map_cons, rewritten]
        exact congrArg (· :: calls) (Subtype.ext call.val.reading_rewriting)
      · exact fun after => ⟨codec.reader.fits_reading _ call.val, fits after⟩

theorem inverse : codec.Inverse where
  answers := codec.exists_answers
  writes before calls := ⟨_, codec.writer.run_eq before calls⟩
  reads {before written after answers record} ran whole fits := by
    rw [codec.run_rewriting] at ran
    cases ran
    rw [List.append_assoc] at whole
    exact codec.reader.run_reads answers fits whole
  rewrites {operations view steps} within ran := by
    obtain ⟨answers, called, answered, position, front⟩ := codec.reader.run_rewritten within ran
    exact ⟨answers, _, called, answered, codec.run_rewriting [] answers, position, front⟩

end RecordCodec

/-- Whatever the calls and their order, the two writers overflow nowhere, the reader of
each codec reads exactly what its writer wrote, among any other bytes, and the writer
writes exactly what the reader read, unless the reader read a negative zero. The calls
that build a canonical record overflow nowhere either, and under the domain of an
identity they leave its header and their fields. -/
theorem sessions_exact :
    generationRecords.Inverse ∧ publicationRecords.Inverse ∧
    (∀ (domain : StdString) (calls : List CanonicalRecord.Call),
      CanonicalRecord.written domain calls = (CanonicalRecord.record domain calls).map some) ∧
    ∀ (domain : IdentityDomain) (calls : List CanonicalRecord.Call),
      ∃ size_lt, CanonicalRecord.written ⟨domain.canonicalDomain, size_lt⟩ calls =
        .ok (some (CanonicalRecord.header domain ++
          calls.flatMap CanonicalRecord.Call.bytes)) := by
  refine ⟨generationRecords.inverse, publicationRecords.inverse, CanonicalRecord.written_eq, ?_⟩
  intro domain calls
  have size_lt : domain.canonicalDomain.length < 2 ^ 64 := by cases domain <;> decide
  exact ⟨size_lt, CanonicalRecord.written_canonicalDomain domain calls size_lt⟩

end Pkgstate
