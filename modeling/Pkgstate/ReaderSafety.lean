import Pkgstate.Base.Consumed
import Pkgstate.Base.MachineReader
import Pkgstate.GenerationCodec
import Pkgstate.PublicationCodec

/-!
# The two record readers

The classes `reader` of the generation codec and of the publication codec, as the
machine runs them, under any sequence of their operations. The sizes and counts in a
record are whatever its bytes say.
-/

namespace Pkgstate

open Cpp Wire

/-! ## Operations -/

/-- The member functions of a reader that read. -/
inductive ReaderOperation
  | expect (expected : StdString) (label : Bytes)
  | u8 (label : Bytes)
  | u16 (label : Bytes)
  | u32 (label : Bytes)
  | u64 (label : Bytes)
  | i64 (label : Bytes)
  | boolean (label : Bytes)
  | bytes (label : Bytes)
  | count (label : Bytes)

namespace ReaderOperation

/-- What a member function returns. -/
abbrev Result : ReaderOperation → Type
  | .expect _ _ => Unit
  | .u8 _ => UInt8
  | .u16 _ => UInt16
  | .u32 _ => UInt32
  | .u64 _ => UInt64
  | .i64 _ => Int64
  | .boolean _ => Bool
  | .bytes _ => StdString
  | .count _ => UInt64

/-- How many bytes a success consumes. -/
def size : (operation : ReaderOperation) → operation.Result → Nat
  | .expect expected _, _ => expected.bytes.length
  | .u8 _, _ => 1
  | .u16 _, _ => 2
  | .u32 _, _ => 4
  | .u64 _, _ => 8
  | .i64 _, _ => 9
  | .boolean _, _ => 1
  | .bytes _, text => 8 + text.bytes.length
  | .count _, _ => 8

/-- What a result says about the consumed bytes and those behind them. -/
def Reads : (operation : ReaderOperation) → operation.Result → (consumed rest : Bytes) → Prop
  | .expect expected _, _, consumed, _ => consumed = expected.bytes
  | .u8 _, value, consumed, _ => consumed = [value]
  | .u16 _, value, consumed, _ => consumed = u16Bytes value
  | .u32 _, value, consumed, _ => consumed = u32Bytes value
  | .u64 _, value, consumed, _ => consumed = u64Bytes value
  | .i64 _, value, consumed, _ => ∃ negative magnitude,
      consumed = boolBytes negative ++ u64Bytes magnitude ∧
        value.toInt = signed negative magnitude
  | .boolean _, value, consumed, _ => consumed = boolBytes value
  | .bytes _, text, consumed, _ => consumed = stringBytes text.bytes
  | .count _, value, consumed, rest => consumed = u64Bytes value ∧ value.toNat ≤ rest.length

theorem Reads.length {operation : ReaderOperation} {result : operation.Result}
    {consumed rest : Bytes} (reads : operation.Reads result consumed rest) :
    consumed.length = operation.size result := by
  cases operation with
  | expect expected label => exact congrArg List.length reads
  | u8 label => exact congrArg List.length reads
  | u16 label => exact (congrArg List.length reads).trans (length_u16Bytes result)
  | u32 label => exact (congrArg List.length reads).trans (length_u32Bytes result)
  | u64 label => exact (congrArg List.length reads).trans (length_u64Bytes result)
  | i64 label =>
      obtain ⟨negative, magnitude, rfl, value⟩ := reads
      rw [List.length_append, length_u64Bytes]
      rfl
  | boolean label => exact congrArg List.length reads
  | bytes label =>
      have sizes := congrArg List.length reads
      rwa [stringBytes, List.length_append, length_u64Bytes] at sizes
  | count label => exact (congrArg List.length reads.1).trans (length_u64Bytes result)

end ReaderOperation

/-! ## Readers -/

/-- A class `reader`: how it fails, which of the functions it has, and its `count`. -/
structure ReaderClass where
  failures : ReaderFailures Failure
  offers : ReaderOperation → Bool
  count : Bytes → Machine Failure UInt64
  counts : ∀ label, Simulates (count label) (Reader.count failures label)

/-- `reader` of the generation codec. -/
def generationReader : ReaderClass where
  failures := generationFailures
  offers _ := true
  count := Machine.count generationFailures
  counts label := simulates_count generationFailures label rfl

/-- `reader` of the publication codec, which has neither `u32` nor `i64`. -/
def publicationReader : ReaderClass where
  failures := publicationFailures
  offers
    | .u32 _ | .i64 _ => false
    | _ => true
  count := Machine.boundedCount publicationFailures
  counts := simulates_boundedCount publicationFailures

/-- One successful operation of a run. -/
structure ReaderStep where
  operation : ReaderOperation
  before : View
  result : operation.Result
  after : View

namespace ReaderClass

variable (reader : ReaderClass)

/-- A function that the class has. -/
abbrev Operation : Type := { operation : ReaderOperation // reader.offers operation }

/-- Call a member function. -/
def perform : (operation : ReaderOperation) → Machine Failure operation.Result
  | .expect expected label => Machine.expect reader.failures expected label
  | .u8 label => Machine.u8 reader.failures label
  | .u16 label => Machine.u16 reader.failures label
  | .u32 label => Machine.u32 reader.failures label
  | .u64 label => Machine.u64 reader.failures label
  | .i64 label => Machine.i64 reader.failures label
  | .boolean label => Machine.boolean reader.failures label
  | .bytes label => Machine.bytes reader.failures label
  | .count label => reader.count label

/-- Call member functions one after another up to the first failure: what succeeded, and
what stopped the run. -/
def run : (operations : List reader.Operation) → View → List ReaderStep × Option (Stop Failure)
  | [], _ => ([], none)
  | operation :: operations, view =>
      match reader.perform operation.val view with
      | .error stop => ([], some stop)
      | .ok (result, after) =>
          match run operations after with
          | (steps, stop) => (⟨operation.val, view, result, after⟩ :: steps, stop)

/-- The same function of the decoder over natural numbers. -/
def decode : (operation : ReaderOperation) → Decoder Failure operation.Result
  | .expect expected label => Reader.expect reader.failures expected.bytes label
  | .u8 label => Reader.u8 reader.failures label
  | .u16 label => Reader.u16 reader.failures label
  | .u32 label => Reader.u32 reader.failures label
  | .u64 label => Reader.u64 reader.failures label
  | .i64 label => Reader.i64 reader.failures label
  | .boolean label => Reader.boolean reader.failures label
  | .bytes label => Reader.bytes reader.failures label
  | .count label => Reader.count reader.failures label

theorem simulates_perform (operation : ReaderOperation) :
    Simulates (reader.perform operation) (reader.decode operation) := by
  cases operation with
  | expect expected label => exact simulates_expect reader.failures expected label
  | u8 label => exact simulates_u8 reader.failures label
  | u16 label => exact simulates_u16 reader.failures label
  | u32 label => exact simulates_u32 reader.failures label
  | u64 label => exact simulates_u64 reader.failures label
  | i64 label => exact simulates_i64 reader.failures label
  | boolean label => exact simulates_boolean reader.failures label
  | bytes label => exact simulates_bytes reader.failures label
  | count label => exact reader.counts label

theorem consumes_decode (operation : ReaderOperation) :
    Consumes (reader.decode operation) operation.Reads := by
  cases operation with
  | expect expected label => exact consumes_expect reader.failures expected.bytes label
  | u8 label => exact consumes_u8 reader.failures label
  | u16 label => exact consumes_u16 reader.failures label
  | u32 label => exact consumes_u32 reader.failures label
  | u64 label => exact consumes_u64 reader.failures label
  | i64 label => exact consumes_i64 reader.failures label
  | boolean label => exact consumes_boolean reader.failures label
  | bytes label => exact consumes_bytes reader.failures label
  | count label => exact consumes_count reader.failures label

end ReaderClass

/-! ## Runs -/

/-- A success stayed in the record: its position advanced by exactly what the operation
consumed, and the result is what those bytes say. -/
structure ReaderStep.Sound (record : StdString) (step : ReaderStep) : Prop where
  record_before : step.before.bytes = record
  record_after : step.after.bytes = record
  inside : step.after.position.toNat ≤ record.bytes.length
  advanced : step.after.position.toNat =
    step.before.position.toNat + step.operation.size step.result
  reads : step.operation.Reads step.result
    ((record.bytes.drop step.before.position.toNat).take (step.operation.size step.result))
    (record.bytes.drop step.after.position.toNat)

/-- Only the reader itself stops a run, still in the record: no size wrapped and no index
was outside. -/
def RefusedInside (record : StdString) (stop : Stop Failure) : Prop :=
  ∃ failure view, stop = .refused failure view ∧ view.bytes = record ∧
    view.position.toNat ≤ record.bytes.length

namespace ReaderClass

variable (reader : ReaderClass)

/-- One call. -/
theorem perform_sound (operation : ReaderOperation) {view : View} (within : view.Within) :
    (∀ result after, reader.perform operation view = .ok (result, after) → after.Within ∧
      ReaderStep.Sound view.bytes ⟨operation, view, result, after⟩) ∧
    ∀ stop, reader.perform operation view = .error stop → RefusedInside view.bytes stop := by
  have simulated := reader.simulates_perform operation view within
  constructor
  · intro result after ran
    rw [ran] at simulated
    obtain ⟨kept, laterWithin, decoded⟩ := simulated
    obtain ⟨consumed, rest, unread, moved, reads⟩ :=
      reader.consumes_decode operation view.cursor result after.cursor within decoded
    have length := reads.length
    have advanced : after.position.toNat = view.position.toNat + operation.size result := by
      rw [← length]
      exact congrArg Cursor.position moved
    obtain ⟨_, behind⟩ := drop_consumed within unread
    refine ⟨laterWithin, rfl, kept, ?_, advanced, ?_⟩
    · rw [← kept]
      exact laterWithin
    · change operation.Reads result ((view.bytes.bytes.drop view.position.toNat).take _)
        (view.bytes.bytes.drop after.position.toNat)
      have taken : (view.bytes.bytes.drop view.position.toNat).take (operation.size result) =
          consumed := by
        change (view.cursor.bytes.drop view.cursor.position).take _ = _
        rw [unread, ← length, List.take_left]
      rw [taken, advanced, ← length]
      exact behind ▸ reads
  · intro stop ran
    rw [ran] at simulated
    cases stop with
    | refused failure later =>
        obtain ⟨kept, laterWithin, _⟩ := simulated
        exact ⟨failure, later, rfl, kept, kept ▸ laterWithin⟩
    | wrapped => exact simulated.elim
    | outside => exact simulated.elim

/-- Every call of a run. -/
theorem run_sound (operations : List reader.Operation) {view : View} (within : view.Within) :
    (∀ step ∈ (reader.run operations view).1, ReaderStep.Sound view.bytes step) ∧
      ∀ stop, (reader.run operations view).2 = some stop → RefusedInside view.bytes stop := by
  induction operations generalizing view with
  | nil => exact ⟨fun _ member => (List.not_mem_nil member).elim, fun _ none => nomatch none⟩
  | cons operation operations ih =>
      obtain ⟨succeeds, fails⟩ := reader.perform_sound operation.val within
      rw [run]
      cases performed : reader.perform operation.val view with
      | error stop =>
          refine ⟨fun _ member => (List.not_mem_nil member).elim, ?_⟩
          rintro _ ⟨⟩
          exact fails stop performed
      | ok step =>
          obtain ⟨result, after⟩ := step
          obtain ⟨laterWithin, sound⟩ := succeeds result after performed
          obtain ⟨steps, stops⟩ := ih laterWithin
          have same : after.bytes = view.bytes := sound.record_after
          rw [same] at steps stops
          refine ⟨?_, stops⟩
          rintro step (_ | ⟨_, member⟩)
          · exact sound
          · exact steps step member

/-- The reader is safe on every record under every sequence of its operations. -/
def Safe : Prop :=
  ∀ (record : StdString) (operations : List reader.Operation),
    (∀ step ∈ (reader.run operations ⟨record, 0⟩).1, ReaderStep.Sound record step) ∧
      ∀ stop, (reader.run operations ⟨record, 0⟩).2 = some stop →
        RefusedInside record stop

end ReaderClass

/-- Neither reader leaves its record, whatever the record says. -/
theorem readers_safe : generationReader.Safe ∧ publicationReader.Safe := by
  have started : ∀ record : StdString, View.Within ⟨record, 0⟩ := fun record => Nat.zero_le _
  exact ⟨fun record operations => generationReader.run_sound operations (started record),
    fun record operations => publicationReader.run_sound operations (started record)⟩

-- The greatest length is refused behind its eight bytes.
example : (publicationReader.run [⟨.bytes (ascii "text"), rfl⟩]
    ⟨⟨List.replicate 8 255, by decide⟩, 0⟩).2 =
      some (.refused (codecError .truncated (ascii "text length exceeds record"))
        ⟨⟨List.replicate 8 255, by decide⟩, 8⟩) := by
  rfl

end Pkgstate
