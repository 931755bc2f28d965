import Pkgstate.Base.Decoder

/-!
# What a computation may fail with

`FailsOnly allowed result` says that `result` is a value or an allowed error.
`Confined allowed decoder` says it of a decoder at every cursor inside a record,
which it never leaves. Both hold of a computation when they hold of its steps.

The primitive reads are confined to their declared failures: each requires the
bytes that it takes, so none of them gets past the end of the record.
-/

namespace Wire

open Cpp Keyed

variable {ε α β : Type} {allowed : ε → Prop}

/-- How a computation may end: in a value of `ensured`, or in an allowed error. -/
def Ends (allowed : ε → Prop) (ensured : α → Prop) : Except ε α → Prop
  | .ok value => ensured value
  | .error failure => allowed failure

/-- A computation whose errors are all allowed. -/
abbrev FailsOnly (allowed : ε → Prop) (result : Except ε α) : Prop :=
  Ends allowed (fun _ => True) result

theorem Ends.bind {ensured : α → Prop} {after : β → Prop} {first : Except ε α}
    {next : α → Except ε β} (head : Ends allowed ensured first)
    (tail : ∀ value, ensured value → Ends allowed after (next value)) :
    Ends allowed after (first >>= next) := by
  cases first with
  | error failure => exact head
  | ok value => exact tail value head

namespace FailsOnly

theorem of_error {result : Except ε α} {failure : ε} (fails : FailsOnly allowed result)
    (failed : result = .error failure) : allowed failure := by
  rw [failed] at fails
  exact fails

/-- A computation that returned, or failed with an allowed error. -/
theorem ok_or_error {result : Except ε α} (fails : FailsOnly allowed result) :
    (∃ value, result = .ok value) ∨ ∃ failure, allowed failure ∧ result = .error failure := by
  cases result with
  | ok value => exact Or.inl ⟨value, rfl⟩
  | error failure => exact Or.inr ⟨failure, fails, rfl⟩

theorem mono {more : ε → Prop} {result : Except ε α} (fails : FailsOnly allowed result)
    (weaken : ∀ failure, allowed failure → more failure) : FailsOnly more result := by
  cases result with
  | ok value => trivial
  | error failure => exact weaken failure fails

theorem bind {first : Except ε α} {next : α → Except ε β} (head : FailsOnly allowed first)
    (tail : ∀ value, FailsOnly allowed (next value)) : FailsOnly allowed (first >>= next) :=
  Ends.bind head fun value _ => tail value

theorem ite {condition : Prop} [Decidable condition] {first second : Except ε α}
    (positive : FailsOnly allowed first) (negative : FailsOnly allowed second) :
    FailsOnly allowed (if condition then first else second) := by
  split
  · exact positive
  · exact negative

theorem dite {condition : Prop} [Decidable condition] {first : condition → Except ε α}
    {second : ¬ condition → Except ε α} (positive : ∀ holds, FailsOnly allowed (first holds))
    (negative : ∀ fails, FailsOnly allowed (second fails)) :
    FailsOnly allowed (if holds : condition then first holds else second holds) := by
  split
  · exact positive _
  · exact negative _

theorem declared [ByteEnum α] {failure : ε} (byte : UInt8) (refused : allowed failure) :
    FailsOnly allowed (ByteEnum.declared failure byte : Except ε α) := by
  unfold ByteEnum.declared
  split
  · trivial
  · exact refused

theorem checked {check : Except ε Unit} {build : check = .ok () → α}
    (fails : FailsOnly allowed check) : FailsOnly allowed (checked check build) := by
  cases check with
  | ok passed => trivial
  | error failure => exact fails

theorem sortDistinct {κ : Type} [Less κ] [StrictTotal κ] [DecidableEq κ] {key : α → κ}
    {comp : α → α → Bool} {refines : Refines comp key} {duplicate : α → ε}
    {values : StdVector α}
    {next : (sorted : SortedVector key) → sorted.toList.Perm values.toList → Except ε β}
    (refused : ∀ value, allowed (duplicate value))
    (rest : ∀ sorted arranged, FailsOnly allowed (next sorted arranged)) :
    FailsOnly allowed (sortDistinct refines duplicate values next) := by
  unfold Keyed.sortDistinct
  split
  · exact refused _
  · exact rest _ _

end FailsOnly

/-! ## Decoders -/

/-- The next unread byte is in the record or right behind it. -/
def Cursor.Within (cursor : Cursor) : Prop :=
  cursor.position ≤ cursor.bytes.length

/-- From inside a record, `decoder` stays inside it or fails with an allowed error. -/
def Confined (allowed : ε → Prop) (decoder : Decoder ε α) : Prop :=
  ∀ cursor : Cursor, cursor.Within → Ends allowed (fun step => step.2.Within) (decoder cursor)

namespace Confined

variable {decoder : Decoder ε α} {next : α → Decoder ε β}

theorem bind (head : Confined allowed decoder) (tail : ∀ value, Confined allowed (next value)) :
    Confined allowed (decoder >>= next) := by
  intro cursor within
  exact (head cursor within).bind fun step kept => tail step.1 step.2 kept

theorem pure (value : α) : Confined allowed (Pure.pure value : Decoder ε α) :=
  fun _ within => within

theorem fail {failure : ε} (refused : allowed failure) :
    Confined allowed (Reader.fail failure : Decoder ε α) :=
  fun _ _ => refused

theorem lift {value : Except ε α} (fails : FailsOnly allowed value) :
    Confined allowed (Reader.lift value) := by
  intro cursor within
  cases value with
  | ok value => exact within
  | error failure => exact fails

theorem ite {condition : Prop} [Decidable condition] {first second : Decoder ε α}
    (positive : Confined allowed first) (negative : Confined allowed second) :
    Confined allowed (if condition then first else second) := by
  split
  · exact positive
  · exact negative

theorem times (each : Confined allowed decoder) (count : Nat) :
    Confined allowed (Reader.times decoder count) := by
  induction count with
  | zero => exact pure _
  | succ count ih =>
      apply each.bind
      intro value
      exact ih.bind fun rest => pure _

/-- A record is read from its start. -/
theorem run (confined : Confined allowed decoder) (bytes : Bytes) :
    FailsOnly allowed (decoder ⟨bytes, 0⟩) := by
  have started : Cursor.Within ⟨bytes, 0⟩ := Nat.zero_le _
  have ended := confined _ started
  cases ran : decoder ⟨bytes, 0⟩ with
  | ok step => trivial
  | error failure =>
      rw [ran] at ended
      exact ended

end Confined

/-! ## Primitive reads -/

/-- Every failure that a reader declares is allowed. -/
structure ReaderFailures.Allowed (failures : ReaderFailures ε) (allowed : ε → Prop) : Prop where
  truncated (label : Bytes) : allowed (failures.truncated label)
  mismatch (label : Bytes) : allowed (failures.mismatch label)
  invalid (label : Bytes) : allowed (failures.invalid label)
  overlong (label : Bytes) : allowed (failures.overlong label)
  implausible (label : Bytes) : allowed (failures.implausible label)
  trailing : allowed failures.trailing

/-- Bytes inside a record are there to be read. -/
theorem bytesAt_eq (failures : ReaderFailures ε) {bytes : Bytes} {start size : Nat}
    (within : start + size ≤ bytes.length) :
    Reader.bytesAt failures bytes start size = .ok ((bytes.drop start).take size) := by
  induction size generalizing start with
  | zero => rfl
  | succ size ih =>
      have inside : start < bytes.length := by omega
      rw [Reader.bytesAt, List.getElem?_eq_getElem inside,
        ih (show start + 1 + size ≤ bytes.length by omega), List.drop_eq_getElem_cons inside]
      rfl

section Primitives

variable {failures : ReaderFailures ε} (permits : failures.Allowed allowed)

include permits

/-- What has been required can be taken. -/
theorem confined_required {size : Nat} (label : Bytes) {next : Bytes → Decoder ε α}
    (rest : ∀ bytes, Confined allowed (next bytes)) :
    Confined allowed (do
      Reader.require failures size label
      let bytes ← Reader.take failures size
      next bytes) := by
  intro cursor within
  change Ends _ _ (Reader.require failures size label cursor >>= fun step =>
    Reader.take failures size step.2 >>= fun step => next step.1 step.2)
  unfold Reader.require Cursor.remaining
  split
  · exact permits.truncated label
  · next enough =>
      have room : cursor.position + size ≤ cursor.bytes.length := by
        have started : cursor.position ≤ cursor.bytes.length := within
        omega
      change Ends _ _ (Reader.take failures size cursor >>= _)
      rw [Reader.take, bytesAt_eq failures room]
      exact rest _ _ room

theorem confined_expect (expected label : Bytes) :
    Confined allowed (Reader.expect failures expected label) := by
  apply confined_required permits
  intro actual
  exact .ite (.pure _) (.fail (permits.mismatch label))

theorem confined_unsigned (size : Nat) (label : Bytes) :
    Confined allowed (Reader.unsigned failures size label) := by
  apply confined_required permits
  intro bytes
  exact .pure _

theorem confined_u8 (label : Bytes) : Confined allowed (Reader.u8 failures label) :=
  (confined_unsigned permits 1 label).bind fun _ => .pure _

theorem confined_u16 (label : Bytes) : Confined allowed (Reader.u16 failures label) :=
  (confined_unsigned permits 2 label).bind fun _ => .pure _

theorem confined_u32 (label : Bytes) : Confined allowed (Reader.u32 failures label) :=
  (confined_unsigned permits 4 label).bind fun _ => .pure _

theorem confined_u64 (label : Bytes) : Confined allowed (Reader.u64 failures label) :=
  (confined_unsigned permits 8 label).bind fun _ => .pure _

theorem confined_boolean (label : Bytes) : Confined allowed (Reader.boolean failures label) := by
  apply (confined_u8 permits label).bind
  intro value
  exact .ite (.fail (permits.invalid label)) (.pure _)

theorem confined_i64 (label : Bytes) : Confined allowed (Reader.i64 failures label) := by
  apply (confined_boolean permits label).bind
  intro negative
  apply (confined_u64 permits label).bind
  intro magnitude
  exact .ite (.fail (permits.invalid label)) (.ite (.pure _) (.ite (.pure _) (.pure _)))

/-- A length that fits into the rest of the record leads no further than its end. -/
theorem confined_bytes (label : Bytes) : Confined allowed (Reader.bytes failures label) := by
  apply (confined_u64 permits label).bind
  intro size cursor within
  change Ends _ _ ((if size.toNat > cursor.remaining ∨ size.toNat > sizeMax then
    Reader.fail (failures.overlong label) else Reader.substr failures size :
      Decoder ε StdString) cursor)
  split
  · exact permits.overlong label
  · next fits =>
      have started : cursor.position ≤ cursor.bytes.length := within
      have room := (not_or.mp fits).1
      rw [Reader.substr, if_neg (by omega)]
      change cursor.position + size.toNat ≤ cursor.bytes.length
      unfold Cursor.remaining at room
      omega

theorem confined_count (label : Bytes) : Confined allowed (Reader.count failures label) := by
  apply (confined_u64 permits label).bind
  intro value cursor within
  change Ends _ _ ((if value.toNat > failures.maximumCount ∨ value.toNat > cursor.remaining then
    Reader.fail (failures.implausible label) else Pure.pure value : Decoder ε UInt64) cursor)
  split
  · exact permits.implausible label
  · exact within

theorem confined_finish : Confined allowed (Reader.finish failures) := by
  intro cursor within
  unfold Reader.finish
  split
  · exact permits.trailing
  · exact within

theorem confined_counted (label : Bytes) {decoder : Decoder ε α}
    (each : Confined allowed decoder) :
    Confined allowed (Reader.counted failures label decoder) := by
  apply (confined_count permits label).bind
  intro size
  exact (each.times size.toNat).bind fun values => .pure _

theorem confined_optional (label : Bytes) {decoder : Decoder ε α}
    (each : Confined allowed decoder) :
    Confined allowed (Reader.optional failures label decoder) := by
  apply (confined_boolean permits label).bind
  intro present
  exact .ite (each.bind fun value => .pure _) (.pure _)

end Primitives

end Wire
