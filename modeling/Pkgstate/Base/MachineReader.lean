import Pkgstate.Base.Confined

/-!
# The reader over machine integers

The functions of a length-checked binary reader as the machine computes them: the
position and all sizes are 64-bit integers, a sum or a difference of sizes that
would wrap stops the run, and so does an index that is not below the size of the
record. `Simulates machine decoder` says that neither ever happens and that the
machine does what the decoder over natural numbers does; it composes along `>>=`.
-/

namespace Wire

open Cpp

/-! ## Runs -/

/-- The members `bytes_` and `position_`. -/
structure View where
  bytes : StdString
  position : UInt64

/-- Why a run stops: a size computation wrapped, an index was outside the record, or
the reader, standing where it then is, refused the record. -/
inductive Stop (ε : Type)
  | wrapped
  | outside
  | refused (failure : ε) (view : View)

/-- `bytes_.size()`. -/
def View.size (view : View) : UInt64 := view.bytes.bytes.length.toUInt64

/-- What the decoder over natural numbers sees of the reader. -/
def View.cursor (view : View) : Cursor := ⟨view.bytes.bytes, view.position.toNat⟩

/-- A reader that may stop. -/
abbrev Machine (ε α : Type) := StateT View (Except (Stop ε)) α

namespace Machine

variable {ε α β : Type}

/-- The sum of two sizes. -/
def plus (left right : UInt64) : Except (Stop ε) UInt64 :=
  if left.toNat + right.toNat < 2 ^ 64 then .ok (left + right) else .error .wrapped

/-- The difference of two sizes. -/
def minus (left right : UInt64) : Except (Stop ε) UInt64 :=
  if right.toNat ≤ left.toNat then .ok (left - right) else .error .wrapped

/-- `bytes_[index]`. -/
def byteAt (view : View) (index : UInt64) : Except (Stop ε) UInt8 :=
  match view.bytes.bytes[index.toNat]? with
  | some byte => .ok byte
  | none => .error .outside

/-- `fail`. -/
def refuse (failure : ε) : Machine ε α := fun view => .error (.refused failure view)

/-- An expression that reads bytes and leaves the position alone. -/
def look (read : View → Except (Stop ε) α) : Machine ε α := fun view => do
  let value ← read view
  pure (value, view)

/-- `remaining()`. -/
def remaining : Machine ε UInt64 := fun view => do
  let left ← minus view.size view.position
  pure (left, view)

/-- `position_ += size`. -/
def advance (size : UInt64) : Machine ε Unit := fun view => do
  let position ← plus view.position size
  pure ((), { view with position })

section Primitives

variable (failures : ReaderFailures ε)

/-- `require(size, label)`. -/
def require (size : UInt64) (label : Bytes) : Machine ε Unit := do
  let left ← remaining
  if size > left then refuse (failures.truncated label) else pure ()

/-- `std::equal(expected.begin(), expected.end(), actual)`, from an index on. -/
def equalAt (view : View) : (expected : Bytes) → (index : UInt64) → Except (Stop ε) Bool
  | [], _ => .ok true
  | byte :: expected, index => do
      let place ← plus view.position index
      let actual ← byteAt view place
      if byte = actual then
        let next ← plus index 1
        equalAt view expected next
      else .ok false

/-- `expect(expected, label)`. -/
def expect (expected : StdString) (label : Bytes) : Machine ε Unit := do
  require failures expected.bytes.length.toUInt64 label
  let same ← look fun view => equalAt view expected.bytes 0
  if same then advance expected.bytes.length.toUInt64 else refuse (failures.mismatch label)

/-- `u8(label)`. -/
def u8 (label : Bytes) : Machine ε UInt8 := do
  require failures 1 label
  let byte ← look fun view => byteAt view view.position
  advance 1
  pure byte

/-- `u16(label)`. -/
def u16 (label : Bytes) : Machine ε UInt16 := do
  require failures 2 label
  let result ← look fun view => do
    let high ← byteAt view view.position
    let next ← plus view.position 1
    let low ← byteAt view next
    pure ((high.toUInt16 <<< 8) ||| low.toUInt16)
  advance 2
  pure result

/-- The loop `for (index = 0; index < size; ++index)` over `bytes_[position_ + index]`. -/
def fold (step : β → UInt8 → β) (view : View) :
    (count : Nat) → (index : UInt64) → (result : β) → Except (Stop ε) β
  | 0, _, result => .ok result
  | count + 1, index, result => do
      let place ← plus view.position index
      let byte ← byteAt view place
      let next ← plus index 1
      fold step view count next (step result byte)

/-- A big-endian integer that a loop accumulates. -/
def accumulate (step : β → UInt8 → β) (start : β) (size : UInt64) (label : Bytes) :
    Machine ε β := do
  require failures size label
  let result ← look fun view => fold step view size.toNat 0 start
  advance size
  pure result

/-- `u32(label)`. -/
def u32 (label : Bytes) : Machine ε UInt32 :=
  accumulate failures (fun result byte => (result <<< 8) ||| byte.toUInt32) 0 4 label

/-- `u64(label)`. -/
def u64 (label : Bytes) : Machine ε UInt64 :=
  accumulate failures (fun result byte => (result <<< 8) ||| byte.toUInt64) 0 8 label

/-- `boolean(label)`. -/
def boolean (label : Bytes) : Machine ε Bool := do
  let value ← u8 failures label
  if value > 1 then refuse (failures.invalid label) else pure (value == 1)

/-- `i64(label)`. -/
def i64 (label : Bytes) : Machine ε Int64 := do
  let negative ← boolean failures label
  let magnitude ← u64 failures label
  let limit : UInt64 := 9223372036854775807 + (if negative then 1 else 0)
  if magnitude > limit then refuse (failures.invalid label)
  else if negative = false then pure magnitude.toInt64
  else if magnitude = limit then pure Int64.minValue
  else pure (-magnitude.toInt64)

/-- `bytes_.substr(position_, size)`, which takes no more than there is. -/
def substr (size : UInt64) : Machine ε StdString := fun view =>
  if view.size < view.position then .error .outside
  else .ok (⟨(view.bytes.bytes.drop view.position.toNat).take size.toNat,
    Nat.lt_of_le_of_lt (List.length_take_le _ _) size.toNat_lt⟩, view)

/-- `bytes(label)`. -/
def bytes (label : Bytes) : Machine ε StdString := do
  let size ← u64 failures label
  let left ← remaining
  if size > left ∨ size.toNat > sizeMax then refuse (failures.overlong label)
  else do
    let result ← substr size
    advance size
    pure result

/-- `count(label)` with a bound of its own, which is compared first. -/
def boundedCount (label : Bytes) : Machine ε UInt64 := do
  let value ← u64 failures label
  if value.toNat > failures.maximumCount then refuse (failures.implausible label)
  else do
    let left ← remaining
    if value > left then refuse (failures.implausible label) else pure value

/-- `count(label)` without one: what a `std::size_t` holds is the bound. -/
def count (label : Bytes) : Machine ε UInt64 := do
  let value ← u64 failures label
  let left ← remaining
  if value > left ∨ value.toNat > sizeMax then refuse (failures.implausible label)
  else pure value

end Primitives

end Machine

/-! ## Simulation -/

/-- The position is in the record or right behind it. -/
def View.Within (view : View) : Prop := view.cursor.Within

/-- The machine ended as the decoder did, and neither wrapped nor left the record. -/
def Matches {ε α : Type} (record : StdString) :
    Except (Stop ε) (α × View) → Except ε (α × Cursor) → Prop
  | .ok (value, view), expected =>
      view.bytes = record ∧ view.Within ∧ expected = .ok (value, view.cursor)
  | .error (.refused failure view), expected =>
      view.bytes = record ∧ view.Within ∧ expected = .error failure
  | .error _, _ => False

/-- From inside a record the machine does what the decoder does. -/
def Simulates {ε α : Type} (machine : Machine ε α) (decoder : Decoder ε α) : Prop :=
  ∀ view : View, view.Within → Matches view.bytes (machine view) (decoder view.cursor)

section Simulation

variable {ε α β : Type} {machine : Machine ε α} {decoder : Decoder ε α}

theorem Matches.bind {record : StdString} {first : Except (Stop ε) (α × View)}
    {firstDecoded : Except ε (α × Cursor)} {next : α × View → Except (Stop ε) (β × View)}
    {nextDecoded : α × Cursor → Except ε (β × Cursor)}
    (head : Matches record first firstDecoded)
    (tail : ∀ value view, view.bytes = record → view.Within →
      Matches record (next (value, view)) (nextDecoded (value, view.cursor))) :
    Matches record (first >>= next) (firstDecoded >>= nextDecoded) := by
  cases first with
  | ok step =>
      obtain ⟨kept, within, rfl⟩ := head
      exact tail step.1 step.2 kept within
  | error stop =>
      cases stop with
      | refused failure view =>
          obtain ⟨kept, within, rfl⟩ := head
          exact ⟨kept, within, rfl⟩
      | wrapped => exact head.elim
      | outside => exact head.elim

theorem Simulates.bind {next : α → Machine ε β} {nextDecoder : α → Decoder ε β}
    (head : Simulates machine decoder)
    (tail : ∀ value, Simulates (next value) (nextDecoder value)) :
    Simulates (machine >>= next) (decoder >>= nextDecoder) := by
  intro view within
  apply (head view within).bind
  intro value later kept laterWithin
  exact kept ▸ tail value later laterWithin

theorem Simulates.pure (value : α) :
    Simulates (Pure.pure value : Machine ε α) (Pure.pure value) :=
  fun _ within => ⟨rfl, within, rfl⟩

theorem Simulates.refuse (failure : ε) :
    Simulates (Machine.refuse failure : Machine ε α) (Reader.fail failure) :=
  fun _ within => ⟨rfl, within, rfl⟩

theorem Simulates.ite {condition : Prop} [Decidable condition] {other : Machine ε α}
    {otherDecoder : Decoder ε α} (positive : Simulates machine decoder)
    (negative : Simulates other otherDecoder) :
    Simulates (if condition then machine else other)
      (if condition then decoder else otherDecoder) := by
  split
  · exact positive
  · exact negative

/-! ### Known encodings -/

/-- The reader stands in front of `text`. -/
def View.InFront (view : View) (text : Bytes) : Prop :=
  text <+: view.bytes.bytes.drop view.position.toNat

/-- What stands in front of a cursor stands between what was read and the rest. -/
theorem Cursor.inFront (cursor : Cursor) {text : Bytes}
    (standing : text <+: cursor.bytes.drop cursor.position) (some : text ≠ []) :
    cursor.Within ∧ ∃ before after, cursor = ⟨before ++ (text ++ after), before.length⟩ := by
  obtain ⟨after, rest⟩ := standing
  have positive := List.length_pos_iff.mpr some
  have sizes := congrArg List.length rest
  rw [List.length_append, List.length_drop] at sizes
  have inside : cursor.position ≤ cursor.bytes.length := by omega
  refine ⟨inside, cursor.bytes.take cursor.position, after, ?_⟩
  rw [rest, List.take_append_drop, List.length_take, Nat.min_eq_left inside]

/-- In front of what the decoder reads, the machine reads it. -/
theorem Simulates.decodes (simulates : Simulates machine decoder) {text : Bytes} {value : α}
    (decodes : Decodes decoder text value) {view : View} (standing : view.InFront text)
    (some : text ≠ []) :
    ∃ after, machine view = .ok (value, after) ∧ after.bytes = view.bytes ∧
      after.position.toNat = view.position.toNat + text.length := by
  obtain ⟨within, before, after, place⟩ := view.cursor.inFront standing some
  have simulated := simulates view within
  rw [place, decodes before after] at simulated
  cases ran : machine view with
  | ok step =>
      rw [ran] at simulated
      obtain ⟨kept, _, same⟩ := simulated
      cases step
      obtain ⟨rfl, moved⟩ := Prod.ext_iff.mp (Except.ok.inj same)
      have length : view.position.toNat = before.length := congrArg Cursor.position place
      exact ⟨_, rfl, kept, length ▸ (congrArg Cursor.position moved).symm⟩
  | error stop =>
      rw [ran] at simulated
      cases stop with
      | refused failure view => cases simulated.2.2
      | wrapped => exact simulated.elim
      | outside => exact simulated.elim

/-- In front of what the decoder refuses, the machine refuses it. -/
theorem Simulates.refuses (simulates : Simulates machine decoder) {text : Bytes} {failure : ε}
    (refuses : Refuses decoder text failure) {view : View} (standing : view.InFront text)
    (some : text ≠ []) : ∃ after, machine view = .error (.refused failure after) := by
  obtain ⟨within, before, after, place⟩ := view.cursor.inFront standing some
  have simulated := simulates view within
  rw [place, refuses before after] at simulated
  cases ran : machine view with
  | ok step =>
      rw [ran] at simulated
      cases simulated.2.2
  | error stop =>
      rw [ran] at simulated
      cases stop with
      | refused other view =>
          cases simulated.2.2
          exact ⟨view, rfl⟩
      | wrapped => exact simulated.elim
      | outside => exact simulated.elim

/-! ### The primitive steps -/

theorem View.size_toNat (view : View) : view.size.toNat = view.bytes.bytes.length :=
  toNat_length_toUInt64 view.bytes.size_lt

/-- Inside a record the rest is a difference that does not wrap. -/
theorem remaining_eq {view : View} (within : view.Within) :
    ∃ left : UInt64, (Machine.remaining view : Except (Stop ε) _) = .ok (left, view) ∧
      left.toNat = view.cursor.remaining := by
  have size := view.size_toNat
  have inside : view.position.toNat ≤ view.bytes.bytes.length := within
  have fits : view.position.toNat ≤ view.size.toNat := by omega
  refine ⟨view.size - view.position, ?_, ?_⟩
  · rw [Machine.remaining, Machine.minus, if_pos fits]
    rfl
  · rw [UInt64.toNat_sub_of_le _ _ (UInt64.le_iff_toNat_le.mpr fits), size]
    rfl

theorem plus_eq {left right : UInt64} (fits : left.toNat + right.toNat < 2 ^ 64) :
    (Machine.plus left right : Except (Stop ε) UInt64) = .ok (left + right) ∧
      (left + right).toNat = left.toNat + right.toNat := by
  refine ⟨if_pos fits, ?_⟩
  rw [UInt64.toNat_add, Nat.mod_eq_of_lt fits]

theorem byteAt_eq {view : View} {index : UInt64} (below : index.toNat < view.bytes.bytes.length) :
    (Machine.byteAt view index : Except (Stop ε) UInt8) =
      .ok view.bytes.bytes[index.toNat] := by
  rw [Machine.byteAt, List.getElem?_eq_getElem below]

/-- One round of a loop over `bytes_[position_ + index]`. -/
theorem round_eq {view : View} {index : UInt64}
    (inside : view.position.toNat + index.toNat < view.bytes.bytes.length) :
    (Machine.plus view.position index : Except (Stop ε) _) = .ok (view.position + index) ∧
      (Machine.byteAt view (view.position + index) : Except (Stop ε) _) =
        .ok view.bytes.bytes[view.position.toNat + index.toNat] ∧
      (Machine.plus index 1 : Except (Stop ε) _) = .ok (index + 1) ∧
      (index + 1).toNat = index.toNat + 1 := by
  have bound := view.bytes.size_lt
  have one : (1 : UInt64).toNat = 1 := rfl
  obtain ⟨place, placed⟩ : (Machine.plus view.position index : Except (Stop ε) _) = _ ∧ _ :=
    plus_eq (by omega)
  obtain ⟨later, stepped⟩ : (Machine.plus index 1 : Except (Stop ε) _) = _ ∧ _ :=
    plus_eq (by omega)
  refine ⟨place, ?_, later, stepped⟩
  rw [byteAt_eq (by omega)]
  simp only [placed]

/-- So many bytes are left behind the position. -/
def View.Room (view : View) (size : UInt64) : Prop :=
  view.position.toNat + size.toNat ≤ view.bytes.bytes.length

theorem View.Room.within {view : View} {size : UInt64} (room : view.Room size) : view.Within :=
  Nat.le_trans (Nat.le_add_right _ _) room

/-- The next `size` bytes. -/
def View.next (view : View) (size : UInt64) : Bytes :=
  (view.bytes.bytes.drop view.position.toNat).take size.toNat

/-- Where there is room the position moves on without wrapping. -/
theorem advance_eq {view : View} {size : UInt64} (room : view.Room size) :
    ∃ moved : View, (Machine.advance size view : Except (Stop ε) _) = .ok ((), moved) ∧
      moved.bytes = view.bytes ∧ moved.Within ∧
      moved.cursor = ⟨view.bytes.bytes, view.position.toNat + size.toNat⟩ := by
  have bound := view.bytes.size_lt
  have ended : view.position.toNat + size.toNat ≤ view.bytes.bytes.length := room
  obtain ⟨sum, value⟩ : (Machine.plus view.position size : Except (Stop ε) UInt64) = _ ∧ _ :=
    plus_eq (by omega)
  have place : (View.mk view.bytes (view.position + size)).cursor =
      ⟨view.bytes.bytes, view.position.toNat + size.toNat⟩ := by
    rw [View.cursor, value]
  refine ⟨{ view with position := view.position + size }, ?_, rfl, ?_, place⟩
  · rw [Machine.advance, sum]
    rfl
  · rw [View.Within, place]
    exact room

section Primitives

variable (failures : ReaderFailures ε)

theorem take_eq {view : View} {size : UInt64} (room : view.Room size) :
    Reader.take failures size.toNat view.cursor =
      .ok (view.next size, ⟨view.bytes.bytes, view.position.toNat + size.toNat⟩) := by
  rw [Reader.take]
  have read : Reader.bytesAt failures view.cursor.bytes view.cursor.position size.toNat =
      .ok (view.next size) := bytesAt_eq failures room
  rw [read]
  rfl

/-- `require` leaves room behind it. -/
theorem simulates_require (size : UInt64) (label : Bytes) {next : Machine ε α}
    {nextDecoder : Decoder ε α}
    (rest : ∀ view : View, view.Room size → Matches view.bytes (next view) (nextDecoder view.cursor)) :
    Simulates (Machine.require failures size label >>= fun _ => next)
      (Reader.require failures size.toNat label >>= fun _ => nextDecoder) := by
  intro view within
  obtain ⟨left, known, value⟩ : ∃ left, (Machine.remaining view : Except (Stop ε) _) = _ ∧ _ :=
    remaining_eq within
  change Matches _ ((Machine.remaining view >>= fun step => (if size > step.1 then
    Machine.refuse (failures.truncated label) else Pure.pure () : Machine ε Unit) step.2) >>=
      fun step => next step.2)
    (Reader.require failures size.toNat label view.cursor >>= fun step => nextDecoder step.2)
  rw [known, Reader.require]
  change Matches _ ((if size > left then
    Machine.refuse (failures.truncated label) else Pure.pure () : Machine ε Unit) view >>= _) _
  by_cases short : size > left
  · have short' : size.toNat > view.cursor.remaining := value ▸ UInt64.lt_iff_toNat_lt.mp short
    rw [if_pos short, if_pos short']
    exact ⟨rfl, within, rfl⟩
  · have enough : ¬ size.toNat > view.cursor.remaining :=
      value ▸ mt UInt64.lt_iff_toNat_lt.mpr short
    rw [if_neg short, if_neg enough]
    apply rest view
    have inside : view.position.toNat ≤ view.bytes.bytes.length := within
    have fits : ¬ size.toNat > view.bytes.bytes.length - view.position.toNat := enough
    unfold View.Room
    omega

/-- A required number of bytes, read in place and stepped over. -/
theorem simulates_required (size : UInt64) (label : Bytes) {read : View → Except (Stop ε) α}
    {decode : Bytes → α}
    (reads : ∀ view : View, view.Room size → read view = .ok (decode (view.next size))) :
    Simulates (do
        Machine.require failures size label
        let value ← Machine.look read
        Machine.advance size
        Pure.pure value)
      (do
        Reader.require failures size.toNat label
        let bytes ← Reader.take failures size.toNat
        Pure.pure (decode bytes)) := by
  apply simulates_require
  intro view room
  obtain ⟨moved, advanced, kept, within, place⟩ :
      ∃ moved, (Machine.advance size view : Except (Stop ε) _) = .ok ((), moved) ∧ _ :=
    advance_eq room
  change Matches _ ((read view >>= fun value => .ok (value, view)) >>= fun step =>
      (Machine.advance size step.2 >>= fun later => .ok (step.1, later.2)))
    (Reader.take failures size.toNat view.cursor >>= fun step => .ok (decode step.1, step.2))
  rw [reads view room, take_eq failures room]
  change Matches _ (Machine.advance size view >>= _) _
  rw [advanced]
  refine ⟨kept, within, ?_⟩
  rw [place]
  rfl

end Primitives

/-! ### Accumulated integers -/

/-- Shifting a byte in, modulo a power of two. -/
theorem shift_or {m r b : Nat} (small : b < 256) :
    (r <<< 8) % (256 * m) ||| b = (r * 256 + b) % (256 * m) := by
  have joined := Nat.shiftLeft_add_eq_or_of_lt (show b < 2 ^ 8 from small) (r % m)
  have low : (r * 256 + b) % 256 = b := by omega
  have high : (r * 256 + b) / 256 = r := by omega
  have shifted : (r <<< 8) % (256 * m) = r % m * 2 ^ 8 := by
    rw [Nat.shiftLeft_eq, Nat.mul_comm 256, Nat.mul_mod_mul_right]
  rw [Nat.shiftLeft_eq] at joined
  rw [shifted, Nat.mod_mul, low, high, ← joined]
  omega

/-- A loop that shifts bytes into an integer of limited width loses nothing but what
does not fit. -/
theorem foldl_shift {step : β → UInt8 → β} {toNat : β → Nat} {modulus : Nat}
    (steps : ∀ result byte, toNat (step result byte) = (toNat result * 256 + byte.toNat) % modulus)
    (bytes : Bytes) (start : β) (small : toNat start < modulus) :
    toNat (bytes.foldl step start) =
      bytes.foldl (fun result byte => result * 256 + byte.toNat) (toNat start) % modulus := by
  induction bytes generalizing start with
  | nil => exact (Nat.mod_eq_of_lt small).symm
  | cons byte bytes ih =>
      have bound : toNat (step start byte) < modulus := by
        rw [steps]
        exact Nat.mod_lt _ (Nat.lt_of_le_of_lt (Nat.zero_le _) small)
      rw [List.foldl_cons, List.foldl_cons, ih _ bound, steps, foldl_bigEndian_append,
        foldl_bigEndian_append]
      rw [Nat.add_mod, Nat.mul_mod, Nat.mod_mod, ← Nat.mul_mod, ← Nat.add_mod]

theorem shiftUInt16 (result : UInt16) (byte : UInt8) :
    ((result <<< 8) ||| byte.toUInt16).toNat = (result.toNat * 256 + byte.toNat) % 2 ^ 16 := by
  rw [UInt16.toNat_or, UInt16.toNat_shiftLeft, UInt8.toNat_toUInt16]
  exact shift_or (m := 2 ^ 8) byte.toNat_lt

theorem shiftUInt32 (result : UInt32) (byte : UInt8) :
    ((result <<< 8) ||| byte.toUInt32).toNat = (result.toNat * 256 + byte.toNat) % 2 ^ 32 := by
  rw [UInt32.toNat_or, UInt32.toNat_shiftLeft, UInt8.toNat_toUInt32]
  exact shift_or (m := 2 ^ 24) byte.toNat_lt

theorem shiftUInt64 (result : UInt64) (byte : UInt8) :
    ((result <<< 8) ||| byte.toUInt64).toNat = (result.toNat * 256 + byte.toNat) % 2 ^ 64 := by
  rw [UInt64.toNat_or, UInt64.toNat_shiftLeft, UInt8.toNat_toUInt64]
  exact shift_or (m := 2 ^ 56) byte.toNat_lt

/-- The loop reads the next bytes and computes no index that wraps. -/
theorem fold_eq {step : β → UInt8 → β} {view : View} {count : Nat} {index : UInt64} (start : β)
    (room : view.position.toNat + index.toNat + count ≤ view.bytes.bytes.length) :
    (Machine.fold step view count index start : Except (Stop ε) β) =
      .ok (((view.bytes.bytes.drop (view.position.toNat + index.toNat)).take count).foldl step
        start) := by
  induction count generalizing index start with
  | zero => rfl
  | succ count ih =>
      have inside : view.position.toNat + index.toNat < view.bytes.bytes.length := by omega
      obtain ⟨place, byte, later, stepped⟩ :
        (Machine.plus view.position index : Except (Stop ε) _) = _ ∧ _ := round_eq inside
      have rest := ih (step start view.bytes.bytes[view.position.toNat + index.toNat])
        (show view.position.toNat + (index + 1).toNat + count ≤ view.bytes.bytes.length by omega)
      rw [Machine.fold, place]
      change (Machine.byteAt view (view.position + index) >>= _) = _
      rw [byte]
      change (Machine.plus index 1 >>= _) = _
      rw [later]
      change Machine.fold step view count (index + 1) _ = _
      rw [rest, stepped, List.drop_eq_getElem_cons inside, List.take_succ_cons,
        List.foldl_cons, Nat.add_assoc]

/-! ### The functions of the reader -/

section Functions

variable (failures : ReaderFailures ε)

/-- The first byte behind the position. -/
theorem View.Room.byteAt {view : View} {size : UInt64} (room : view.Room size) (some : 0 < size) :
    ∃ byte rest, view.bytes.bytes.drop view.position.toNat = byte :: rest ∧
      (Machine.byteAt view view.position : Except (Stop ε) _) = .ok byte := by
  have positive : 0 < size.toNat := UInt64.lt_iff_toNat_lt.mp some
  have ended : view.position.toNat + size.toNat ≤ view.bytes.bytes.length := room
  have inside : view.position.toNat < view.bytes.bytes.length := by omega
  exact ⟨_, _, List.drop_eq_getElem_cons inside, byteAt_eq inside⟩

theorem simulates_u8 (label : Bytes) :
    Simulates (Machine.u8 failures label) (Reader.u8 failures label) := by
  rw [Reader.u8, Reader.unsigned_bind]
  apply simulates_required failures 1 label
  intro view room
  obtain ⟨byte, rest, next, read⟩ := room.byteAt (ε := ε) (by decide)
  rw [read, View.next, next]
  simp [fromBigEndian]

/-- The first two bytes behind the position. -/
theorem View.Room.pair {view : View} (room : view.Room 2) :
    ∃ place high low, (Machine.plus view.position 1 : Except (Stop ε) _) = .ok place ∧
      (Machine.byteAt view view.position : Except (Stop ε) _) = .ok high ∧
      (Machine.byteAt view place : Except (Stop ε) _) = .ok low ∧
      view.next 2 = [high, low] := by
  have bound := view.bytes.size_lt
  have one : (1 : UInt64).toNat = 1 := rfl
  have two : (2 : UInt64).toNat = 2 := rfl
  have ended : view.position.toNat + 2 ≤ view.bytes.bytes.length := room
  have first : view.position.toNat < view.bytes.bytes.length := by omega
  have second : view.position.toNat + 1 < view.bytes.bytes.length := by omega
  obtain ⟨sum, placed⟩ : (Machine.plus view.position 1 : Except (Stop ε) _) = _ ∧ _ :=
    plus_eq (by omega)
  have below : (view.position + 1).toNat < view.bytes.bytes.length := by omega
  refine ⟨_, _, _, sum, byteAt_eq first, byteAt_eq below, ?_⟩
  simp only [View.next, placed, one, two]
  rw [List.drop_eq_getElem_cons first, List.drop_eq_getElem_cons second]
  rfl

theorem simulates_u16 (label : Bytes) :
    Simulates (Machine.u16 failures label) (Reader.u16 failures label) := by
  rw [Reader.u16, Reader.unsigned_bind]
  apply simulates_required failures 2 label
  intro view room
  obtain ⟨place, high, low, sum, first, second, taken⟩ := room.pair (ε := ε)
  have value := foldl_shift shiftUInt16 (view.next 2) 0 (by decide)
  have shifted : (0 : UInt16) <<< 8 = 0 := rfl
  rw [taken] at value ⊢
  simp only [List.foldl_cons, List.foldl_nil, shifted, UInt16.zero_or] at value
  rw [first]
  change (Machine.plus view.position 1 >>= _) = _
  rw [sum]
  change (Machine.byteAt view place >>= _) = _
  rw [second]
  apply congrArg Except.ok
  apply UInt16.toNat.inj
  rw [value]
  exact UInt16.toNat_ofNat'.symm

/-- An accumulated integer is the one that the decoder reads. -/
theorem simulates_accumulate {step : β → UInt8 → β} {start : β} {toNat : β → Nat} {modulus : Nat}
    {convert : Nat → β} (convert_eq : ∀ value result, toNat result = value % modulus →
      convert value = result)
    (steps : ∀ result byte, toNat (step result byte) = (toNat result * 256 + byte.toNat) % modulus)
    (zero : toNat start = 0) (positive : 0 < modulus) (size : UInt64) (label : Bytes) :
    Simulates (Machine.accumulate failures step start size label) (do
      let value ← Reader.unsigned failures size.toNat label
      pure (convert value)) := by
  rw [Reader.unsigned_bind]
  apply simulates_required failures size label
  intro view room
  have whole : view.position.toNat + (0 : UInt64).toNat + size.toNat ≤
      view.bytes.bytes.length := room
  have value := foldl_shift steps (view.next size) start (by omega)
  rw [fold_eq start whole]
  rw [zero] at value
  exact congrArg Except.ok (convert_eq _ _ value).symm

theorem simulates_u32 (label : Bytes) :
    Simulates (Machine.u32 failures label) (Reader.u32 failures label) := by
  apply simulates_accumulate failures ?_ shiftUInt32 rfl (by decide) 4 label
  intro value result same
  apply UInt32.toNat.inj
  rw [same]
  exact UInt32.toNat_ofNat'

theorem simulates_u64 (label : Bytes) :
    Simulates (Machine.u64 failures label) (Reader.u64 failures label) := by
  apply simulates_accumulate failures ?_ shiftUInt64 rfl (by decide) 8 label
  intro value result same
  apply UInt64.toNat.inj
  rw [same]
  exact UInt64.toNat_ofNat'

theorem simulates_boolean (label : Bytes) :
    Simulates (Machine.boolean failures label) (Reader.boolean failures label) := by
  apply (simulates_u8 failures label).bind
  intro value
  exact .ite (.refuse _) (.pure _)

theorem simulates_i64 (label : Bytes) :
    Simulates (Machine.i64 failures label) (Reader.i64 failures label) := by
  apply (simulates_boolean failures label).bind
  intro negative
  apply (simulates_u64 failures label).bind
  intro magnitude
  exact .ite (.refuse _) (.ite (.pure _) (.ite (.pure _) (.pure _)))

/-- The comparison with the expected bytes stays among the required ones. -/
theorem equalAt_eq {view : View} {expected : Bytes} {index : UInt64}
    (room : view.position.toNat + index.toNat + expected.length ≤ view.bytes.bytes.length) :
    (Machine.equalAt view expected index : Except (Stop ε) Bool) = .ok (decide
      (((view.bytes.bytes.drop (view.position.toNat + index.toNat)).take expected.length) =
        expected)) := by
  induction expected generalizing index with
  | nil => rfl
  | cons byte expected ih =>
      rw [List.length_cons] at room
      have inside : view.position.toNat + index.toNat < view.bytes.bytes.length := by omega
      obtain ⟨place, actual, later, stepped⟩ :
        (Machine.plus view.position index : Except (Stop ε) _) = _ ∧ _ := round_eq inside
      rw [Machine.equalAt, place]
      change (Machine.byteAt view (view.position + index) >>= _) = _
      rw [actual]
      change (if byte = view.bytes.bytes[view.position.toNat + index.toNat] then
        (Machine.plus index 1 >>= fun next => Machine.equalAt view expected next) else .ok false) = _
      rw [List.drop_eq_getElem_cons inside, List.length_cons, List.take_succ_cons, later]
      split
      · next same =>
          change Machine.equalAt view expected (index + 1) = _
          rw [ih (by omega), stepped, ← same, Nat.add_assoc]
          simp
      · next different =>
          have apart : ¬ view.bytes.bytes[view.position.toNat + index.toNat] = byte :=
            Ne.symm different
          simp [apart]

theorem simulates_expect (expected : StdString) (label : Bytes) :
    Simulates (Machine.expect failures expected label)
      (Reader.expect failures expected.bytes label) := by
  have size := toNat_length_toUInt64 expected.size_lt
  rw [Reader.expect, ← size]
  apply simulates_require
  intro view room
  obtain ⟨moved, advanced, kept, within, place⟩ :
      ∃ moved, (Machine.advance expected.bytes.length.toUInt64 view : Except (Stop ε) _) =
        .ok ((), moved) ∧ _ := advance_eq room
  have compared : (Machine.equalAt view expected.bytes 0 : Except (Stop ε) Bool) =
      .ok (decide (view.next expected.bytes.length.toUInt64 = expected.bytes)) := by
    have whole := room
    rw [View.Room, size] at whole
    rw [equalAt_eq (show view.position.toNat + (0 : UInt64).toNat + expected.bytes.length ≤
      view.bytes.bytes.length from whole), View.next, size]
    rfl
  change Matches _ ((Machine.equalAt view expected.bytes 0 >>= fun same => .ok (same, view)) >>=
      fun step => (if step.1 then Machine.advance expected.bytes.length.toUInt64
        else Machine.refuse (failures.mismatch label) : Machine ε Unit) step.2)
    (Reader.take failures expected.bytes.length.toUInt64.toNat view.cursor >>= fun step =>
      (if step.1 = expected.bytes then pure () else Reader.fail (failures.mismatch label) :
        Decoder ε Unit) step.2)
  rw [compared, take_eq failures room]
  by_cases same : view.next expected.bytes.length.toUInt64 = expected.bytes
  · rw [decide_eq_true same]
    change Matches _ (Machine.advance expected.bytes.length.toUInt64 view)
      ((if view.next expected.bytes.length.toUInt64 = expected.bytes then pure ()
        else Reader.fail (failures.mismatch label) : Decoder ε Unit) _)
    rw [if_pos same, advanced]
    refine ⟨kept, within, ?_⟩
    rw [place]
    rfl
  · rw [decide_eq_false same]
    change Matches _ (.error (.refused (failures.mismatch label) view))
      ((if view.next expected.bytes.length.toUInt64 = expected.bytes then pure ()
        else Reader.fail (failures.mismatch label) : Decoder ε Unit) _)
    rw [if_neg same]
    exact ⟨rfl, room.within, rfl⟩

/-- What is left is compared with a size. -/
theorem simulates_remaining {next : UInt64 → Machine ε α} {nextDecoder : Cursor → Decoder ε α}
    (rest : ∀ (view : View) (left : UInt64), view.Within →
      left.toNat = view.cursor.remaining →
      Matches view.bytes (next left view) (nextDecoder view.cursor view.cursor)) :
    Simulates (do
        let left ← Machine.remaining
        next left)
      (do
        let cursor ← get
        nextDecoder cursor) := by
  intro view within
  obtain ⟨left, known, value⟩ : ∃ left, (Machine.remaining view : Except (Stop ε) _) = _ ∧ _ :=
    remaining_eq within
  change Matches _ (Machine.remaining view >>= fun step => next step.1 step.2)
    (nextDecoder view.cursor view.cursor)
  rw [known]
  exact rest view left within value

/-- A size is compared with what is left as its value is. -/
theorem exceeds_iff {view : View} {left : UInt64} (known : left.toNat = view.cursor.remaining)
    (size : UInt64) : size > left ↔ size.toNat > view.cursor.remaining := by
  rw [← known]
  exact UInt64.lt_iff_toNat_lt

/-- A length that fits into the rest of the record is stepped over without wrapping. -/
theorem simulates_bytes (label : Bytes) :
    Simulates (Machine.bytes failures label) (Reader.bytes failures label) := by
  apply (simulates_u64 failures label).bind
  intro size
  apply simulates_remaining
  intro view left within value
  simp only [exceeds_iff value]
  split
  · exact ⟨rfl, within, rfl⟩
  · next fits =>
      have inside : view.position.toNat ≤ view.bytes.bytes.length := within
      have enough : ¬ size.toNat > view.bytes.bytes.length - view.position.toNat :=
        (not_or.mp fits).1
      have room : view.Room size := by
        unfold View.Room
        omega
      obtain ⟨moved, advanced, kept, movedWithin, place⟩ :
        ∃ moved, (Machine.advance size view : Except (Stop ε) _) = .ok ((), moved) ∧ _ :=
          advance_eq room
      have started : ¬ view.size < view.position := by
        rw [UInt64.lt_iff_toNat_lt, view.size_toNat]
        omega
      have notPast : ¬ view.cursor.position > view.cursor.bytes.length := Nat.not_lt.mpr inside
      rw [Reader.substr, if_neg notPast]
      change Matches _ (Machine.substr size view >>= fun step =>
        (Machine.advance size step.2 >>= fun later => .ok (step.1, later.2))) _
      rw [Machine.substr, if_neg started]
      change Matches _ (Machine.advance size view >>= _) _
      rw [advanced]
      refine ⟨kept, movedWithin, ?_⟩
      rw [place]
      rfl

/-- A value is given back if it is no more than what is left. -/
theorem simulates_bounded (value : UInt64) (label : Bytes) {limit : UInt64 → Prop}
    {limitDecoder : Cursor → Prop} [DecidablePred limit] [DecidablePred limitDecoder]
    (agree : ∀ (view : View) (left : UInt64), left.toNat = view.cursor.remaining →
      (limit left ↔ limitDecoder view.cursor)) :
    Simulates (do
        let left ← Machine.remaining
        if limit left then Machine.refuse (failures.implausible label) else pure value)
      (do
        let cursor ← get
        if limitDecoder cursor then Reader.fail (failures.implausible label) else pure value) := by
  apply simulates_remaining
  intro view left within known
  have same := agree view left known
  by_cases exceeds : limit left
  · rw [if_pos exceeds, if_pos (same.mp exceeds)]
    exact ⟨rfl, within, rfl⟩
  · rw [if_neg exceeds, if_neg (mt same.mpr exceeds)]
    exact ⟨rfl, within, rfl⟩

theorem simulates_boundedCount (label : Bytes) :
    Simulates (Machine.boundedCount failures label) (Reader.count failures label) := by
  apply (simulates_u64 failures label).bind
  intro value
  by_cases excess : value.toNat > failures.maximumCount
  · simp only [excess, true_or, if_true]
    exact fun view within => ⟨rfl, within, rfl⟩
  · simp only [excess, false_or, if_false]
    apply simulates_bounded failures value label
    intro view left known
    exact exceeds_iff known value

theorem simulates_count (label : Bytes) (unbounded : failures.maximumCount = sizeMax) :
    Simulates (Machine.count failures label) (Reader.count failures label) := by
  apply (simulates_u64 failures label).bind
  intro value
  apply simulates_bounded failures value label
  intro view left known
  rw [exceeds_iff known, unbounded, or_comm]

end Functions

end Simulation

end Wire
