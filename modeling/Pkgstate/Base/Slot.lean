import Pkgstate.Base.Decoder

/-!
# Slots inside an encoding

`Reader.upTo` reads a counted sequence up to one of its elements, and goes on inside
it. A decoder built with it stops in the middle of an encoding: `Finds decoder
encoding slot` says that it stops in front of the bytes `slot` of `encoding`, and that
it stops there whatever bytes as many stand in their place. It composes like the
encoding itself. `Precedes front inner decoder` says that these are reads of `decoder`:
where `front` stops, `decoder` goes on with `inner`, and fails if that does.
-/

namespace Wire

open Cpp

/-- The reads of `counted` up to the element at `index`, and then those of `inside`. -/
def Reader.upTo {ε α β : Type} (failures : ReaderFailures ε) (label : Bytes)
    (decoder : Decoder ε α) (index : Nat) (inside : Decoder ε β) : Decoder ε β := do
  let size ← Reader.count failures label
  if index < size.toNat then do
    let _ ← Reader.times decoder index
    inside
  else Reader.fail failures.outOfRange

/-- `decoder` stops in front of the slot of `encoding`, whatever stands there. -/
def Finds {ε : Type} (decoder : Decoder ε Unit) (encoding slot : Bytes) : Prop :=
  ∃ front back, encoding = front ++ (slot ++ back) ∧
    ∀ text after : Bytes, text.length = slot.length →
      Reaches decoder front (text ++ (back ++ after)) ()

/-- Where `front` stops, `decoder` goes on with `inner`. -/
def Precedes {ε α β : Type} (front : Decoder ε Unit) (inner : Decoder ε β)
    (decoder : Decoder ε α) : Prop :=
  ∀ (start stop : Cursor) (failure : ε), front start = .ok ((), stop) →
    inner stop = .error failure → decoder start = .error failure

section Composition

variable {ε α β : Type} {decoder : Decoder ε α} {next : α → Decoder ε β}
  {first second rest slot : Bytes} {a : α} {b : β}

/-- A record is read from its start. -/
theorem Reaches.run (reaches : Reaches decoder first rest a) :
    decoder ⟨first ++ rest, 0⟩ = .ok (a, ⟨first ++ rest, first.length⟩) := by
  have whole := reaches []
  simpa only [List.nil_append, List.length_nil, Nat.zero_add] using whole

theorem Finds.here (slot back : Bytes) :
    Finds (pure () : Decoder ε Unit) (slot ++ back) slot :=
  ⟨[], back, rfl, fun _ _ _ _ => rfl⟩

theorem Decodes.finds_bind {next : α → Decoder ε Unit} (head : Decodes decoder first a)
    (tail : Finds (next a) second slot) : Finds (decoder >>= next) (first ++ second) slot := by
  obtain ⟨front, back, rfl, reached⟩ := tail
  refine ⟨first ++ front, back, (List.append_assoc _ _ _).symm, ?_⟩
  intro text after length
  exact (head.reaches _).bind (reached text after length)

/-- A decoder that finds a slot ends in front of it. -/
theorem Finds.run {decoder : Decoder ε Unit} (finds : Finds decoder first slot)
    (before after : Bytes) :
    ∃ cursor, decoder ⟨before ++ (first ++ after), before.length⟩ = .ok ((), cursor) ∧
      slot <+: cursor.bytes.drop cursor.position := by
  obtain ⟨front, back, rfl, reached⟩ := finds
  have ran := reached slot after rfl before
  simp only [List.append_assoc] at ran ⊢
  refine ⟨_, ran, ?_⟩
  rw [← List.append_assoc before, ← List.length_append, List.drop_left]
  exact List.prefix_append _ _

theorem Finds.append {decoder : Decoder ε Unit} (finds : Finds decoder first slot)
    (more : Bytes) : Finds decoder (first ++ more) slot := by
  obtain ⟨front, back, rfl, reached⟩ := finds
  refine ⟨front, back ++ more, by simp only [List.append_assoc], ?_⟩
  intro text after length
  rw [List.append_assoc]
  exact reached text (more ++ after) length

end Composition

/-! ## Counted sequences -/

section UpTo

variable {ε α β : Type} (failures : ReaderFailures ε) (label : Bytes) {decoder : Decoder ε α}
  {encode : α → Bytes} {values : StdVector α}

theorem flatMap_split (encode : α → Bytes) {values : List α} {index : Nat} {element : α}
    (found : values[index]? = some element) :
    values.flatMap encode = (values.take index).flatMap encode ++
      (encode element ++ (values.drop (index + 1)).flatMap encode) := by
  obtain ⟨below, rfl⟩ := List.getElem?_eq_some_iff.mp found
  rw [← List.flatMap_cons, ← List.drop_eq_getElem_cons below, ← List.flatMap_append,
    List.take_append_drop]

/-- The elements in front of one. -/
theorem decodes_preceding {values : List α}
    (each : ∀ value ∈ values, Decodes decoder (encode value) value) {index : Nat}
    (below : index < values.length) : ∃ read,
      Decodes (Reader.times decoder index) ((values.take index).flatMap encode) read := by
  have fewer : (values.take index).length = index := List.length_take_of_le (Nat.le_of_lt below)
  exact ⟨_, decodes_times fewer fun value member => each value (List.mem_of_mem_take member)⟩

variable (admitted : values.toList.length ≤ failures.maximumCount)
  (nonempty : ∀ value ∈ values.toList, encode value ≠ [])
  (each : ∀ value ∈ values.toList, Decodes decoder (encode value) value)

include admitted nonempty each

/-- The slot of an element is a slot of the sequence. -/
theorem Finds.upTo {index : Nat} {element : α} (found : values.toList[index]? = some element)
    {inside : Decoder ε Unit} {slot : Bytes} (inner : Finds inside (encode element) slot) :
    Finds (Reader.upTo failures label decoder index inside) (countedBytes encode values.toList)
      slot := by
  obtain ⟨front, back, whole, reached⟩ := inner
  have size := toNat_length_toUInt64 values.size_lt
  have split := flatMap_split encode found
  have below := (List.getElem?_eq_some_iff.mp found).1
  refine ⟨u64Bytes values.toList.length.toUInt64 ++
    ((values.toList.take index).flatMap encode ++ front),
    back ++ (values.toList.drop (index + 1)).flatMap encode, ?_, ?_⟩
  · rw [countedBytes, split, whole]
    simp only [List.append_assoc]
  · intro text after length
    have within : values.toList.length.toUInt64.toNat ≤
        (((values.toList.take index).flatMap encode ++ front) ++ (text ++
          ((back ++ (values.toList.drop (index + 1)).flatMap encode) ++ after))).length := by
      have enough := count_le_flatMap values nonempty after
      rw [split, whole] at enough
      simp only [List.length_append, length] at enough ⊢
      omega
    apply (reaches_count failures label (size.symm ▸ admitted) within).bind
    rw [if_pos (size.symm ▸ below)]
    obtain ⟨read, taken⟩ := decodes_preceding each below
    apply (taken.reaches _).bind
    have inner := reached text ((values.toList.drop (index + 1)).flatMap encode ++ after) length
    rw [List.append_assoc]
    exact inner

/-- Who gets to an element of a sequence that stands there reads on inside its encoding. -/
theorem upTo_ok {index : Nat} {inside : Decoder ε β} {before after : Bytes} {step : β × Cursor}
    (ran : Reader.upTo failures label decoder index inside
      ⟨before ++ (countedBytes encode values.toList ++ after), before.length⟩ = .ok step) :
    ∃ element, values.toList[index]? = some element ∧ ∃ front back,
      inside ⟨front ++ (encode element ++ back), front.length⟩ = .ok step := by
  have size := toNat_length_toUInt64 values.size_lt
  have within := count_le_flatMap values nonempty after
  have counted := reaches_count failures label (size.symm ▸ admitted) within
  rw [countedBytes, List.append_assoc, Reader.upTo, counted.bind_run] at ran
  split at ran
  · next below =>
      rw [size] at below
      have found := List.getElem?_eq_getElem below
      obtain ⟨read, taken⟩ := decodes_preceding each below
      rw [flatMap_split encode found, List.append_assoc (List.flatMap _ _), taken.bind_run,
        List.append_assoc (encode _)] at ran
      exact ⟨_, found, _, _, ran⟩
  · cases ran

end UpTo

/-! ## The reads in front -/

section Precedes

variable {ε α β γ : Type} {front : Decoder ε Unit} {inner : Decoder ε β} {decoder : Decoder ε α}

theorem Precedes.here (inner : Decoder ε β) (next : β → Decoder ε α) :
    Precedes (pure ()) inner (inner >>= next) := by
  intro start stop failure stopped failed
  obtain rfl : start = stop := congrArg Prod.snd (Except.ok.inj stopped)
  change (inner start >>= fun step => next step.1 step.2) = _
  rw [failed]
  rfl

theorem Precedes.bind {front : α → Decoder ε Unit} {next : α → Decoder ε γ}
    (precedes : ∀ value, Precedes (front value) inner (next value)) :
    Precedes (decoder >>= front) inner (decoder >>= next) := by
  intro start stop failure stopped failed
  obtain ⟨step, ran, rest⟩ := bind_eq_ok.mp stopped
  change (decoder start >>= fun step => next step.1 step.2) = _
  rw [ran]
  exact precedes step.1 step.2 stop failure rest failed

theorem Precedes.head (precedes : Precedes front inner decoder) (next : α → Decoder ε γ) :
    Precedes front inner (decoder >>= next) := by
  intro start stop failure stopped failed
  change (decoder start >>= fun step => next step.1 step.2) = _
  rw [precedes start stop failure stopped failed]
  rfl

/-- A test that both make stops both. -/
theorem Precedes.ite {condition : Prop} [Decidable condition] (failure : ε)
    (precedes : Precedes front inner decoder) :
    Precedes (if condition then Reader.fail failure else front) inner
      (if condition then Reader.fail failure else decoder) := by
  split
  · intro _ _ _ stopped
    cases stopped
  · exact precedes

/-- An element of a loop is read behind the elements in front of it. -/
theorem Precedes.times (precedes : Precedes front inner decoder) {index count : Nat}
    (below : index < count) :
    Precedes (Reader.times decoder index >>= fun _ => front) inner
      (Reader.times decoder count) := by
  induction index generalizing count with
  | zero =>
      cases count with
      | zero => cases below
      | succ count => exact precedes.head _
  | succ index ih =>
      cases count with
      | zero => cases below
      | succ count =>
          simp only [Reader.times, bind_assoc, pure_bind]
          apply Precedes.bind
          intro value
          exact (ih (Nat.lt_of_succ_lt_succ below)).head _

/-- So is an element of a counted sequence, behind the count. -/
theorem Precedes.upTo (failures : ReaderFailures ε) (label : Bytes) (index : Nat)
    (precedes : Precedes front inner decoder) :
    Precedes (Reader.upTo failures label decoder index front) inner
      (Reader.counted failures label decoder) := by
  apply Precedes.bind
  intro size
  split
  · next below => exact (precedes.times below).head _
  · intro _ _ _ stopped
    cases stopped

end Precedes

end Wire
