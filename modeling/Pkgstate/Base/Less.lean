import Pkgstate.Base.Bytes

/-!
# `operator<` as a Boolean function

A value type of the source orders itself by one `operator<`, written as a
comparison of `std::tie` tuples. `Less` is that function; the instances below
are the standard library's own comparisons of integers, tuples and sequences,
each with the formula the standard gives it. `StrictTotal` is the law a sort
needs: `operator<` is a strict order whose ties are equalities.
-/

namespace Cpp

open Wire

/-- The `operator<` of a type. -/
class Less (α : Type) where
  less : α → α → Bool

export Less (less)

/-- `operator<` is a strict total order, and only equal values are ties. -/
class StrictTotal (α : Type) [Less α] : Prop where
  irrefl (a : α) : less a a = false
  trans {a b c : α} : less a b = true → less b c = true → less a c = true
  tie {a b : α} : less a b = false → less b a = false → a = b

section Laws

variable {α : Type} [Less α] [StrictTotal α] {a b c : α}

theorem less_asymm (before : less a b = true) : less b a = false := by
  cases after : less b a with
  | false => rfl
  | true =>
      have loop := StrictTotal.trans before after
      rw [StrictTotal.irrefl] at loop
      cases loop

theorem less_ne (before : less a b = true) : a ≠ b := by
  rintro rfl
  rw [StrictTotal.irrefl] at before
  cases before

/-- Either `a` precedes `b`, or they are equal, or `b` precedes `a`. -/
theorem less_trichotomy (a b : α) : less a b = true ∨ a = b ∨ less b a = true := by
  cases before : less a b with
  | true => exact Or.inl rfl
  | false =>
      cases after : less b a with
      | true => exact Or.inr (Or.inr rfl)
      | false => exact Or.inr (Or.inl (StrictTotal.tie before after))

theorem not_less_trans (first : less b a = false) (second : less c b = false) :
    less c a = false := by
  cases excess : less c a with
  | false => rfl
  | true =>
      rcases less_trichotomy b a with before | rfl | after
      · rw [before] at first
        cases first
      · rw [excess] at second
        cases second
      · rw [StrictTotal.trans excess after] at second
        cases second

end Laws

/-! ## Comparison through a key -/

/-- `operator<` of a type that compares one of its parts. -/
@[reducible] def Less.on {α κ : Type} [Less κ] (key : α → κ) : Less α :=
  ⟨fun a b => less (key a) (key b)⟩

theorem StrictTotal.on {α κ : Type} [Less κ] [StrictTotal κ] (key : α → κ)
    (injective : ∀ {a b : α}, key a = key b → a = b) : @StrictTotal α (Less.on key) :=
  letI : Less α := Less.on key
  { irrefl := fun a => StrictTotal.irrefl (key a)
    trans := fun first second => StrictTotal.trans (α := κ) first second
    tie := fun first second => injective (StrictTotal.tie (α := κ) first second) }

/-! ## Integers -/

instance : Less Nat := ⟨fun a b => decide (a < b)⟩

instance : StrictTotal Nat where
  irrefl a := by simp [less]
  trans first second := by
    simp only [less, decide_eq_true_eq] at *
    omega
  tie first second := by
    simp only [less, decide_eq_false_iff_not] at *
    omega

instance : Less UInt8 := .on UInt8.toNat
instance : StrictTotal UInt8 := .on UInt8.toNat UInt8.toNat.inj

instance : Less UInt16 := .on UInt16.toNat
instance : StrictTotal UInt16 := .on UInt16.toNat UInt16.toNat.inj

instance : Less UInt32 := .on UInt32.toNat
instance : StrictTotal UInt32 := .on UInt32.toNat UInt32.toNat.inj

instance : Less UInt64 := .on UInt64.toNat
instance : StrictTotal UInt64 := .on UInt64.toNat UInt64.toNat.inj

instance : Less Int := ⟨fun a b => decide (a < b)⟩

instance : StrictTotal Int where
  irrefl a := by simp [less]
  trans first second := by
    simp only [less, decide_eq_true_eq] at *
    omega
  tie first second := by
    simp only [less, decide_eq_false_iff_not] at *
    omega

instance : Less Int64 := .on Int64.toInt
instance : StrictTotal Int64 := .on Int64.toInt Int64.toInt.inj

/-! ## Enumerations -/

/-- An `enum class` over `std::uint8_t`. A cast turns any byte into the type;
`ofByte` is the switch that admits the declared enumerators. -/
class ByteEnum (α : Type) where
  toByte : α → UInt8
  ofByte : UInt8 → Option α
  ofByte_toByte (a : α) : ofByte (toByte a) = some a
  toByte_ofByte {byte : UInt8} {a : α} : ofByte byte = some a → toByte a = byte

export ByteEnum (toByte)

theorem ByteEnum.toByte_inj {α : Type} [ByteEnum α] {a b : α} (same : toByte a = toByte b) :
    a = b := by
  have read := ByteEnum.ofByte_toByte a
  rw [same, ByteEnum.ofByte_toByte] at read
  exact (Option.some.inj read).symm

/-- Refuse a byte that is no enumerator. -/
def ByteEnum.declared {ε α : Type} [ByteEnum α] (failure : ε) (byte : UInt8) : Except ε α :=
  match ByteEnum.ofByte byte with
  | some value => .ok value
  | none => .error failure

@[simp] theorem ByteEnum.declared_toByte {ε α : Type} [ByteEnum α] (failure : ε) (value : α) :
    ByteEnum.declared failure (toByte value) = .ok value := by
  rw [ByteEnum.declared, ByteEnum.ofByte_toByte]

theorem ByteEnum.declared_eq_ok {ε α : Type} [ByteEnum α] {failure : ε} {byte : UInt8} {a : α} :
    ByteEnum.declared failure byte = .ok a ↔ byte = toByte a := by
  constructor
  · intro accepted
    unfold ByteEnum.declared at accepted
    split at accepted
    · next value read =>
        cases accepted
        exact (ByteEnum.toByte_ofByte read).symm
    · cases accepted
  · rintro rfl
    exact declared_toByte failure a

/-! ## Tuples -/

/-- `operator<` of `std::tuple`: the first component decides unless neither of
the two precedes the other. -/
instance {α β : Type} [Less α] [Less β] : Less (α × β) :=
  ⟨fun a b => less a.1 b.1 || (!less b.1 a.1 && less a.2 b.2)⟩

theorem less_prod {α β : Type} [Less α] [StrictTotal α] [Less β] {a b : α × β} :
    less a b = true ↔ less a.1 b.1 = true ∨ (a.1 = b.1 ∧ less a.2 b.2 = true) := by
  change (less a.1 b.1 || (!less b.1 a.1 && less a.2 b.2)) = true ↔ _
  rcases less_trichotomy a.1 b.1 with before | same | after
  · simp [before]
  · simp [same, StrictTotal.irrefl]
  · have different := less_ne after
    simp [after, less_asymm after, Ne.symm different]

instance {α β : Type} [Less α] [StrictTotal α] [Less β] [StrictTotal β] :
    StrictTotal (α × β) where
  irrefl a := by
    rw [Bool.eq_false_iff, Ne, less_prod]
    simp [StrictTotal.irrefl]
  trans {a b c} first second := by
    rw [less_prod] at first second ⊢
    rcases first with first | ⟨same, first⟩
    · rcases second with second | ⟨same', second⟩
      · exact Or.inl (StrictTotal.trans first second)
      · exact Or.inl (same' ▸ first)
    · rcases second with second | ⟨same', second⟩
      · exact Or.inl (same ▸ second)
      · exact Or.inr ⟨same.trans same', StrictTotal.trans first second⟩
  tie {a b} first second := by
    rw [Bool.eq_false_iff, Ne, less_prod, not_or] at first second
    rcases less_trichotomy a.1 b.1 with before | same | after
    · exact absurd before first.1
    · rcases less_trichotomy a.2 b.2 with before | same' | after
      · exact absurd ⟨same, before⟩ first.2
      · exact Prod.ext same same'
      · exact absurd ⟨same.symm, after⟩ second.2
    · exact absurd after second.1

/-! ## Sequences -/

/-- `std::lexicographical_compare`. -/
def lexicographicalCompare {α : Type} [Less α] : List α → List α → Bool
  | _, [] => false
  | [], _ :: _ => true
  | a :: as, b :: bs =>
      if less a b then true
      else if less b a then false
      else lexicographicalCompare as bs

instance {α : Type} [Less α] : Less (List α) := ⟨lexicographicalCompare⟩

theorem less_cons {α : Type} [Less α] [StrictTotal α] {a b : α} {as bs : List α} :
    less (a :: as) (b :: bs) = true ↔ less a b = true ∨ (a = b ∧ less as bs = true) := by
  change lexicographicalCompare (a :: as) (b :: bs) = true ↔ _
  rcases less_trichotomy a b with before | rfl | after
  · simp [lexicographicalCompare, before]
  · simp [lexicographicalCompare, StrictTotal.irrefl, less]
  · have different := less_ne after
    simp [lexicographicalCompare, after, less_asymm after, Ne.symm different]

/-- Sequences compare behind what they share. -/
theorem less_append_left {α : Type} [Less α] [StrictTotal α] (front as bs : List α) :
    less (front ++ as) (front ++ bs) = less as bs := by
  induction front with
  | nil => rfl
  | cons a front ih =>
      rw [List.cons_append, List.cons_append, Bool.eq_iff_iff, less_cons, ih]
      simp [StrictTotal.irrefl]

@[simp] theorem less_nil_right {α : Type} [Less α] (as : List α) : less as [] = false := by
  cases as <;> rfl

@[simp] theorem less_nil_cons {α : Type} [Less α] (b : α) (bs : List α) :
    less [] (b :: bs) = true := rfl

instance {α : Type} [Less α] [StrictTotal α] : StrictTotal (List α) where
  irrefl as := by
    induction as with
    | nil => rfl
    | cons a as ih =>
        rw [Bool.eq_false_iff, Ne, less_cons]
        simp [StrictTotal.irrefl, ih]
  trans {as bs cs} := by
    induction as generalizing bs cs with
    | nil =>
        intro first second
        cases cs with
        | nil => simp at second
        | cons c cs => rfl
    | cons a as ih =>
        intro first second
        cases bs with
        | nil => simp at first
        | cons b bs =>
            cases cs with
            | nil => simp at second
            | cons c cs =>
                rw [less_cons] at first second ⊢
                rcases first with first | ⟨rfl, first⟩
                · rcases second with second | ⟨rfl, second⟩
                  · exact Or.inl (StrictTotal.trans first second)
                  · exact Or.inl first
                · rcases second with second | ⟨rfl, second⟩
                  · exact Or.inl second
                  · exact Or.inr ⟨rfl, ih first second⟩
  tie {as bs} := by
    induction as generalizing bs with
    | nil =>
        intro first _
        cases bs with
        | nil => rfl
        | cons b bs => simp at first
    | cons a as ih =>
        intro first second
        cases bs with
        | nil => simp at second
        | cons b bs =>
            rw [Bool.eq_false_iff, Ne, less_cons, not_or] at first second
            rcases less_trichotomy a b with before | rfl | after
            · exact absurd before first.1
            · have firstTail : less as bs = false :=
                Bool.eq_false_iff.mpr fun before => first.2 ⟨rfl, before⟩
              have secondTail : less bs as = false :=
                Bool.eq_false_iff.mpr fun before => second.2 ⟨rfl, before⟩
              rw [ih firstTail secondTail]
            · exact absurd after second.1

end Cpp
