import Pkgstate.Base.Keyed

/-!
# `operator==` beside `operator<`

The source writes the two comparisons of a type separately. `Equal` is the one
function and `Less` the other; a container that sorts by `operator<` and looks
for neighbours under `operator==` needs them to agree, which `Trichotomy` says of
two values.

* `trichotomy`: a strict total order agrees with a lawful equality everywhere.
* `StrictWeak` is what remains when `operator<` looks at less than `operator==`
  does; it passes through tuples and optionals, and `trichotomy_iff` says which
  pairs it leaves apart.
-/

namespace Cpp

open Wire

/-- The `operator==` of a type. -/
class Equal (α : Type) where
  equal : α → α → Bool

export Equal (equal)

/-- `operator==` holds between equal values and no others. -/
class LawfulEqual (α : Type) [Equal α] : Prop where
  equal_iff {a b : α} : equal a b = true ↔ a = b

/-- A lawful `operator==` is the decision of equality. -/
theorem equal_eq_decide {α : Type} [Equal α] [LawfulEqual α] [DecidableEq α] (a b : α) :
    equal a b = decide (a = b) := by
  rw [Bool.eq_iff_iff, decide_eq_true_iff]
  exact LawfulEqual.equal_iff

/-- `operator==` of a type that compares its parts. -/
@[reducible] def Equal.on {α κ : Type} [Equal κ] (key : α → κ) : Equal α :=
  ⟨fun a b => equal (key a) (key b)⟩

theorem LawfulEqual.on {α κ : Type} [Equal κ] [LawfulEqual κ] (key : α → κ)
    (injective : ∀ {a b : α}, key a = key b → a = b) : @LawfulEqual α (Equal.on key) :=
  letI : Equal α := Equal.on key
  { equal_iff := fun {a b} => by
      change equal (key a) (key b) = true ↔ a = b
      rw [LawfulEqual.equal_iff]
      exact ⟨injective, congrArg key⟩ }

/-! ## The standard library's equalities -/

instance : Equal UInt8 := ⟨fun a b => a == b⟩
instance : LawfulEqual UInt8 := ⟨beq_iff_eq⟩

instance : Equal UInt16 := ⟨fun a b => a == b⟩
instance : LawfulEqual UInt16 := ⟨beq_iff_eq⟩

instance : Equal UInt32 := ⟨fun a b => a == b⟩
instance : LawfulEqual UInt32 := ⟨beq_iff_eq⟩

instance : Equal UInt64 := ⟨fun a b => a == b⟩
instance : LawfulEqual UInt64 := ⟨beq_iff_eq⟩

instance : Equal Int64 := ⟨fun a b => a == b⟩
instance : LawfulEqual Int64 := ⟨beq_iff_eq⟩

/-- `operator==` of `std::tuple`: component by component. -/
instance {α β : Type} [Equal α] [Equal β] : Equal (α × β) :=
  ⟨fun a b => equal a.1 b.1 && equal a.2 b.2⟩

instance {α β : Type} [Equal α] [LawfulEqual α] [Equal β] [LawfulEqual β] :
    LawfulEqual (α × β) where
  equal_iff {a b} := by
    change (equal a.1 b.1 && equal a.2 b.2) = true ↔ a = b
    rw [Bool.and_eq_true, LawfulEqual.equal_iff, LawfulEqual.equal_iff, Prod.ext_iff]

/-- `std::equal` over two whole sequences. -/
def equalSequence {α : Type} [Equal α] : List α → List α → Bool
  | [], [] => true
  | a :: as, b :: bs => equal a b && equalSequence as bs
  | _, _ => false

instance {α : Type} [Equal α] : Equal (List α) := ⟨equalSequence⟩

instance {α : Type} [Equal α] [LawfulEqual α] : LawfulEqual (List α) where
  equal_iff {as bs} := by
    change equalSequence as bs = true ↔ as = bs
    induction as generalizing bs with
    | nil => cases bs <;> simp [equalSequence]
    | cons a as ih =>
        cases bs with
        | nil => simp [equalSequence]
        | cons b bs =>
            rw [equalSequence, Bool.and_eq_true, LawfulEqual.equal_iff, ih, List.cons.injEq]

instance : Equal StdString := .on StdString.bytes
instance : LawfulEqual StdString := .on StdString.bytes StdString.bytes_inj

instance {α : Type} [Equal α] : Equal (StdVector α) := .on StdVector.toList
instance {α : Type} [Equal α] [LawfulEqual α] : LawfulEqual (StdVector α) :=
  .on StdVector.toList StdVector.toList_inj

/-- `operator==` of `std::optional`. -/
instance {α : Type} [Equal α] : Equal (Option α) where
  equal
    | none, none => true
    | some a, some b => equal a b
    | _, _ => false

instance {α : Type} [Equal α] [LawfulEqual α] : LawfulEqual (Option α) where
  equal_iff {a b} := by
    cases a with
    | none => cases b <;> simp [equal]
    | some a =>
        cases b with
        | none => simp [equal]
        | some b =>
            rw [Option.some.injEq]
            exact LawfulEqual.equal_iff (α := α)

/-! ## Agreement -/

/-- Exactly one of `a < b`, `a == b` and `b < a` holds. -/
def Trichotomy {α : Type} [Less α] [Equal α] (a b : α) : Prop :=
  (less a b = true ∧ equal a b = false ∧ less b a = false) ∨
    (less a b = false ∧ equal a b = true ∧ less b a = false) ∨
    (less a b = false ∧ equal a b = false ∧ less b a = true)

/-! ## Weak orders -/

/-- `operator<` is a strict order whose ties are an equivalence, but need not be
equalities. -/
class StrictWeak (α : Type) [Less α] : Prop where
  asymm {a b : α} : less a b = true → less b a = false
  negTrans {a b c : α} : less b a = false → less c b = false → less c a = false

instance {α : Type} [Less α] [StrictTotal α] : StrictWeak α := ⟨less_asymm, not_less_trans⟩

theorem StrictWeak.on {α κ : Type} [Less κ] [StrictWeak κ] (key : α → κ) :
    @StrictWeak α (Less.on key) :=
  letI : Less α := Less.on key
  { asymm := fun before => StrictWeak.asymm (α := κ) before
    negTrans := fun first second => StrictWeak.negTrans (α := κ) first second }

/-- Neither of the two precedes the other. -/
def Tied {α : Type} [Less α] (a b : α) : Prop := less a b = false ∧ less b a = false

theorem less_tuple {α β : Type} [Less α] [Less β] {a b : α × β} :
    less a b = true ↔ less a.1 b.1 = true ∨ (less b.1 a.1 = false ∧ less a.2 b.2 = true) := by
  change (less a.1 b.1 || (!less b.1 a.1 && less a.2 b.2)) = true ↔ _
  rw [Bool.or_eq_true, Bool.and_eq_true, Bool.not_eq_true']

theorem not_less_tuple {α β : Type} [Less α] [Less β] {a b : α × β} :
    less a b = false ↔ less a.1 b.1 = false ∧ (less b.1 a.1 = true ∨ less a.2 b.2 = false) := by
  change (less a.1 b.1 || (!less b.1 a.1 && less a.2 b.2)) = false ↔ _
  rw [Bool.or_eq_false_iff, Bool.and_eq_false_iff, Bool.not_eq_false']

/-- Tuples tie when all their components do. -/
theorem tied_tuple {α β : Type} [Less α] [Less β] {a b : α × β} :
    Tied a b ↔ Tied a.1 b.1 ∧ Tied a.2 b.2 := by
  rw [Tied, not_less_tuple, not_less_tuple]
  constructor
  · rintro ⟨⟨first, firstRest⟩, second, secondRest⟩
    exact ⟨⟨first, second⟩, firstRest.resolve_left (Bool.eq_false_iff.mp second),
      secondRest.resolve_left (Bool.eq_false_iff.mp first)⟩
  · rintro ⟨⟨first, second⟩, firstRest, secondRest⟩
    exact ⟨⟨first, Or.inr firstRest⟩, second, Or.inr secondRest⟩

section Weak

variable {α β : Type} [Less α] [StrictWeak α] [Less β] [StrictWeak β]

theorem StrictWeak.irrefl (a : α) : less a a = false := by
  cases before : less a a with
  | false => rfl
  | true => exact before.symm.trans (StrictWeak.asymm before)

theorem StrictWeak.trans {a b c : α} (first : less a b = true) (second : less b c = true) :
    less a c = true := by
  cases later : less a c with
  | true => rfl
  | false =>
      have before := StrictWeak.negTrans (StrictWeak.asymm second) later
      rw [first] at before
      cases before

instance : StrictWeak (α × β) where
  asymm {a b} before := by
    rw [less_tuple] at before
    rw [not_less_tuple]
    rcases before with first | ⟨tied, second⟩
    · exact ⟨StrictWeak.asymm first, Or.inl first⟩
    · exact ⟨tied, Or.inr (StrictWeak.asymm second)⟩
  negTrans {a b c} first second := by
    rw [not_less_tuple] at first second ⊢
    refine ⟨StrictWeak.negTrans first.1 second.1, ?_⟩
    cases before : less a.1 c.1 with
    | true => exact Or.inl rfl
    | false =>
        have firstTie : less a.1 b.1 = false := StrictWeak.negTrans second.1 before
        have secondTie : less b.1 c.1 = false := StrictWeak.negTrans before first.1
        have firstRest := first.2.resolve_left (Bool.eq_false_iff.mp firstTie)
        have secondRest := second.2.resolve_left (Bool.eq_false_iff.mp secondTie)
        exact Or.inr (StrictWeak.negTrans firstRest secondRest)

end Weak

/-- Under a total order the ties are the equal values. -/
theorem tied_iff {α : Type} [Less α] [StrictTotal α] {a b : α} : Tied a b ↔ a = b := by
  constructor
  · rintro ⟨first, second⟩
    exact StrictTotal.tie first second
  · rintro rfl
    exact ⟨StrictTotal.irrefl a, StrictTotal.irrefl a⟩

/-- A weak order agrees with a lawful equality just where it leaves no different
values tied. -/
theorem trichotomy_iff {α : Type} [Less α] [StrictWeak α] [Equal α] [LawfulEqual α] {a b : α} :
    Trichotomy a b ↔ (Tied a b → a = b) := by
  constructor
  · rintro (⟨before, _, _⟩ | ⟨_, same, _⟩ | ⟨_, _, after⟩) tied
    · exact absurd before (Bool.eq_false_iff.mp tied.1)
    · exact LawfulEqual.equal_iff.mp same
    · exact absurd after (Bool.eq_false_iff.mp tied.2)
  · intro separated
    have same : equal a b = true ↔ a = b := LawfulEqual.equal_iff
    cases before : less a b with
    | true =>
        have different : a ≠ b := by
          rintro rfl
          exact Bool.eq_false_iff.mp (StrictWeak.irrefl a) before
        exact Or.inl ⟨before, Bool.eq_false_iff.mpr (mt same.mp different),
          StrictWeak.asymm before⟩
    | false =>
        cases after : less b a with
        | true =>
            have different : a ≠ b := by
              rintro rfl
              exact Bool.eq_false_iff.mp (StrictWeak.irrefl a) after
            exact Or.inr (Or.inr ⟨before, Bool.eq_false_iff.mpr (mt same.mp different), after⟩)
        | false => exact Or.inr (Or.inl ⟨before, same.mpr (separated ⟨before, after⟩), after⟩)

/-- A strict total order and a lawful equality agree everywhere. -/
theorem trichotomy {α : Type} [Less α] [StrictTotal α] [Equal α] [LawfulEqual α] (a b : α) :
    Trichotomy a b :=
  trichotomy_iff.mpr tied_iff.mp

/-- `operator<` of a type is a strict order, and it agrees with `operator==` on just the
pairs that are apart. -/
structure OrdersApart (α : Type) [Less α] [Equal α] (apart : α → α → Prop) : Prop where
  irrefl (a : α) : less a a = false
  trans {a b c : α} : less a b = true → less b c = true → less a c = true
  agrees (a b : α) : Trichotomy a b ↔ apart a b

/-- An order that looks at one key agrees with equality where the key decides. -/
theorem OrdersApart.of_key {α κ : Type} [Less α] [StrictWeak α] [Equal α] [LawfulEqual α]
    [Less κ] [StrictTotal κ] {key : α → κ}
    (compares : ∀ a b : α, less a b = less (key a) (key b)) :
    OrdersApart α fun a b => key a = key b → a = b where
  irrefl := StrictWeak.irrefl
  trans := StrictWeak.trans
  agrees a b := by
    have tied : Tied a b ↔ key a = key b := by
      rw [← tied_iff, Tied, Tied, compares, compares]
    rw [trichotomy_iff, tied]

theorem OrdersApart.of_total {α : Type} [Less α] [StrictTotal α] [Equal α] [LawfulEqual α] :
    OrdersApart α fun _ _ => True where
  irrefl := StrictTotal.irrefl
  trans := StrictTotal.trans
  agrees a b := iff_true_intro (trichotomy a b)

/-! ## Optionals -/

/-- `operator<` of `std::optional`: an absent value precedes every present one. -/
instance {α : Type} [Less α] : Less (Option α) where
  less
    | _, none => false
    | none, some _ => true
    | some a, some b => less a b

instance {α : Type} [Less α] [StrictWeak α] : StrictWeak (Option α) where
  asymm {a b} before := by
    cases a with
    | none => rfl
    | some a =>
        cases b with
        | none => cases before
        | some b => exact StrictWeak.asymm (α := α) before
  negTrans {a b c} first second := by
    cases a with
    | none => rfl
    | some a =>
        cases b with
        | none => cases first
        | some b =>
            cases c with
            | none => cases second
            | some c => exact StrictWeak.negTrans (α := α) first second

/-- Optionals tie when both are absent or their values tie. -/
theorem tied_option {α : Type} [Less α] {a b : Option α} :
    Tied a b ↔ (a = none ∧ b = none) ∨ ∃ x y, a = some x ∧ b = some y ∧ Tied x y := by
  cases a with
  | none =>
      cases b with
      | none => exact ⟨fun _ => Or.inl ⟨rfl, rfl⟩, fun _ => ⟨rfl, rfl⟩⟩
      | some b => exact ⟨nofun, by rintro (⟨_, ⟨⟩⟩ | ⟨_, _, ⟨⟩, _⟩)⟩
  | some a =>
      cases b with
      | none => exact ⟨nofun, by rintro (⟨⟨⟩, _⟩ | ⟨_, _, _, ⟨⟩, _⟩)⟩
      | some b =>
          constructor
          · intro tied
            exact Or.inr ⟨a, b, rfl, rfl, tied⟩
          · rintro (⟨⟨⟩, _⟩ | ⟨_, _, ⟨⟩, ⟨⟩, tied⟩)
            exact tied

instance {α : Type} [Less α] [StrictTotal α] : StrictTotal (Option α) where
  irrefl := StrictWeak.irrefl
  trans := StrictWeak.trans
  tie first second := by
    rcases tied_option.mp ⟨first, second⟩ with ⟨rfl, rfl⟩ | ⟨x, y, rfl, rfl, tied⟩
    · rfl
    · rw [tied_iff.mp tied]

end Cpp
