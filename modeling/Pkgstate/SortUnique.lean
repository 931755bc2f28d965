import Pkgstate.Base.Comparison
import Pkgstate.Model

/-!
# What `sort_unique` detects

`sort_unique` sorts with `operator<` and looks for a duplicate among neighbours
with `operator==`, two functions that each element type writes for itself. Over
the types it is used with they agree (`sortUnique_detects`), so a duplicate never
hides behind the order. `sortUniqueValues` is the template of the source, over any
two comparisons; the constructors use `sortUnique`, which is the same function
where the comparisons agree (`sortUnique_eq_sortUniqueValues`).
-/

namespace Pkgstate

open Wire Cpp Keyed

/-! ## `operator==` of the element types -/

instance {kind : ReferenceKind} : Equal (CanonicalReference kind) := .on CanonicalReference.name
instance {kind : ReferenceKind} : LawfulEqual (CanonicalReference kind) :=
  .on CanonicalReference.name CanonicalReference.name_inj

instance : Equal RequirementMemberKind := .on toByte
instance : LawfulEqual RequirementMemberKind := .on toByte ByteEnum.toByte_inj

instance : Equal DeclarationProvenance := .on DeclarationProvenance.tie
instance : LawfulEqual DeclarationProvenance :=
  .on DeclarationProvenance.tie DeclarationProvenance.tie_inj

instance : Equal ProfileExpansionStep := .on ProfileExpansionStep.tie
instance : LawfulEqual ProfileExpansionStep :=
  .on ProfileExpansionStep.tie ProfileExpansionStep.tie_inj

instance : Equal RequirementOrigin := .on RequirementOrigin.tie
instance : LawfulEqual RequirementOrigin := .on RequirementOrigin.tie RequirementOrigin.tie_inj

/-! ## The template -/

/-- `sort_unique(values, label)`: what it leaves in `values`. -/
def sortUniqueValues {α : Type} [Less α] [Equal α] (label : String) (values : List α) :
    Except Failure (List α) :=
  match adjacentFind equal (sort (fun a b => less a b) values) with
  | some _ => .error (.stateError (ascii "duplicate normalized " ++ ascii label))
  | none => .ok (sort (fun a b => less a b) values)

/-- What makes `sort_unique` right for an element type: its `operator<` is a strict
total order that ties just the values equal under its `operator==`, and therefore
the template refuses the lists with two equal values and leaves of any other list
its only strictly increasing arrangement. -/
structure DetectsDuplicates (α : Type) [Less α] [Equal α] : Prop where
  irrefl (a : α) : less a a = false
  trans {a b c : α} : less a b = true → less b c = true → less a c = true
  incomparable {a b : α} : (less a b = false ∧ less b a = false) ↔ equal a b = true
  refuses (label : String) (values : List α) :
    (∃ failure, sortUniqueValues label values = .error failure) ↔
      ¬ values.Pairwise fun a b => equal a b = false
  arranges {label : String} {values result : List α} :
    sortUniqueValues label values = .ok result →
      result.Perm values ∧ (result.Pairwise fun a b => less a b = true) ∧
        ∀ other : List α, other.Perm values → (other.Pairwise fun a b => less a b = true) →
          other = result

section Template

variable {α : Type} [Equal α] [LawfulEqual α]

/-- Under a lawful `operator==` no two values are equal when all are distinct. -/
theorem pairwise_unequal_iff {values : List α} :
    (values.Pairwise fun a b => equal a b = false) ↔ values.Nodup := by
  have unequal {a b : α} : equal a b = false ↔ a ≠ b := by
    rw [Bool.eq_false_iff, Ne, LawfulEqual.equal_iff]
  exact ⟨fun apart => apart.imp unequal.mp, fun apart => apart.imp unequal.mpr⟩

variable [DecidableEq α]

/-- The scan under `operator==` is the scan for equal neighbours. -/
theorem adjacentFind_equal (values : List α) :
    adjacentFind equal values = adjacentFind (fun a b => decide (id a = id b)) values := by
  have same : (equal : α → α → Bool) = fun a b => decide (id a = id b) := by
    funext a b
    exact equal_eq_decide a b
  rw [same]

variable [Less α] [StrictTotal α]

theorem sortUniqueValues_ok {label : String} {values result : List α}
    (sorted : sortUniqueValues label values = .ok result) :
    result.Perm values ∧ SortedBy id result := by
  unfold sortUniqueValues at sorted
  split at sorted
  · cases sorted
  · next distinct =>
      cases sorted
      rw [adjacentFind_equal] at distinct
      exact ⟨sort_perm _ values,
        sortedBy_of_adjacentFind (sort_pairwise (refines_less_key id) values) distinct⟩

theorem sortUniqueValues_error {label : String} {values : List α} {failure : Failure}
    (refused : sortUniqueValues label values = .error failure) : ¬ values.Nodup := by
  intro distinct
  have ordered : SortedBy id (sort (fun a b => less a b) values) :=
    sortedBy_sort (refines_less_key id) (by rwa [List.map_id])
  unfold sortUniqueValues at refused
  rw [adjacentFind_equal, adjacentFind_of_sortedBy ordered] at refused
  cases refused

/-- Comparisons that agree make the template right. -/
theorem detectsDuplicates : DetectsDuplicates α where
  irrefl := StrictTotal.irrefl
  trans := StrictTotal.trans
  incomparable := tied_iff.trans LawfulEqual.equal_iff.symm
  refuses label values := by
    rw [pairwise_unequal_iff]
    constructor
    · rintro ⟨failure, refused⟩
      exact sortUniqueValues_error refused
    · intro shared
      cases outcome : sortUniqueValues label values with
      | error failure => exact ⟨failure, rfl⟩
      | ok result =>
          obtain ⟨perm, sorted⟩ := sortUniqueValues_ok outcome
          have distinct := nodup_map_key sorted
          rw [List.map_id] at distinct
          exact absurd (perm.nodup_iff.mp distinct) shared
  arranges {label values result} outcome := by
    obtain ⟨perm, sorted⟩ := sortUniqueValues_ok outcome
    refine ⟨perm, sorted, fun other otherPerm otherSorted => ?_⟩
    have arranged : SortedBy id other := otherSorted
    exact arranged.ext sorted fun a => (otherPerm.trans perm.symm).mem_iff

/-- The constructors run the template: they stop where it refuses and go on with what
it leaves. -/
theorem sortUnique_eq_sortUniqueValues (label : String) (values : StdVector α) :
    (∃ failure, sortUniqueValues label values.toList = .error failure ∧
      ∀ {β : Type} (next : (sorted : SortedVector (id : α → α)) →
        sorted.toList.Perm values.toList → Except Failure β),
        sortUnique label values next = .error failure) ∨
    ∃ (sorted : SortedVector (id : α → α)) (arranged : sorted.toList.Perm values.toList),
      sortUniqueValues label values.toList = .ok sorted.toList ∧
      ∀ {β : Type} (next : (sorted : SortedVector (id : α → α)) →
        sorted.toList.Perm values.toList → Except Failure β),
        sortUnique label values next = next sorted arranged := by
  by_cases distinct : (values.toList.map id).Nodup
  · obtain ⟨sorted, arranged, run⟩ := sortDistinct_of_nodup (refines_less_key id) distinct
    refine Or.inr ⟨sorted, arranged, ?_, fun next => run _ next⟩
    have fixed := sort_of_perm (refines_less_key id) sorted.sorted arranged.symm
    unfold sortUniqueValues
    rw [adjacentFind_equal, show sort (fun a b => less a b) values.toList = sorted.toList from fixed,
      adjacentFind_of_sortedBy sorted.sorted]
  · obtain ⟨first, _, run⟩ := sortDistinct_of_shared (refines_less_key id) distinct
    refine Or.inl ⟨_, ?_, fun next => run _ next⟩
    cases outcome : sortUniqueValues label values.toList with
    | error failure =>
        unfold sortUniqueValues at outcome
        split at outcome
        · exact outcome.symm
        · cases outcome
    | ok result =>
        obtain ⟨perm, sorted⟩ := sortUniqueValues_ok outcome
        exact absurd ((perm.map id).nodup_iff.mp (nodup_map_key sorted)) distinct

end Template

/-- `sort_unique` detects every duplicate for the types it is used with. -/
theorem sortUnique_detects :
    DetectsDuplicates StdString ∧ DetectsDuplicates DeclarationProvenance ∧
      DetectsDuplicates RequirementOrigin ∧ DetectsDuplicates ArchitectureReference :=
  ⟨detectsDuplicates, detectsDuplicates, detectsDuplicates, detectsDuplicates⟩

end Pkgstate
