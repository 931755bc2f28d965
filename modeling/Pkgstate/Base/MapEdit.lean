import Pkgstate.Base.Keyed
import Mathlib.Data.List.Nodup
import Mathlib.Logic.Function.Basic

/-!
# Edits of a finite map

A list of edits, each assigning one key a value or its absence, acts on a
partial map. Edits of distinct keys determine the result at every key
(`applyAll_of_mem`, `applyAll_of_not_mem`), so their order does not matter
(`applyAll_perm`). The second half says that the edits of a sorted list at a
lower bound are edits of the map that looks its values up.
-/

namespace MapEdit

variable {δ κ β : Type}

/-- The first of several edits names a key that the others do not. -/
theorem nodup_cons {key : δ → κ} {edit : δ} {edits : List δ}
    (distinct : ((edit :: edits).map key).Nodup) :
    (∀ other ∈ edits, key other ≠ key edit) ∧ (edits.map key).Nodup := by
  obtain ⟨fresh, rest⟩ := List.nodup_cons.mp distinct
  refine ⟨?_, rest⟩
  intro other later same
  exact fresh (List.mem_map.mpr ⟨other, later, same⟩)

variable [DecidableEq κ]

/-- Run the edits from left to right. -/
def applyAll (key : δ → κ) (value : δ → Option β) (edits : List δ) (map : κ → Option β) :
    κ → Option β :=
  edits.foldl (fun map edit => Function.update map (key edit) (value edit)) map

section Laws

variable {key : δ → κ} {value : δ → Option β} {edits : List δ} {map : κ → Option β}

/-- A key that no edit names keeps its value. -/
theorem applyAll_of_not_mem {k : κ} (untouched : ∀ edit ∈ edits, key edit ≠ k) :
    applyAll key value edits map k = map k := by
  induction edits generalizing map with
  | nil => rfl
  | cons edit rest ih =>
      have first := untouched edit List.mem_cons_self
      have kept : applyAll key value (edit :: rest) map k =
          Function.update map (key edit) (value edit) k :=
        ih fun other later => untouched other (List.mem_cons_of_mem _ later)
      rw [kept, Function.update_of_ne (Ne.symm first)]

/-- A key that one edit names has the value of that edit. -/
theorem applyAll_of_mem (distinct : (edits.map key).Nodup) {edit : δ} (member : edit ∈ edits) :
    applyAll key value edits map (key edit) = value edit := by
  induction edits generalizing map with
  | nil => cases member
  | cons head rest ih =>
      obtain ⟨apart, restDistinct⟩ := nodup_cons distinct
      rcases List.mem_cons.mp member with rfl | later
      · have kept : applyAll key value (edit :: rest) map (key edit) =
            Function.update map (key edit) (value edit) (key edit) := applyAll_of_not_mem apart
        rw [kept, Function.update_self]
      · exact ih restDistinct later

/-- Edits of distinct keys may run in any order. -/
theorem applyAll_perm {others : List δ} (distinct : (edits.map key).Nodup)
    (perm : others.Perm edits) : applyAll key value others map = applyAll key value edits map := by
  have othersDistinct : (others.map key).Nodup := (perm.map key).nodup_iff.mpr distinct
  funext k
  by_cases named : ∃ edit ∈ edits, key edit = k
  · rcases named with ⟨edit, member, rfl⟩
    rw [applyAll_of_mem distinct member, applyAll_of_mem othersDistinct (perm.mem_iff.mpr member)]
  · have untouched : ∀ edit ∈ edits, key edit ≠ k := fun edit member same =>
      named ⟨edit, member, same⟩
    rw [applyAll_of_not_mem untouched,
      applyAll_of_not_mem fun edit member => untouched edit (perm.mem_iff.mp member)]

end Laws

end MapEdit

namespace Keyed

open Cpp

variable {α κ : Type} [Less κ] [StrictTotal κ] [DecidableEq κ] {key : α → κ} {values : List α}

/-- Sorted lists that answer every lookup alike are equal. -/
theorem SortedBy.ext_findKey {others : List α} (sorted : SortedBy key values)
    (othersSorted : SortedBy key others)
    (lookups : ∀ k, findKey key k values = findKey key k others) : values = others := by
  refine sorted.ext othersSorted fun a => ?_
  have here : findKey key (key a) values = some a ↔ a ∈ values := by
    rw [findKey_eq_some sorted, and_iff_left rfl]
  have there : findKey key (key a) others = some a ↔ a ∈ others := by
    rw [findKey_eq_some othersSorted, and_iff_left rfl]
  rw [← here, ← there, lookups]

/-- Lookups after an edit, from the members after it. -/
theorem findKey_update {edited : List α} (sorted : SortedBy key values)
    (editedSorted : SortedBy key edited) {k : κ} {proposed : Option α}
    (here : ∀ a, proposed = some a → key a = k)
    (members : ∀ a, a ∈ edited ↔ proposed = some a ∨ (a ∈ values ∧ key a ≠ k)) :
    (fun k => findKey key k edited) =
      Function.update (fun k => findKey key k values) k proposed := by
  funext other
  by_cases same : other = k
  · subst same
    rw [Function.update_self]
    cases proposed with
    | none =>
        refine (findKey_eq_none editedSorted).mpr fun a member => ?_
        rcases (members a).mp member with impossible | ⟨_, different⟩
        · cases impossible
        · exact different
    | some a =>
        exact (findKey_eq_some editedSorted).mpr ⟨(members a).mpr (Or.inl rfl), here a rfl⟩
  · rw [Function.update_of_ne same]
    cases found : findKey key other values with
    | none =>
        have missing := (findKey_eq_none sorted).mp found
        refine (findKey_eq_none editedSorted).mpr fun a member => ?_
        rcases (members a).mp member with new | ⟨old, _⟩
        · rw [here a new]
          exact Ne.symm same
        · exact missing a old
    | some a =>
        obtain ⟨member, named⟩ := (findKey_eq_some sorted).mp found
        exact (findKey_eq_some editedSorted).mpr
          ⟨(members a).mpr (Or.inr ⟨member, named ▸ same⟩), named⟩

end Keyed
