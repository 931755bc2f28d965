import Pkgstate.Base.Less
import Mathlib.Data.List.Induction
import Mathlib.Data.List.Sort

/-!
# Containers sorted by a key

Bounded strings and vectors, `std::sort` followed by a scan for adjacent
duplicates, and the `std::lower_bound` searches and edits that rely on the
order the sort established.

* `SortedVector key` is a vector strictly increasing in `key`; `sortDistinct`
  is the only way to build one from an arbitrary vector, and gives a sorted
  vector back unchanged (`sortDistinct_sorted`).
* `located` splits a sorted list around a key at the position `lowerBound`
  returns; lookup, insertion, overwriting and erasure at that position are then
  statements about the two halves.
* `gather` is the map that `push_back` under a key builds.
-/

namespace Cpp

open Wire

/-! ## Strings and vectors -/

/-- `std::string` and `std::string_view`: the size is a 64-bit `size_t`. -/
structure StdString where
  bytes : Bytes
  size_lt : bytes.length < 2 ^ 64
deriving DecidableEq

/-- `std::vector`: the size is a 64-bit `size_t`. -/
structure StdVector (α : Type) where
  toList : List α
  size_lt : toList.length < 2 ^ 64
deriving DecidableEq

/-- A vector of one value. -/
def StdVector.singleton {α : Type} (value : α) : StdVector α where
  toList := [value]
  size_lt := by simp

/-- A vector of the values' images. -/
def StdVector.map {α β : Type} (image : α → β) (values : StdVector α) : StdVector β where
  toList := values.toList.map image
  size_lt := by
    rw [List.length_map]
    exact values.size_lt

theorem StdString.bytes_inj {a b : StdString} (same : a.bytes = b.bytes) : a = b := by
  cases a
  cases b
  cases same
  rfl

theorem StdVector.toList_inj {α : Type} {a b : StdVector α} (same : a.toList = b.toList) :
    a = b := by
  cases a
  cases b
  cases same
  rfl

instance : Less StdString := .on StdString.bytes
instance : StrictTotal StdString := .on StdString.bytes StdString.bytes_inj

instance {α : Type} [Less α] : Less (StdVector α) := .on StdVector.toList
instance {α : Type} [Less α] [StrictTotal α] : StrictTotal (StdVector α) :=
  .on StdVector.toList StdVector.toList_inj

/-- A sequence succeeds when each part does. -/
theorem bind_eq_ok {ε α β : Type} {first : Except ε α} {next : α → Except ε β} {result : β} :
    first >>= next = .ok result ↔ ∃ value, first = .ok value ∧ next value = .ok result := by
  cases first with
  | error failure => exact ⟨nofun, fun ⟨_, h, _⟩ => (by cases h)⟩
  | ok value => exact ⟨fun ran => ⟨value, rfl, ran⟩, fun ⟨_, h, ran⟩ => by cases h; exact ran⟩

/-- What a test refuses does not go on. -/
theorem ite_error_eq_ok {ε α : Type} {condition : Prop} [Decidable condition] {failure : ε}
    {rest : Except ε α} {value : α} :
    (if condition then .error failure else rest) = .ok value ↔ ¬ condition ∧ rest = .ok value := by
  split
  · next refused => exact ⟨nofun, fun passed => absurd refused passed.1⟩
  · next passed => exact ⟨fun ran => ⟨passed, ran⟩, And.right⟩

/-- A check passes when what it refuses does not hold. -/
theorem check_eq_ok {ε : Type} {condition : Prop} [Decidable condition] {failure : ε} :
    (if condition then Except.error failure else .ok ()) = .ok () ↔ ¬ condition :=
  ite_error_eq_ok.trans (and_iff_left rfl)

/-- Run a constructor's checks and keep the fact that they passed. -/
def checked {ε α : Type} : (check : Except ε Unit) → (check = .ok () → α) → Except ε α
  | .ok (), build => .ok (build rfl)
  | .error failure, _ => .error failure

theorem checked_of_ok {ε α : Type} {check : Except ε Unit} {build : check = .ok () → α}
    (passed : check = .ok ()) : checked check build = .ok (build passed) := by
  subst passed
  rfl

theorem checked_eq_ok {ε α : Type} {check : Except ε Unit} {build : check = .ok () → α}
    {value : α} : checked check build = .ok value ↔ ∃ passed, build passed = value := by
  constructor
  · intro built
    cases check with
    | error failure => cases built
    | ok passed => exact ⟨rfl, Except.ok.inj built⟩
  · rintro ⟨passed, rfl⟩
    exact checked_of_ok passed

end Cpp

namespace Keyed

open Cpp

variable {α κ : Type} [Less κ] {key : α → κ}

/-- The values are strictly increasing in `key`. -/
def SortedBy (key : α → κ) (values : List α) : Prop :=
  values.Pairwise fun a b => less (key a) (key b) = true

/-! ## Sorting -/

/-- `std::sort` under the comparison `comp`. -/
def sort (comp : α → α → Bool) (values : List α) : List α :=
  values.insertionSort fun a b => comp b a = false

theorem sort_perm (comp : α → α → Bool) (values : List α) : (sort comp values).Perm values :=
  List.perm_insertionSort _ values

@[simp] theorem length_sort (comp : α → α → Bool) (values : List α) :
    (sort comp values).length = values.length :=
  (sort_perm comp values).length_eq

@[simp] theorem mem_sort {comp : α → α → Bool} {values : List α} {a : α} :
    a ∈ sort comp values ↔ a ∈ values :=
  (sort_perm comp values).mem_iff

/-- `std::adjacent_find`: the first value that agrees with its successor. -/
def adjacentFind (same : α → α → Bool) : List α → Option α
  | a :: b :: rest => if same a b then some a else adjacentFind same (b :: rest)
  | _ => none

/-- `comp` is a strict weak order that never puts a larger key first. -/
structure Refines (comp : α → α → Bool) (key : α → κ) : Prop where
  asymm {a b : α} : comp a b = true → comp b a = false
  negTrans {a b c : α} : comp b a = false → comp c b = false → comp c a = false
  refines {a b : α} : less (key a) (key b) = true → comp a b = true

theorem refines_less_key [StrictTotal κ] (key : α → κ) :
    Refines (fun a b => less (key a) (key b)) key where
  asymm before := less_asymm before
  negTrans first second := not_less_trans first second
  refines before := before

theorem sort_pairwise {comp : α → α → Bool} (refines : Refines comp key) (values : List α) :
    (sort comp values).Pairwise fun a b => less (key b) (key a) = false := by
  have : Std.Total fun a b => comp b a = false := ⟨fun a b => by
    cases before : comp a b with
    | false => exact Or.inr rfl
    | true => exact Or.inl (refines.asymm before)⟩
  have : IsTrans α fun a b => comp b a = false := ⟨fun _ _ _ => refines.negTrans⟩
  refine (List.pairwise_insertionSort (fun a b => comp b a = false) values).imp ?_
  intro a b ordered
  cases before : less (key b) (key a) with
  | false => rfl
  | true =>
      rw [refines.refines before] at ordered
      cases ordered

/-- Values already strictly sorted by the key stay where they are. -/
theorem sort_eq_self {comp : α → α → Bool} (refines : Refines comp key) {values : List α}
    (sorted : SortedBy key values) : sort comp values = values :=
  List.Pairwise.insertionSort_eq
    (sorted.imp fun before => refines.asymm (refines.refines before))

section Law

variable [StrictTotal κ]

/-- A sorted list without adjacent equal keys has strictly increasing keys: a
duplicate anywhere would be adjacent to its twin. -/
theorem sortedBy_of_adjacentFind [DecidableEq κ] {values : List α}
    (sorted : values.Pairwise fun a b => less (key b) (key a) = false)
    (distinct : adjacentFind (fun a b => decide (key a = key b)) values = none) :
    SortedBy key values := by
  induction values with
  | nil => exact List.Pairwise.nil
  | cons a rest ih =>
      obtain ⟨first, restSorted⟩ := List.pairwise_cons.mp sorted
      cases rest with
      | nil => exact List.pairwise_singleton _ a
      | cons b rest =>
          simp only [adjacentFind, decide_eq_true_eq] at distinct
          split at distinct
          · cases distinct
          · next different =>
              have tail := ih restSorted distinct
              have headLess : less (key a) (key b) = true := by
                rcases less_trichotomy (key a) (key b) with before | same | after
                · exact before
                · exact absurd same different
                · rw [first b List.mem_cons_self] at after
                  cases after
              refine List.pairwise_cons.mpr ⟨fun c member => ?_, tail⟩
              rcases List.mem_cons.mp member with rfl | later
              · exact headLess
              · exact StrictTotal.trans headLess ((List.pairwise_cons.mp tail).1 c later)

theorem adjacentFind_of_sortedBy [DecidableEq κ] {values : List α} (sorted : SortedBy key values) :
    adjacentFind (fun a b => decide (key a = key b)) values = none := by
  induction values with
  | nil => rfl
  | cons a rest ih =>
      obtain ⟨first, restSorted⟩ := List.pairwise_cons.mp sorted
      cases rest with
      | nil => rfl
      | cons b rest =>
          have different := less_ne (first b List.mem_cons_self)
          simp only [adjacentFind, decide_eq_true_eq, if_neg different]
          exact ih restSorted

/-- Sorting distinct keys orders them strictly. -/
theorem sortedBy_sort {comp : α → α → Bool} (refines : Refines comp key) {values : List α}
    (distinct : (values.map key).Nodup) : SortedBy key (sort comp values) := by
  have apart : (sort comp values).Pairwise fun a b => key a ≠ key b := by
    have moved := ((sort_perm comp values).map key).nodup_iff.mpr distinct
    exact List.pairwise_map.mp moved
  refine ((sort_pairwise refines values).and apart).imp fun {a b} both => ?_
  rcases less_trichotomy (key a) (key b) with before | same | after
  · exact before
  · exact absurd same both.2
  · rw [both.1] at after
    cases after

theorem nodup_map_key {values : List α} (sorted : SortedBy key values) :
    (values.map key).Nodup :=
  List.pairwise_map.mpr (sorted.imp less_ne)

/-- Two sorted lists with the same members are equal. -/
theorem SortedBy.ext {values others : List α} (sorted : SortedBy key values)
    (othersSorted : SortedBy key others) (members : ∀ a, a ∈ values ↔ a ∈ others) :
    values = others := by
  have : Std.Antisymm fun a b => less (key a) (key b) = true := ⟨fun a b before after => by
    rw [less_asymm before] at after
    cases after⟩
  have distinct (list : List α) (ordered : SortedBy key list) : list.Nodup :=
    ordered.imp fun before same => less_ne before (congrArg key same)
  have perm := (List.perm_ext_iff_of_nodup (distinct values sorted)
    (distinct others othersSorted)).mpr members
  exact List.Perm.eq_of_pairwise' sorted othersSorted perm

/-- Sorting any arrangement of a sorted list restores it. -/
theorem sort_of_perm {comp : α → α → Bool} (refines : Refines comp key) {values sorted : List α}
    (ordered : SortedBy key sorted) (perm : values.Perm sorted) : sort comp values = sorted := by
  have distinct : (values.map key).Nodup := (perm.map key).nodup_iff.mpr (nodup_map_key ordered)
  exact (sortedBy_sort refines distinct).ext ordered fun a =>
    ((sort_perm comp values).trans perm).mem_iff

end Law

/-! ## Sorted vectors -/

/-- A vector strictly increasing in `key`. -/
structure SortedVector (key : α → κ) extends StdVector α where
  sorted : SortedBy key toList
deriving DecidableEq

theorem SortedVector.toList_inj {a b : SortedVector key} (same : a.toList = b.toList) : a = b := by
  rcases a with ⟨a, _⟩
  rcases b with ⟨b, _⟩
  cases StdVector.toList_inj same
  rfl

/-- Sort, refuse the first value whose key equals its successor's, and go on
with the sorted vector. -/
def sortDistinct [StrictTotal κ] [DecidableEq κ] {ε β : Type} {comp : α → α → Bool}
    (refines : Refines comp key) (duplicate : α → ε) (values : StdVector α)
    (next : (sorted : SortedVector key) → sorted.toList.Perm values.toList → Except ε β) :
    Except ε β :=
  match distinct : adjacentFind (fun a b => decide (key a = key b)) (sort comp values.toList) with
  | some first => .error (duplicate first)
  | none => next
      { toList := sort comp values.toList
        size_lt := by rw [length_sort]; exact values.size_lt
        sorted := sortedBy_of_adjacentFind (sort_pairwise refines values.toList) distinct }
      (sort_perm comp values.toList)

section SortDistinct

variable [StrictTotal κ] [DecidableEq κ] {ε β : Type} {comp : α → α → Bool}
  {refines : Refines comp key} {duplicate : α → ε}

/-- Normalization is idempotent: a sorted vector passes through unchanged. -/
theorem sortDistinct_sorted (values : SortedVector key)
    (next : (sorted : SortedVector key) → sorted.toList.Perm values.toList → Except ε β) :
    sortDistinct refines duplicate values.toStdVector next = next values (List.Perm.refl _) := by
  have fixed := sort_eq_self refines values.sorted
  unfold sortDistinct
  split
  · next found =>
      rw [fixed, adjacentFind_of_sortedBy values.sorted] at found
      cases found
  · next distinct =>
      congr 1
      exact SortedVector.toList_inj fixed

/-- A success went on with some sorted arrangement of the values. -/
theorem sortDistinct_ok {values : StdVector α}
    {next : (sorted : SortedVector key) → sorted.toList.Perm values.toList → Except ε β}
    {result : β} (success : sortDistinct refines duplicate values next = .ok result) :
    ∃ sorted perm, next sorted perm = .ok result := by
  unfold sortDistinct at success
  split at success
  · cases success
  · exact ⟨_, _, success⟩

end SortDistinct

/-- Distinct keys are never refused. -/
theorem sortDistinct_of_nodup [StrictTotal κ] [DecidableEq κ] {comp : α → α → Bool}
    (refines : Refines comp key) {values : StdVector α} (distinct : (values.toList.map key).Nodup) :
    ∃ (sorted : SortedVector key) (arranged : sorted.toList.Perm values.toList),
      ∀ {ε β : Type} (duplicate : α → ε)
        (next : (sorted : SortedVector key) → sorted.toList.Perm values.toList → Except ε β),
        sortDistinct refines duplicate values next = next sorted arranged := by
  have ordered := sortedBy_sort refines distinct
  refine ⟨⟨⟨sort comp values.toList, by rw [length_sort]; exact values.size_lt⟩, ordered⟩,
    sort_perm comp values.toList, fun duplicate next => ?_⟩
  unfold sortDistinct
  split
  · next found =>
      rw [adjacentFind_of_sortedBy ordered] at found
      cases found
  · rfl

theorem mem_of_adjacentFind {same : α → α → Bool} {values : List α} {first : α}
    (found : adjacentFind same values = some first) : first ∈ values := by
  induction values with
  | nil => cases found
  | cons a rest ih =>
      cases rest with
      | nil => cases found
      | cons b rest =>
          unfold adjacentFind at found
          split at found
          · cases found
            exact List.mem_cons_self
          · exact List.mem_cons_of_mem a (ih found)

/-- Shared keys are always refused: sorting brings two of them together. -/
theorem sortDistinct_of_shared [StrictTotal κ] [DecidableEq κ] {comp : α → α → Bool}
    (refines : Refines comp key) {values : StdVector α}
    (shared : ¬ (values.toList.map key).Nodup) :
    ∃ first ∈ values.toList, ∀ {ε β : Type} (duplicate : α → ε)
      (next : (sorted : SortedVector key) → sorted.toList.Perm values.toList → Except ε β),
      sortDistinct refines duplicate values next = .error (duplicate first) := by
  cases found : adjacentFind (fun a b => decide (key a = key b)) (sort comp values.toList) with
  | none =>
      have sorted := sortedBy_of_adjacentFind (sort_pairwise refines values.toList) found
      have moved := (sort_perm comp values.toList).map key
      exact absurd (moved.nodup_iff.mp (nodup_map_key sorted)) shared
  | some first =>
      refine ⟨first, mem_sort.mp (mem_of_adjacentFind found), fun duplicate next => ?_⟩
      unfold sortDistinct
      split
      · next other again =>
          rw [found] at again
          cases again
          rfl
      · next none =>
          rw [found] at none
          cases none

/-- The outcome does not depend on the order of the values. -/
theorem sortDistinct_perm [StrictTotal κ] [DecidableEq κ] {comp : α → α → Bool}
    (refines : Refines comp key) {ε β : Type} {failure : ε} {values others : StdVector α}
    (arranged : values.toList.Perm others.toList)
    {next : (sorted : SortedVector key) → sorted.toList.Perm values.toList → Except ε β}
    {otherNext : (sorted : SortedVector key) → sorted.toList.Perm others.toList → Except ε β}
    (agree : ∀ sorted perm otherPerm, next sorted perm = otherNext sorted otherPerm) :
    sortDistinct refines (fun _ => failure) values next =
      sortDistinct refines (fun _ => failure) others otherNext := by
  have keys := (arranged.map key).nodup_iff
  by_cases distinct : (values.toList.map key).Nodup
  · obtain ⟨sorted, perm, run⟩ := sortDistinct_of_nodup refines distinct
    obtain ⟨otherSorted, otherPerm, otherRun⟩ :=
      sortDistinct_of_nodup refines (keys.mp distinct)
    have same : sorted = otherSorted := by
      apply SortedVector.toList_inj
      apply sorted.sorted.ext otherSorted.sorted
      intro a
      rw [perm.mem_iff, otherPerm.mem_iff, arranged.mem_iff]
    subst same
    rw [run, otherRun]
    exact agree sorted perm otherPerm
  · obtain ⟨_, _, run⟩ := sortDistinct_of_shared refines distinct
    obtain ⟨_, _, otherRun⟩ := sortDistinct_of_shared refines (mt keys.mpr distinct)
    rw [run, otherRun]

/-- It succeeds when the keys are distinct and what comes after it succeeds. -/
theorem sortDistinct_iff [StrictTotal κ] [DecidableEq κ] {comp : α → α → Bool}
    (refines : Refines comp key) {ε β : Type} {duplicate : α → ε} {values : StdVector α}
    {next : (sorted : SortedVector key) → sorted.toList.Perm values.toList → Except ε β}
    {later : Prop}
    (continues : ∀ sorted arranged, (∃ value, next sorted arranged = .ok value) ↔ later) :
    (∃ value, sortDistinct refines duplicate values next = .ok value) ↔
      later ∧ (values.toList.map key).Nodup := by
  by_cases distinct : (values.toList.map key).Nodup
  · obtain ⟨sorted, arranged, run⟩ := sortDistinct_of_nodup refines distinct
    rw [run, continues, and_iff_left distinct]
  · obtain ⟨_, _, run⟩ := sortDistinct_of_shared refines distinct
    rw [run]
    exact ⟨nofun, fun both => absurd both.2 distinct⟩

/-! ## Binary search -/

/-- The halving loop of `std::lower_bound` over the `count` values from
`first`; `before` is the comparison with the searched value. -/
def lowerBoundFrom (before : α → Bool) (values : List α) : (fuel first count : Nat) → Nat
  | 0, first, _ => first
  | fuel + 1, first, count =>
      if count = 0 then first
      else
        match values[first + count / 2]? with
        | none => first
        | some value =>
            if before value then
              lowerBoundFrom before values fuel (first + count / 2 + 1) (count - (count / 2 + 1))
            else lowerBoundFrom before values fuel first (count / 2)

/-- `std::lower_bound`. -/
def lowerBound (before : α → Bool) (values : List α) : Nat :=
  lowerBoundFrom before values values.length 0 values.length

/-- The loop keeps the partition point inside `[first, first + count]`. -/
theorem lowerBoundFrom_eq {before : α → Bool} {front back : List α}
    (frontBefore : ∀ a ∈ front, before a = true) (backAfter : ∀ a ∈ back, before a = false)
    {fuel first count : Nat} (fuelEnough : count ≤ fuel) (lower : first ≤ front.length)
    (upper : front.length ≤ first + count) (inside : first + count ≤ (front ++ back).length) :
    lowerBoundFrom before (front ++ back) fuel first count = front.length := by
  induction fuel generalizing first count with
  | zero =>
      simp only [lowerBoundFrom]
      omega
  | succ fuel ih =>
      unfold lowerBoundFrom
      split
      · omega
      · have half : first + count / 2 < (front ++ back).length := by omega
        rw [List.getElem?_eq_getElem half]
        by_cases left : first + count / 2 < front.length
        · have decided : before (front ++ back)[first + count / 2] = true := by
            rw [List.getElem_append_left left]
            exact frontBefore _ (List.getElem_mem left)
          simp only [decided, if_true]
          exact ih (by omega) (by omega) (by omega) (by omega)
        · have right : first + count / 2 - front.length < back.length := by
            rw [List.length_append] at half
            omega
          have decided : before (front ++ back)[first + count / 2] = false := by
            rw [List.getElem_append_right (by omega)]
            exact backAfter _ (List.getElem_mem right)
          simp only [decided, Bool.false_eq_true, if_false]
          exact ih (by omega) (by omega) (by omega) (by omega)

theorem lowerBound_append {before : α → Bool} {front back : List α}
    (frontBefore : ∀ a ∈ front, before a = true) (backAfter : ∀ a ∈ back, before a = false) :
    lowerBound before (front ++ back) = front.length :=
  lowerBoundFrom_eq frontBefore backAfter (Nat.le_refl _) (Nat.zero_le _)
    (by rw [List.length_append]; omega) (by omega)

/-- `std::binary_search`. -/
def binarySearch [Less α] (value : α) (values : List α) : Bool :=
  match values[lowerBound (fun a => less a value) values]? with
  | some found => !less value found
  | none => false

/-- The position of `k` in a sorted list: between the values before it and the
values after it, with the value of that key in the middle when there is one. -/
inductive Located (key : α → κ) (k : κ) (values : List α) : Prop
  | present (front : List α) (value : α) (back : List α) :
    values = front ++ value :: back →
    lowerBound (fun a => less (key a) k) values = front.length →
    key value = k →
    (∀ a ∈ front, less (key a) k = true) → (∀ a ∈ back, less k (key a) = true) →
    Located key k values
  | absent (front back : List α) :
    values = front ++ back →
    lowerBound (fun a => less (key a) k) values = front.length →
    (∀ a ∈ front, less (key a) k = true) → (∀ a ∈ back, less k (key a) = true) →
    Located key k values

theorem located [StrictTotal κ] {values : List α} (sorted : SortedBy key values) (k : κ) :
    Located key k values := by
  have split : ∃ front back, values = front ++ back ∧
      (∀ a ∈ front, less (key a) k = true) ∧ (∀ a ∈ back, less (key a) k = false) := by
    induction values with
    | nil => exact ⟨[], [], rfl, by simp, by simp⟩
    | cons a rest ih =>
        obtain ⟨first, restSorted⟩ := List.pairwise_cons.mp sorted
        cases before : less (key a) k with
        | true =>
            obtain ⟨front, back, rfl, frontBefore, backAfter⟩ := ih restSorted
            refine ⟨a :: front, back, rfl, fun b member => ?_, backAfter⟩
            rcases List.mem_cons.mp member with rfl | member
            · exact before
            · exact frontBefore b member
        | false =>
            refine ⟨[], a :: rest, rfl, by simp, fun b member => ?_⟩
            rcases List.mem_cons.mp member with rfl | member
            · exact before
            · cases early : less (key b) k with
              | false => rfl
              | true =>
                  rw [StrictTotal.trans (first b member) early] at before
                  cases before
  rcases split with ⟨front, back, rfl, frontBefore, backAfter⟩
  have position : lowerBound (fun a => less (key a) k) (front ++ back) = front.length :=
    lowerBound_append frontBefore backAfter
  cases back with
  | nil => exact .absent front [] rfl position frontBefore (by simp)
  | cons value back =>
      have tail := (List.pairwise_append.mp sorted).2.1
      have following := (List.pairwise_cons.mp tail).1
      rcases less_trichotomy (key value) k with before | same | after
      · rw [backAfter value List.mem_cons_self] at before
        cases before
      · exact .present front value back rfl position same frontBefore
          fun a member => same ▸ following a member
      · refine .absent front (value :: back) rfl position frontBefore fun a member => ?_
        rcases List.mem_cons.mp member with rfl | member
        · exact after
        · exact StrictTotal.trans after (following a member)

/-! ## Lookup and edits at the lower bound -/

/-- The value of key `k`: `lower_bound` and the comparison after it. -/
def findKey [DecidableEq κ] (key : α → κ) (k : κ) (values : List α) : Option α :=
  match values[lowerBound (fun a => less (key a) k) values]? with
  | some found => if key found = k then some found else none
  | none => none

section Edits

variable [StrictTotal κ] {values : List α} {k : κ}

/-- Keys identify the values of a sorted list. -/
theorem SortedBy.eq_of_key_eq (sorted : SortedBy key values) {a b : α} (aMember : a ∈ values)
    (bMember : b ∈ values) (same : key a = key b) : a = b := by
  induction values with
  | nil => cases aMember
  | cons head rest ih =>
      obtain ⟨first, restSorted⟩ := List.pairwise_cons.mp sorted
      rcases List.mem_cons.mp aMember with rfl | aLater
      · rcases List.mem_cons.mp bMember with rfl | bLater
        · rfl
        · exact absurd same (less_ne (first b bLater))
      · rcases List.mem_cons.mp bMember with rfl | bLater
        · exact absurd same.symm (less_ne (first a aLater))
        · exact ih restSorted aLater bLater

theorem findKey_eq_some [DecidableEq κ] (sorted : SortedBy key values) {a : α} :
    findKey key k values = some a ↔ a ∈ values ∧ key a = k := by
  rcases located sorted k with
    ⟨front, value, back, rfl, position, found, frontBefore, backAfter⟩ |
    ⟨front, back, rfl, position, frontBefore, backAfter⟩
  · rw [findKey, position, List.getElem?_append_right (Nat.le_refl _), Nat.sub_self,
      List.getElem?_cons_zero]
    simp only [if_pos found]
    constructor
    · rintro ⟨⟩
      exact ⟨by simp, found⟩
    · rintro ⟨member, here⟩
      exact congrArg some (sorted.eq_of_key_eq (by simp) member (found.trans here.symm))
  · have missing : ∀ b ∈ front ++ back, key b ≠ k := by
      intro b member
      rcases List.mem_append.mp member with inFront | inBack
      · exact less_ne (frontBefore b inFront)
      · exact (less_ne (backAfter b inBack)).symm
    constructor
    · intro found
      unfold findKey at found
      split at found
      · next b present =>
          rw [if_neg (missing b (List.mem_of_getElem? present))] at found
          cases found
      · cases found
    · rintro ⟨member, here⟩
      exact absurd here (missing a member)

/-- `std::binary_search` in a sorted list is membership. -/
theorem binarySearch_iff {α : Type} [Less α] [StrictTotal α] {values : List α}
    (sorted : SortedBy id values) {value : α} :
    binarySearch value values = true ↔ value ∈ values := by
  rcases located sorted value with
    ⟨front, found, back, rfl, position, rfl, _, _⟩ |
    ⟨front, back, rfl, position, frontBefore, backAfter⟩
  · simp only [id] at position
    unfold binarySearch
    rw [id, position, List.getElem?_append_right (Nat.le_refl _), Nat.sub_self,
      List.getElem?_cons_zero]
    simp [StrictTotal.irrefl]
  · have missing : value ∉ front ++ back := by
      intro member
      rcases List.mem_append.mp member with inFront | inBack
      · exact less_ne (frontBefore value inFront) rfl
      · exact less_ne (backAfter value inBack) rfl
    simp only [id] at position backAfter
    unfold binarySearch
    rw [position, List.getElem?_append_right (Nat.le_refl _), Nat.sub_self]
    cases back with
    | nil => simpa using missing
    | cons found back =>
        have later := backAfter found List.mem_cons_self
        simpa [later] using missing

theorem findKey_eq_none [DecidableEq κ] (sorted : SortedBy key values) :
    findKey key k values = none ↔ ∀ a ∈ values, key a ≠ k := by
  constructor
  · intro absent a member here
    rw [(findKey_eq_some sorted).mpr ⟨member, here⟩] at absent
    cases absent
  · intro missing
    cases found : findKey key k values with
    | none => rfl
    | some a =>
        obtain ⟨member, here⟩ := (findKey_eq_some sorted).mp found
        exact absurd here (missing a member)

/-- A lookup by key agrees with a search through all the values: it finds the only
value of a key, wherever that stands, and nothing else. -/
structure FindsOnly [DecidableEq κ] (key : α → κ) (values : List α) (find : κ → Option α) :
    Prop where
  exhaustive (k : κ) : find k = values.find? fun a => decide (key a = k)
  found {k : κ} {a : α} : find k = some a ↔ a ∈ values ∧ key a = k
  missing {k : κ} : find k = none ↔ ∀ a ∈ values, key a ≠ k
  unique {a b : α} : a ∈ values → b ∈ values → key a = key b → a = b

theorem findsOnly_findKey [DecidableEq κ] (sorted : SortedBy key values) :
    FindsOnly key values fun k => findKey key k values where
  exhaustive k := by
    cases searched : values.find? fun a => decide (key a = k) with
    | none =>
        have missing := List.find?_eq_none.mp searched
        refine (findKey_eq_none sorted).mpr fun a member here => missing a member ?_
        exact decide_eq_true here
    | some a =>
        have here := List.find?_some searched
        exact (findKey_eq_some sorted).mpr
          ⟨List.mem_of_find?_eq_some searched, of_decide_eq_true here⟩
  found := findKey_eq_some sorted
  missing := findKey_eq_none sorted
  unique aMember bMember same := sorted.eq_of_key_eq aMember bMember same

theorem insertIdx_length_append (front back : List α) (a : α) :
    (front ++ back).insertIdx front.length a = front ++ a :: back := by
  induction front with
  | nil => rfl
  | cons b front ih =>
      rw [List.cons_append, List.length_cons, List.insertIdx_succ_cons, ih, List.cons_append]

/-- Inserting a new key at its lower bound keeps the order and adds one value. -/
theorem SortedBy.insertIdx (sorted : SortedBy key values) {a : α} (here : key a = k)
    (missing : ∀ b ∈ values, key b ≠ k) :
    SortedBy key (values.insertIdx (lowerBound (fun b => less (key b) k) values) a) ∧
      ∀ b, b ∈ values.insertIdx (lowerBound (fun b => less (key b) k) values) a ↔
        b = a ∨ b ∈ values := by
  rcases located sorted k with
    ⟨front, value, back, rfl, position, found, frontBefore, backAfter⟩ |
    ⟨front, back, rfl, position, frontBefore, backAfter⟩
  · exact absurd found (missing value (by simp))
  · rw [position, insertIdx_length_append]
    obtain ⟨frontSorted, backSorted, across⟩ := List.pairwise_append.mp sorted
    refine ⟨List.pairwise_append.mpr ⟨frontSorted, List.pairwise_cons.mpr
      ⟨fun b member => here ▸ backAfter b member, backSorted⟩, fun b inFront c member => ?_⟩,
      fun b => ?_⟩
    · rcases List.mem_cons.mp member with rfl | inBack
      · exact here ▸ frontBefore b inFront
      · exact across b inFront c inBack
    · simp only [List.mem_append, List.mem_cons]
      tauto

/-- Overwriting the value of a key keeps the order and exchanges two values. -/
theorem SortedBy.set (sorted : SortedBy key values) {a old : α} (here : key a = k)
    (oldMember : old ∈ values) (oldHere : key old = k) :
    SortedBy key (values.set (lowerBound (fun b => less (key b) k) values) a) ∧
      ∀ b, b ∈ values.set (lowerBound (fun b => less (key b) k) values) a ↔
        b = a ∨ (b ∈ values ∧ key b ≠ k) := by
  rcases located sorted k with
    ⟨front, value, back, rfl, position, found, frontBefore, backAfter⟩ |
    ⟨front, back, rfl, position, frontBefore, backAfter⟩
  · have placed : (front ++ value :: back).set front.length a = front ++ a :: back := by
      rw [List.set_append_right _ _ (Nat.le_refl _), Nat.sub_self, List.set_cons_zero]
    rw [position, placed]
    obtain ⟨frontSorted, backSorted, across⟩ := List.pairwise_append.mp sorted
    refine ⟨List.pairwise_append.mpr ⟨frontSorted, List.pairwise_cons.mpr
      ⟨fun b member => here ▸ backAfter b member, (List.pairwise_cons.mp backSorted).2⟩,
      fun b inFront c member => ?_⟩, fun b => ?_⟩
    · rcases List.mem_cons.mp member with rfl | inBack
      · exact here ▸ frontBefore b inFront
      · exact across b inFront c (List.mem_cons_of_mem _ inBack)
    · simp only [List.mem_append, List.mem_cons]
      constructor
      · rintro (inFront | rfl | inBack)
        · exact Or.inr ⟨Or.inl inFront, less_ne (frontBefore b inFront)⟩
        · exact Or.inl rfl
        · exact Or.inr ⟨Or.inr (Or.inr inBack), (less_ne (backAfter b inBack)).symm⟩
      · rintro (rfl | ⟨inFront | rfl | inBack, other⟩)
        · exact Or.inr (Or.inl rfl)
        · exact Or.inl inFront
        · exact absurd found other
        · exact Or.inr (Or.inr inBack)
  · rcases List.mem_append.mp oldMember with inFront | inBack
    · exact absurd oldHere (less_ne (frontBefore old inFront))
    · exact absurd oldHere.symm (less_ne (backAfter old inBack))

/-- Erasing the value of a key keeps the order and takes away one value. -/
theorem SortedBy.eraseIdx (sorted : SortedBy key values) {old : α} (oldMember : old ∈ values)
    (oldHere : key old = k) :
    SortedBy key (values.eraseIdx (lowerBound (fun b => less (key b) k) values)) ∧
      ∀ b, b ∈ values.eraseIdx (lowerBound (fun b => less (key b) k) values) ↔
        b ∈ values ∧ key b ≠ k := by
  rcases located sorted k with
    ⟨front, value, back, rfl, position, found, frontBefore, backAfter⟩ |
    ⟨front, back, rfl, position, frontBefore, backAfter⟩
  · have placed : (front ++ value :: back).eraseIdx front.length = front ++ back := by
      rw [List.eraseIdx_append_of_length_le (Nat.le_refl _), Nat.sub_self, List.eraseIdx_cons_zero]
    rw [position, placed]
    obtain ⟨frontSorted, backSorted, across⟩ := List.pairwise_append.mp sorted
    refine ⟨List.pairwise_append.mpr ⟨frontSorted, (List.pairwise_cons.mp backSorted).2,
      fun b inFront c inBack => across b inFront c (List.mem_cons_of_mem _ inBack)⟩,
      fun b => ?_⟩
    simp only [List.mem_append, List.mem_cons]
    constructor
    · rintro (inFront | inBack)
      · exact ⟨Or.inl inFront, less_ne (frontBefore b inFront)⟩
      · exact ⟨Or.inr (Or.inr inBack), (less_ne (backAfter b inBack)).symm⟩
    · rintro ⟨inFront | rfl | inBack, other⟩
      · exact Or.inl inFront
      · exact absurd found other
      · exact Or.inr inBack
  · rcases List.mem_append.mp oldMember with inFront | inBack
    · exact absurd oldHere (less_ne (frontBefore old inFront))
    · exact absurd oldHere.symm (less_ne (backAfter old inBack))

end Edits

/-! ## Multimaps

A map from keys to the values pushed under them, kept as the list of its entries
in key order.
-/

section Multimap

variable {β : Type}

/-- `map[k].push_back(value)`. -/
def pushBack (k : κ) (value : β) : List (κ × List β) → List (κ × List β)
  | [] => [(k, [value])]
  | (head, values) :: rest =>
      if less k head then (k, [value]) :: (head, values) :: rest
      else if less head k then (head, values) :: pushBack k value rest
      else (head, values ++ [value]) :: rest

/-- The map after pushing every value under its key, in order. -/
def gather (pairs : List (κ × β)) : List (κ × List β) :=
  pairs.foldl (fun map pair => pushBack pair.1 pair.2 map) []

theorem mem_pushBack [StrictTotal κ] {k : κ} {value : β} {map : List (κ × List β)}
    {entry : κ × List β} (member : entry ∈ pushBack k value map) :
    entry ∈ map ∨ entry = (k, [value]) ∨
      ∃ old, (k, old) ∈ map ∧ entry = (k, old ++ [value]) := by
  induction map with
  | nil => exact Or.inr (Or.inl (List.mem_singleton.mp member))
  | cons head rest ih =>
      rcases head with ⟨head, values⟩
      unfold pushBack at member
      split at member
      · rcases List.mem_cons.mp member with here | later
        · exact Or.inr (Or.inl here)
        · exact Or.inl later
      · next notBefore =>
          split at member
          · rcases List.mem_cons.mp member with here | later
            · exact Or.inl (here ▸ List.mem_cons_self)
            · rcases ih later with inRest | new | ⟨old, inRest, pushed⟩
              · exact Or.inl (List.mem_cons_of_mem _ inRest)
              · exact Or.inr (Or.inl new)
              · exact Or.inr (Or.inr ⟨old, List.mem_cons_of_mem _ inRest, pushed⟩)
          · next notAfter =>
              have same : k = head := StrictTotal.tie (Bool.eq_false_iff.mpr notBefore)
                (Bool.eq_false_iff.mpr notAfter)
              subst same
              rcases List.mem_cons.mp member with here | later
              · exact Or.inr (Or.inr ⟨values, List.mem_cons_self, here⟩)
              · exact Or.inl (List.mem_cons_of_mem _ later)

/-- A value pushed at most once under each key occurs at most once there. -/
theorem nodup_of_mem_gather [StrictTotal κ] {pairs : List (κ × β)} (distinct : pairs.Nodup)
    {entry : κ × List β} (member : entry ∈ gather pairs) : entry.2.Nodup := by
  have pushed : ∀ (pairs seen : List (κ × β)) (map : List (κ × List β)),
      (seen ++ pairs).Nodup →
      (∀ entry ∈ map, entry.2.Nodup ∧ ∀ value ∈ entry.2, (entry.1, value) ∈ seen) →
      ∀ entry ∈ pairs.foldl (fun map pair => pushBack pair.1 pair.2 map) map,
        entry.2.Nodup := by
    intro pairs
    induction pairs with
    | nil => exact fun _ _ _ held entry member => (held entry member).1
    | cons pair rest ih =>
        intro seen map distinct held
        refine ih (seen ++ [pair]) _ (by simpa using distinct) fun entry member => ?_
        have fresh : pair ∉ seen := by
          intro again
          exact (List.nodup_append.mp distinct).2.2 pair again pair List.mem_cons_self rfl
        rcases mem_pushBack member with old | rfl | ⟨values, old, rfl⟩
        · obtain ⟨nodup, inside⟩ := held entry old
          exact ⟨nodup, fun value here => List.mem_append_left _ (inside value here)⟩
        · refine ⟨List.nodup_singleton _, fun value here => ?_⟩
          cases List.mem_singleton.mp here
          exact List.mem_append_right _ List.mem_cons_self
        · obtain ⟨nodup, inside⟩ := held _ old
          refine ⟨List.nodup_append.mpr ⟨nodup, List.nodup_singleton _,
            fun value here other there => ?_⟩, fun value here => ?_⟩
          · cases List.mem_singleton.mp there
            rintro rfl
            exact fresh (inside _ here)
          · rcases List.mem_append.mp here with before | now
            · exact List.mem_append_left _ (inside value before)
            · cases List.mem_singleton.mp now
              exact List.mem_append_right _ List.mem_cons_self
  exact pushed pairs [] [] (by simpa using distinct) (by simp) entry member

/-- The values that the pairs push under one key, in order. -/
def pushedAt [DecidableEq κ] (k : κ) (pairs : List (κ × β)) : List β :=
  pairs.filterMap fun pair => if pair.1 = k then some pair.2 else none

omit [Less κ] in
theorem mem_pushedAt [DecidableEq κ] {k : κ} {pairs : List (κ × β)} {value : β} :
    value ∈ pushedAt k pairs ↔ (k, value) ∈ pairs := by
  simp only [pushedAt, List.mem_filterMap, Option.ite_none_right_eq_some, Option.some.injEq]
  constructor
  · rintro ⟨⟨_, _⟩, member, rfl, rfl⟩
    exact member
  · intro member
    exact ⟨(k, value), member, rfl, rfl⟩

theorem gather_concat (pairs : List (κ × β)) (pair : κ × β) :
    gather (pairs ++ [pair]) = pushBack pair.1 pair.2 (gather pairs) :=
  List.foldl_append

section Lookup

variable [StrictTotal κ]

theorem SortedBy.pushBack {map : List (κ × List β)} (sorted : SortedBy Prod.fst map) (k : κ)
    (value : β) : SortedBy Prod.fst (pushBack k value map) := by
  induction map with
  | nil => exact List.pairwise_singleton _ _
  | cons entry rest ih =>
      rcases entry with ⟨head, values⟩
      obtain ⟨first, restSorted⟩ := List.pairwise_cons.mp sorted
      unfold Keyed.pushBack
      split
      · next before =>
          refine List.pairwise_cons.mpr ⟨fun other member => ?_, sorted⟩
          rcases List.mem_cons.mp member with rfl | later
          · exact before
          · exact StrictTotal.trans before (first other later)
      · split
        · next after =>
            refine List.pairwise_cons.mpr ⟨fun other member => ?_, ih restSorted⟩
            rcases mem_pushBack member with old | rfl | ⟨earlier, old, rfl⟩
            · exact first other old
            · exact after
            · exact first (k, earlier) old
        · exact List.pairwise_cons.mpr ⟨first, restSorted⟩

theorem sortedBy_gather (pairs : List (κ × β)) : SortedBy Prod.fst (gather pairs) := by
  induction pairs using List.reverseRecOn with
  | nil => exact List.Pairwise.nil
  | append_singleton pairs pair ih =>
      rw [gather_concat]
      exact ih.pushBack pair.1 pair.2

variable [DecidableEq κ]

omit [Less κ] [StrictTotal κ] in
theorem lookup_cons_eq_ite (j head : κ) (values : β) (rest : List (κ × β)) :
    ((head, values) :: rest).lookup j = if j = head then some values else rest.lookup j := by
  rw [List.lookup_cons]
  by_cases same : j = head
  · rw [if_pos same, beq_iff_eq.mpr same]
  · rw [if_neg same, beq_eq_false_iff_ne.mpr same]

/-- A push adds to the values of its own key and leaves the others alone. -/
theorem lookup_pushBack {map : List (κ × List β)} (sorted : SortedBy Prod.fst map) (j k : κ)
    (value : β) : (pushBack k value map).lookup j =
      if j = k then some ((map.lookup k).getD [] ++ [value]) else map.lookup j := by
  induction map with
  | nil => exact lookup_cons_eq_ite j k [value] []
  | cons entry rest ih =>
      rcases entry with ⟨head, values⟩
      obtain ⟨first, restSorted⟩ := List.pairwise_cons.mp sorted
      unfold pushBack
      split
      · next before =>
          have missing : ((head, values) :: rest).lookup k = none := by
            refine List.lookup_eq_none_iff.mpr fun other member => ?_
            have apart : less k other.1 = true := by
              rcases List.mem_cons.mp member with rfl | later
              · exact before
              · exact StrictTotal.trans before (first other later)
            exact bne_iff_ne.mpr (less_ne apart)
          rw [lookup_cons_eq_ite, missing]
          rfl
      · next notBefore =>
          split
          · next after =>
              have apart : k ≠ head := (less_ne after).symm
              rw [lookup_cons_eq_ite, lookup_cons_eq_ite, lookup_cons_eq_ite, ih restSorted,
                if_neg apart]
              by_cases here : j = head
              · rw [if_pos here, if_pos here, if_neg (here ▸ apart.symm)]
              · rw [if_neg here, if_neg here]
          · next notAfter =>
              have same : k = head := StrictTotal.tie (Bool.eq_false_iff.mpr notBefore)
                (Bool.eq_false_iff.mpr notAfter)
              subst same
              rw [lookup_cons_eq_ite, lookup_cons_eq_ite, lookup_cons_eq_ite, if_pos rfl]
              by_cases here : j = k
              · rw [if_pos here, if_pos here]
                rfl
              · rw [if_neg here, if_neg here]
                exact (if_neg here).symm

/-- The map holds under each key what was pushed under it. -/
theorem lookup_gather (k : κ) (pairs : List (κ × β)) :
    (gather pairs).lookup k =
      if pushedAt k pairs = [] then none else some (pushedAt k pairs) := by
  induction pairs using List.reverseRecOn with
  | nil => rfl
  | append_singleton pairs pair ih =>
      rw [gather_concat, lookup_pushBack (sortedBy_gather pairs)]
      have pushed : pushedAt k (pairs ++ [pair]) =
          pushedAt k pairs ++ if pair.1 = k then [pair.2] else [] := by
        rw [pushedAt, List.filterMap_append]
        congr 1
        by_cases here : pair.1 = k <;> simp [here]
      rw [pushed]
      by_cases here : k = pair.1
      · subst here
        have held : ((gather pairs).lookup pair.1).getD [] = pushedAt pair.1 pairs := by
          rw [ih]
          split
          · next none => exact none.symm
          · rfl
        rw [held, if_pos rfl, if_pos rfl, if_neg (List.append_ne_nil_of_right_ne_nil _ (by simp))]
      · rw [if_neg here, ih, if_neg (Ne.symm here), List.append_nil]

theorem mem_gather {pairs : List (κ × β)} {entry : κ × List β} :
    entry ∈ gather pairs ↔ entry.2 = pushedAt entry.1 pairs ∧ entry.2 ≠ [] := by
  have found : entry ∈ gather pairs ↔ (gather pairs).lookup entry.1 = some entry.2 := by
    constructor
    · intro member
      obtain ⟨front, back, split⟩ := List.append_of_mem member
      refine List.lookup_eq_some_iff.mpr ⟨front, back, split, fun other inFront => ?_⟩
      have sorted := sortedBy_gather pairs
      rw [split] at sorted
      have before := (List.pairwise_append.mp sorted).2.2 other inFront entry List.mem_cons_self
      simpa using (less_ne before).symm
    · intro found
      obtain ⟨front, back, split, _⟩ := List.lookup_eq_some_iff.mp found
      rw [split]
      exact List.mem_append_right _ List.mem_cons_self
  rw [found, lookup_gather]
  split
  · next none => simp [none]
  · next some =>
      rw [Option.some.injEq]
      constructor
      · intro same
        exact ⟨same.symm, same ▸ some⟩
      · intro both
        exact both.1.symm

end Lookup

end Multimap

end Keyed
