import Pkgstate.Base.Keyed
import Mathlib.Data.List.Perm.Basic

/-!
# Constructions from reordered arguments

A value is built from vectors whose elements are built from vectors again, and
each constructor may refuse. `Agrees` relates the outcomes of two constructions:
both refuse, or both succeed with related values; it passes along `>>=`. `Reordered`
relates two lists whose elements are related in some order, so that an arrangement
at one level and arrangements inside the elements are one relation, and
`constructAll` takes reordered arguments to permuted values.
-/

namespace Cpp

section Agreement

variable {ε α β γ δ : Type}

/-- Both fail, or both succeed with related values. -/
inductive Agrees (related : α → β → Prop) : Except ε α → Except ε β → Prop
  | fail (failure other : ε) : Agrees related (.error failure) (.error other)
  | succeed {a : α} {b : β} : related a b → Agrees related (.ok a) (.ok b)

namespace Agrees

variable {related : α → β → Prop} {x : Except ε α} {y : Except ε β}

theorem of_eq {x y : Except ε α} (same : x = y) : Agrees Eq x y := by
  subst same
  cases x with
  | error failure => exact .fail failure failure
  | ok a => exact .succeed rfl

theorem bind {next : γ → δ → Prop} {f : α → Except ε γ} {g : β → Except ε δ}
    (first : Agrees related x y) (then' : ∀ {a b}, related a b → Agrees next (f a) (g b)) :
    Agrees next (x >>= f) (y >>= g) := by
  cases first with
  | fail failure other => exact .fail failure other
  | succeed both => exact then' both

end Agrees

end Agreement

/-! ## Arrangements at every level -/

section Reordering

variable {ε α β : Type}

/-- Lists whose elements are related in some order. -/
def Reordered (related : α → α → Prop) (as bs : List α) : Prop :=
  ∃ middle, as.Perm middle ∧ List.Forall₂ related middle bs

/-- Construct the elements of a list one after the other. -/
def constructEach (construct : α → Except ε β) : List α → Except ε (List β)
  | [] => .ok []
  | a :: rest => do
      let b ← construct a
      let bs ← constructEach construct rest
      pure (b :: bs)

theorem constructEach_ok_iff {construct : α → Except ε β} {as : List α} {bs : List β} :
    constructEach construct as = .ok bs ↔
      List.Forall₂ (fun a b => construct a = .ok b) as bs := by
  induction as generalizing bs with
  | nil =>
      rw [List.forall₂_nil_left_iff]
      exact ⟨fun built => (Except.ok.inj built).symm, fun empty => congrArg Except.ok empty.symm⟩
  | cons a rest ih =>
      rw [constructEach, bind_eq_ok]
      constructor
      · rintro ⟨b, first, built⟩
        obtain ⟨others, tail, built⟩ := bind_eq_ok.mp built
        cases built
        exact .cons first (ih.mp tail)
      · rintro (_ | ⟨first, tail⟩)
        exact ⟨_, first, bind_eq_ok.mpr ⟨_, ih.mpr tail, rfl⟩⟩

/-- Constructing in another order constructs the same elements in that order. -/
theorem constructEach_perm (construct : α → Except ε β) {as bs : List α} (perm : as.Perm bs) :
    Agrees List.Perm (constructEach construct as) (constructEach construct bs) := by
  cases first : constructEach construct as with
  | ok built =>
      obtain ⟨others, each, arranged⟩ :=
        List.perm_comp_forall₂ perm.symm (constructEach_ok_iff.mp first)
      rw [constructEach_ok_iff.mpr each]
      exact .succeed arranged.symm
  | error failure =>
      cases second : constructEach construct bs with
      | error other => exact .fail failure other
      | ok built =>
          obtain ⟨others, each, _⟩ :=
            List.perm_comp_forall₂ perm (constructEach_ok_iff.mp second)
          rw [constructEach_ok_iff.mpr each] at first
          cases first

theorem constructEach_agrees {construct : α → Except ε β} {as bs : List α}
    (each : List.Forall₂ (fun a b => Agrees Eq (construct a) (construct b)) as bs) :
    Agrees Eq (constructEach construct as) (constructEach construct bs) := by
  induction each with
  | nil => exact .succeed rfl
  | cons first _ ih =>
      apply first.bind
      rintro a _ rfl
      apply ih.bind
      rintro rest _ rfl
      exact .succeed rfl

/-- A vector of constructed elements. -/
def constructAll (construct : α → Except ε β) (values : StdVector α) : Except ε (StdVector β) :=
  match built : constructEach construct values.toList with
  | .error failure => .error failure
  | .ok results => .ok ⟨results, by
      rw [← (constructEach_ok_iff.mp built).length_eq]
      exact values.size_lt⟩

/-- Reordered arguments construct permuted values, or none of the two constructs any. -/
theorem constructAll_agrees {construct : α → Except ε β} {related : α → α → Prop}
    {values others : StdVector α} (reordered : Reordered related values.toList others.toList)
    (each : ∀ {a b}, related a b → Agrees Eq (construct a) (construct b)) :
    Agrees (fun built otherBuilt => built.toList.Perm otherBuilt.toList)
      (constructAll construct values) (constructAll construct others) := by
  obtain ⟨middle, arranged, pairwise⟩ := reordered
  have permuted := constructEach_perm construct arranged
  have agreed := constructEach_agrees (pairwise.imp fun _ _ both => each both)
  unfold constructAll
  split
  · next failure failed =>
      split
      · next other _ => exact .fail failure other
      · next results built =>
          generalize constructEach construct middle = outcome at permuted agreed
          rw [failed] at permuted
          rw [built] at agreed
          cases permuted
          cases agreed
  · next results built =>
      generalize constructEach construct middle = outcome at permuted agreed
      rw [built] at permuted
      cases permuted with
      | succeed first =>
          split
          · next failed =>
              rw [failed] at agreed
              cases agreed
          · next otherBuilt =>
              rw [otherBuilt] at agreed
              cases agreed with
              | succeed second => exact .succeed (second ▸ first)

end Reordering

end Cpp
