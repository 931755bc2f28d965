import Pkgstate.PublicationProjection

/-!
# Conflicting publications

Two requests made against one snapshot can be published one after the other exactly
when they name no package in common: the deltas of the second are then accepted
against the result of the first, and the order of the two does not matter. A package
that both name always conflicts, since what the first proposes is never what the
second expects.
-/

namespace Pkgstate

open Wire Cpp Keyed

variable {sha256 : Sha256}

namespace StatePublicationRequest

/-- The requests name no package in common. -/
def Disjoint (a b : StatePublicationRequest sha256) : Prop :=
  ∀ first ∈ a.deltas.toList, ∀ second ∈ b.deltas.toList, first.packageName ≠ second.packageName

instance (a b : StatePublicationRequest sha256) : Decidable (a.Disjoint b) :=
  inferInstanceAs (Decidable (∀ first ∈ a.deltas.toList, ∀ second ∈ b.deltas.toList,
    first.packageName ≠ second.packageName))

theorem Disjoint.symm {a b : StatePublicationRequest sha256} (apart : a.Disjoint b) :
    b.Disjoint a :=
  fun first firstMember second secondMember =>
    (apart second secondMember first firstMember).symm

theorem nodup_names (request : StatePublicationRequest sha256) :
    (request.deltas.toList.map PackageStateDelta.packageName).Nodup :=
  nodup_map_key request.deltas.sorted

section Rebase

variable {base after : Snapshot sha256} {a b rebased : StatePublicationRequest sha256}

/-- A snapshot in which the packages that a request names are as they were admits its
deltas. -/
theorem admits_after (made : b.MadeAgainst base)
    (projected : projectPublicationRequest a base = .ok after) (apart : a.Disjoint b) :
    ∀ delta ∈ b.deltas.toList, Admits after delta := by
  obtain ⟨target, lookups⟩ := project_lookups projected
  intro delta member
  have admits := made.admits delta member
  constructor
  · rw [lookups, editMap_of_not_mem fun other named => apart other named delta member]
    exact admits.current
  · intro proposed proposes
    rw [target, admits.target proposes]

/-- Two requests with one package in common conflict: the delta of the second expects
what was there before the first. -/
theorem disjoint_of_admits (aMade : a.MadeAgainst base) (bMade : b.MadeAgainst base)
    (projected : projectPublicationRequest a base = .ok after)
    (admits : ∀ delta ∈ b.deltas.toList, Admits after delta) : a.Disjoint b := by
  intro first firstMember second secondMember same
  have before := (aMade.admits first firstMember).current
  have expects := (bMade.admits second secondMember).current
  have finds := (admits second secondMember).current
  rw [(project_lookups projected).2, ← same,
    editMap_of_mem (nodup_map_key a.deltas.sorted) firstMember] at finds
  rw [← same, ← before, finds] at expects
  exact first.proposed_ne_expected expects

/-- The deltas of a request are accepted again exactly where they are admitted. -/
theorem make_again_iff {snapshot : Snapshot sha256} :
    (∃ again, make snapshot b.deltas.toStdVector b.transactionEvidence = .ok again) ↔
      ∀ delta ∈ b.deltas.toList, Admits snapshot delta := by
  constructor
  · intro ⟨again, built⟩ delta member
    obtain ⟨made, arranged, _⟩ := make_ok built
    exact made.admits delta (arranged.mem_iff.mpr member)
  · intro admits
    exact make_of_admits b.nonempty b.nodup_names b.composed
      fun delta member => ⟨admits delta member, b.evidence delta member⟩

theorem deltas_of_make_again {snapshot : Snapshot sha256}
    (built : make snapshot b.deltas.toStdVector b.transactionEvidence = .ok rebased) :
    rebased.deltas = b.deltas := by
  obtain ⟨_, arranged, _⟩ := make_ok built
  apply SortedVector.toList_inj
  exact rebased.deltas.sorted.ext b.deltas.sorted fun delta => arranged.mem_iff

/-- The edits of requests with no package in common may be made in either order. -/
theorem editMap_comm (apart : a.Disjoint b)
    (map : StdString → Option (InstalledPackage sha256)) :
    editMap b.deltas.toList (editMap a.deltas.toList map) =
      editMap a.deltas.toList (editMap b.deltas.toList map) := by
  funext name
  by_cases first : ∃ delta ∈ a.deltas.toList, delta.packageName = name
  · rcases first with ⟨delta, member, rfl⟩
    have untouched : ∀ other ∈ b.deltas.toList, other.packageName ≠ delta.packageName :=
      fun other named => (apart delta member other named).symm
    rw [editMap_of_not_mem untouched, editMap_of_mem a.nodup_names member,
      editMap_of_mem a.nodup_names member]
  · have untouched : ∀ delta ∈ a.deltas.toList, delta.packageName ≠ name :=
      fun delta member same => first ⟨delta, member, same⟩
    rw [editMap_of_not_mem untouched]
    by_cases second : ∃ delta ∈ b.deltas.toList, delta.packageName = name
    · rcases second with ⟨delta, member, rfl⟩
      rw [editMap_of_mem b.nodup_names member, editMap_of_mem b.nodup_names member]
    · have alone : ∀ delta ∈ b.deltas.toList, delta.packageName ≠ name :=
        fun delta member same => second ⟨delta, member, same⟩
      rw [editMap_of_not_mem alone, editMap_of_not_mem alone, editMap_of_not_mem untouched]

/-- What a request proposes again is what it proposed. -/
theorem proposedPackages_of_make_again {snapshot : Snapshot sha256}
    (built : make snapshot b.deltas.toStdVector b.transactionEvidence = .ok rebased) :
    rebased.proposedPackages = b.proposedPackages := by
  rw [proposedPackages, deltas_of_make_again built]
  rfl

/-- After the first of two requests with no package in common, the second can be made
again and published. -/
theorem project_again (made : b.MadeAgainst base)
    (projected : projectPublicationRequest a base = .ok after) (apart : a.Disjoint b)
    (distinct : Snapshot.DistinctIdentities
      (base.packages ++ (a.proposedPackages ++ b.proposedPackages))) :
    ∃ again last, make after b.deltas.toStdVector b.transactionEvidence = .ok again ∧
      projectPublicationRequest again after = .ok last ∧
      last.targetBinding = base.targetBinding ∧
      last.findPackage = editMap b.deltas.toList (editMap a.deltas.toList base.findPackage) := by
  obtain ⟨again, built⟩ := make_again_iff.mpr (admits_after made projected apart)
  have separate : Snapshot.DistinctIdentities (after.packages ++ again.proposedPackages) := by
    apply distinct.mono
    intro package member
    rcases List.mem_append.mp member with old | new
    · rcases (mem_packages_of_project projected).mp old with ⟨there, _⟩ | proposed
      · exact List.mem_append_left _ there
      · exact List.mem_append_right _ (List.mem_append_left _ proposed)
    · rw [proposedPackages_of_make_again built] at new
      exact List.mem_append_right _ (List.mem_append_right _ new)
  obtain ⟨last, onto, target, lookups⟩ := project_madeAgainst (make_ok built).1 separate
  obtain ⟨first, found⟩ := project_lookups projected
  refine ⟨again, last, built, onto, target.trans first, ?_⟩
  rw [lookups, deltas_of_make_again built, found]

end Rebase

end StatePublicationRequest

open StatePublicationRequest in
/-- Conflicts are detected exactly. Of two requests made against one snapshot, the
deltas of the second are accepted against the result of the first just when the two
name no package in common. Then they can be published in either order, and both orders
end in the same snapshot. -/
theorem rebase_iff {base : Snapshot sha256} {deltas others : StdVector (PackageStateDelta sha256)}
    {evidence otherEvidence : Option TransactionEvidenceIdentity}
    {a b : StatePublicationRequest sha256}
    (first : StatePublicationRequest.make base deltas evidence = .ok a)
    (second : StatePublicationRequest.make base others otherEvidence = .ok b)
    (distinct : Snapshot.DistinctIdentities
      (base.packages ++ (a.proposedPackages ++ b.proposedPackages))) :
    ∃ afterFirst afterSecond, projectPublicationRequest a base = .ok afterFirst ∧
      projectPublicationRequest b base = .ok afterSecond ∧
      ((∃ again, StatePublicationRequest.make afterFirst others otherEvidence = .ok again) ↔
        a.Disjoint b) ∧
      (a.Disjoint b → ∃ firstAgain secondAgain last,
        StatePublicationRequest.make afterFirst others otherEvidence = .ok secondAgain ∧
        StatePublicationRequest.make afterSecond deltas evidence = .ok firstAgain ∧
        projectPublicationRequest secondAgain afterFirst = .ok last ∧
        projectPublicationRequest firstAgain afterSecond = .ok last) := by
  obtain ⟨aMade, aArranged, rfl⟩ := make_ok first
  obtain ⟨bMade, bArranged, rfl⟩ := make_ok second
  have swapped : Snapshot.DistinctIdentities
      (base.packages ++ (b.proposedPackages ++ a.proposedPackages)) := by
    apply distinct.mono
    intro package member
    simp only [List.mem_append] at member ⊢
    exact member.imp_right Or.symm
  obtain ⟨afterFirst, aProjected, _⟩ := project_madeAgainst aMade (distinct.mono fun package =>
    fun member => List.append_assoc _ _ b.proposedPackages ▸ List.mem_append_left _ member)
  obtain ⟨afterSecond, bProjected, _⟩ := project_madeAgainst bMade (swapped.mono fun package =>
    fun member => List.append_assoc _ _ a.proposedPackages ▸ List.mem_append_left _ member)
  refine ⟨afterFirst, afterSecond, aProjected, bProjected, ⟨?_, ?_⟩, ?_⟩
  · intro ⟨again, built⟩
    apply disjoint_of_admits aMade bMade aProjected
    exact make_again_iff.mp ⟨again, make_of_perm built bArranged⟩
  · intro apart
    obtain ⟨again, built⟩ := make_again_iff.mpr (admits_after bMade aProjected apart)
    exact ⟨again, make_of_perm built bArranged.symm⟩
  · intro apart
    obtain ⟨secondAgain, last, bAgain, bLast, target, lookups⟩ :=
      project_again bMade aProjected apart distinct
    obtain ⟨firstAgain, other, aAgain, aLast, otherTarget, otherLookups⟩ :=
      project_again aMade bProjected apart.symm swapped
    have same : other = last := Snapshot.ext_findPackage (otherTarget.trans target.symm)
      (otherLookups.trans ((editMap_comm apart _).symm.trans lookups.symm))
    exact ⟨firstAgain, secondAgain, last, make_of_perm bAgain bArranged.symm,
      make_of_perm aAgain aArranged.symm, bLast, same ▸ aLast⟩

theorem rebase_iff_installs :
    ∃ (a b firstAgain secondAgain : StatePublicationRequest Sha256.hash)
      (afterFirst afterSecond last : Snapshot Sha256.hash), a.Disjoint b ∧
      projectPublicationRequest a (Snapshot.empty Fixture.binding) = .ok afterFirst ∧
      projectPublicationRequest b (Snapshot.empty Fixture.binding) = .ok afterSecond ∧
      projectPublicationRequest secondAgain afterFirst = .ok last ∧
      projectPublicationRequest firstAgain afterSecond = .ok last := by
  obtain ⟨a, aBuilt, aProposes, _⟩ := StatePublicationRequest.make_installing Fixture.package
  obtain ⟨b, bBuilt, bProposes, _⟩ := StatePublicationRequest.make_installing Fixture.second
  -- Both are made against the empty state of the samples' target.
  have first : StatePublicationRequest.make (Snapshot.empty Fixture.binding)
      (.singleton (.installing Fixture.package)) (some Fixture.transaction) = .ok a := aBuilt
  have second : StatePublicationRequest.make (Snapshot.empty Fixture.binding)
      (.singleton (.installing Fixture.second)) (some Fixture.transaction) = .ok b := bBuilt
  have distinct : Snapshot.DistinctIdentities ((Snapshot.empty Fixture.binding).packages ++
      (a.proposedPackages ++ b.proposedPackages)) := by
    rw [aProposes, bProposes]
    exact Fixture.distinctIdentities Fixture.numberedPackages_subset
  obtain ⟨afterFirst, afterSecond, aProjected, bProjected, _, commute⟩ :=
    rebase_iff first second distinct
  have apart : a.Disjoint b := by
    intro here hereMember there thereMember
    rw [StatePublicationRequest.deltas_singleton first] at hereMember
    rw [StatePublicationRequest.deltas_singleton second] at thereMember
    cases List.mem_singleton.mp hereMember
    cases List.mem_singleton.mp thereMember
    intro same
    exact absurd (numberedName_inj (by decide) (by decide) same) (by decide)
  obtain ⟨firstAgain, secondAgain, last, _, _, onFirst, onSecond⟩ := commute apart
  exact ⟨a, b, firstAgain, secondAgain, afterFirst, afterSecond, last, apart, aProjected,
    bProjected, onFirst, onSecond⟩

end Pkgstate
