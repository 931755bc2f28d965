import Pkgstate.PublicationDiff
import Pkgstate.SnapshotOwnership

/-!
# What a publication changes about ownership

A projection keeps the packages that no delta names and adds the proposed ones
(`mem_packages_of_project`). The positions of later packages shift, but `owners`
answers from the manifests, so only the packages that a request names can come or
go among the owners of a path (`project_ownersOf`).

The ownership identity of a snapshot hashes which packages own which paths. Packages
without manifest entries claim nothing, so they come and go without a trace in it
(`ownershipClaims_owning`); and a package that owns a path and is named by a request
leaves one, since no package after the publication has its identity
(`publication_keepsOwnership_iff`).
-/

namespace Pkgstate

open Wire Cpp Keyed

variable {sha256 : Sha256}

/-! ## The owners of a path -/

/-- A publication changes ownership only through the packages it names. After the
projection of a request, the owners of a path are, by name, its owners before
whose names no delta mentions, and the proposed packages that own it; where
neither an old nor a proposed package of a delta owns the path, its owners stay
the same. -/
theorem project_ownersOf {expected : Snapshot sha256}
    {deltas : StdVector (PackageStateDelta sha256)}
    {transactionEvidence : Option TransactionEvidenceIdentity}
    {request : StatePublicationRequest sha256}
    (built : StatePublicationRequest.make expected deltas transactionEvidence = .ok request)
    (distinct : Snapshot.DistinctIdentities (expected.packages ++ request.proposedPackages)) :
    ∃ result, projectPublicationRequest request expected = .ok result ∧
      ∀ path, ∃ before after, expected.ownersOf path = .ok before ∧
        result.ownersOf path = .ok after ∧
        SortedBy InstalledPackage.name after ∧
        (∀ package, package ∈ after ↔
          (package ∈ before ∧
            ∀ delta ∈ request.deltas.toList, delta.packageName ≠ package.name) ∨
          (package ∈ request.proposedPackages ∧ package.owns path = true)) ∧
        ((∀ delta ∈ request.deltas.toList,
            (∀ package ∈ expected.packages, package.name = delta.packageName →
              package.owns path = false) ∧
            ∀ proposed, delta.proposedPackage = some proposed → proposed.owns path = false) →
          after = before) := by
  obtain ⟨result, projected, _⟩ :=
    project_madeAgainst (StatePublicationRequest.make_ok built).1 distinct
  refine ⟨result, projected, fun path => ?_⟩
  have sortedOwners (snapshot : Snapshot sha256) : SortedBy InstalledPackage.name
      (snapshot.packages.filter fun package => package.owns path) :=
    snapshot.sorted.sublist List.filter_sublist
  have owners (package : InstalledPackage sha256) :
      (package ∈ result.packages.filter fun package => package.owns path) ↔
        ((package ∈ expected.packages.filter fun package => package.owns path) ∧
          ∀ delta ∈ request.deltas.toList, delta.packageName ≠ package.name) ∨
        (package ∈ request.proposedPackages ∧ package.owns path = true) := by
    rw [List.mem_filter, List.mem_filter, mem_packages_of_project projected, or_and_right,
      and_right_comm]
  refine ⟨_, _, expected.ownersOf_eq path, result.ownersOf_eq path, sortedOwners result, owners,
    fun elsewhere => ?_⟩
  apply (sortedOwners result).ext (sortedOwners expected)
  intro package
  rw [owners]
  constructor
  · rintro (⟨old, _⟩ | ⟨proposed, owned⟩)
    · exact old
    · obtain ⟨delta, member, proposes⟩ := List.mem_filterMap.mp proposed
      rw [(elsewhere delta member).2 package proposes] at owned
      cases owned
  · intro old
    refine Or.inl ⟨old, fun delta member named => ?_⟩
    obtain ⟨inPackages, owned⟩ := List.mem_filter.mp old
    rw [(elsewhere delta member).1 package inPackages named.symm] at owned
    cases owned

/-- The directory that nobody owned has one owner when one of the three deltas proposes
it. -/
theorem project_ownersOf_edits :
    ∃ (request : StatePublicationRequest Sha256.hash) (result : Snapshot Sha256.hash),
      projectPublicationRequest request Fixture.installedPair = .ok result ∧
      Fixture.installedPair.ownersOf Fixture.directory.path = .ok [] ∧
      result.ownersOf Fixture.directory.path = .ok [Fixture.owningPackage] := by
  obtain ⟨request, built, distinct⟩ := Fixture.make_edits
  obtain ⟨result, projected, owners⟩ := project_ownersOf built distinct
  obtain ⟨before, after, asked, answered, sorted, members, _⟩ := owners Fixture.directory.path
  have proposed := StatePublicationRequest.proposedPackages_perm built
  have unowned {package : InstalledPackage Sha256.hash} (free : package.manifest = []) :
      package.owns Fixture.directory.path ≠ true := by
    intro owned
    obtain ⟨entry, listed, _⟩ := InstalledPackage.owns_iff.mp owned
    exact List.not_mem_nil (free ▸ listed)
  have owned : Fixture.owningPackage.owns Fixture.directory.path = true :=
    InstalledPackage.owns_iff.mpr ⟨Fixture.directory, List.mem_cons_self, rfl⟩
  have none : before = [] := by
    have filtered := asked.symm.trans (Fixture.installedPair.ownersOf_eq Fixture.directory.path)
    rw [Except.ok.inj filtered]
    exact List.filter_eq_nil_iff.mpr fun package member =>
      unowned (mem_numberedPackages member).2.1
  subst none
  refine ⟨request, result, projected, asked, ?_⟩
  rw [answered]
  refine congrArg Except.ok (sorted.ext (List.pairwise_singleton _ _) fun package => ?_)
  rw [members, proposed.mem_iff, List.mem_singleton]
  constructor
  · rintro (⟨impossible, _⟩ | ⟨listed, owns⟩)
    · exact absurd impossible List.not_mem_nil
    · rcases List.mem_pair.mp (show package ∈ [Fixture.owningPackage, Fixture.third] from listed)
        with rfl | rfl
      · rfl
      · exact absurd owns (unowned rfl)
  · rintro rfl
    exact Or.inr ⟨List.mem_cons_self, owned⟩

/-! ## The ownership identity -/

/-- The packages that own a path. -/
def owning (packages : List (InstalledPackage sha256)) : List (InstalledPackage sha256) :=
  packages.filter fun package => package.manifest ≠ []

theorem mem_owning {packages : List (InstalledPackage sha256)}
    {package : InstalledPackage sha256} :
    package ∈ owning packages ↔ package ∈ packages ∧ package.manifest ≠ [] := by
  simp only [owning, List.mem_filter, decide_eq_true_eq]

/-- Only the packages that own a path claim anything. -/
theorem ownershipClaims_owning (packages : List (InstalledPackage sha256)) :
    ownershipClaims (owning packages) = ownershipClaims packages := by
  induction packages with
  | nil => rfl
  | cons package rest ih =>
      by_cases unowned : package.manifest = []
      · have dropped : owning (package :: rest) = owning rest :=
          List.filter_cons_of_neg (by simp [unowned])
        rw [dropped, ih, ownershipClaims, ownershipClaims, List.flatMap_cons, unowned]
        rfl
      · have kept : owning (package :: rest) = package :: owning rest :=
          List.filter_cons_of_pos (by simp [unowned])
        simp only [kept, ownershipClaims, List.flatMap_cons] at ih ⊢
        rw [ih]

/-- Snapshots whose packages claim alike have one ownership identity. -/
theorem ownershipIdentity_of_owning {a b : Snapshot sha256}
    (same : owning a.packages = owning b.packages) : a.ownershipIdentity = b.ownershipIdentity := by
  have aIdentified := a.ownership
  rw [← ownershipClaims_owning, same, ownershipClaims_owning, b.ownership] at aIdentified
  exact (Except.ok.inj aIdentified).symm

/-- The ownership records of two snapshots do not collide. -/
def Snapshot.OwnershipFree (a b : Snapshot sha256) : Prop :=
  ∀ aRecord bRecord, ownershipRecord (gather (ownershipClaims a.packages)) = .ok aRecord →
    ownershipRecord (gather (ownershipClaims b.packages)) = .ok bRecord →
    CollisionFree sha256 [aRecord, bRecord]

theorem Snapshot.exists_ownershipRecord (snapshot : Snapshot sha256) :
    ∃ record, ownershipRecord (gather (ownershipClaims snapshot.packages)) = .ok record := by
  have identified := snapshot.ownership
  unfold identifyOwnership at identified
  rcases bind_eq_ok.mp identified with ⟨record, hashed, _⟩
  exact ⟨record, hashed⟩

/-- Unless their ownership records collide, snapshots of one ownership identity have the
same packages own the same paths. -/
theorem ownershipRelation_of_identity {a b : Snapshot sha256}
    (aBound : a.packages.length < 2 ^ 64) (bBound : b.packages.length < 2 ^ 64)
    (free : a.OwnershipFree b) (same : a.ownershipIdentity = b.ownershipIdentity) :
    a.ownershipRelation = b.ownershipRelation := by
  obtain ⟨aRecord, aHashed⟩ := a.exists_ownershipRecord
  obtain ⟨bRecord, bHashed⟩ := b.exists_ownershipRecord
  obtain ⟨aIdentity, aSorted, aWritten⟩ := Snapshot.ownershipRecord_eq_ok aHashed
  obtain ⟨bIdentity, bSorted, bWritten⟩ := Snapshot.ownershipRecord_eq_ok bHashed
  rw [aIdentity, bIdentity] at same
  have records := (free aRecord bRecord aHashed bHashed).record_eq (by simp) (by simp) same
  rw [aWritten, bWritten] at records
  have written := (SelfDelimiting.u64.strip (List.append_cancel_left records)).2
  have inventories := Snapshot.ownershipInventory_inj aBound bBound written
  ext ⟨path, owner⟩
  rw [Snapshot.mem_ownershipRelation_iff aSorted, Snapshot.mem_ownershipRelation_iff bSorted,
    inventories]

/-- No package that a delta expects or proposes owns a path. -/
def PackageStateDelta.Unowned (before : Snapshot sha256) (delta : PackageStateDelta sha256) :
    Prop :=
  (∀ current, before.findPackage delta.packageName = some current → current.manifest = []) ∧
    ∀ proposed, delta.proposedPackage = some proposed → proposed.manifest = []

section Publication

variable {request : StatePublicationRequest sha256} {before after : Snapshot sha256}

/-- Deltas without paths leave the packages that own one as they are. -/
theorem owning_of_unowned (projected : projectPublicationRequest request before = .ok after)
    (unowned : ∀ delta ∈ request.deltas.toList, delta.Unowned before) :
    owning before.packages = owning after.packages := by
  have sorted (snapshot : Snapshot sha256) : SortedBy InstalledPackage.name
      (owning snapshot.packages) :=
    snapshot.sorted.sublist List.filter_sublist
  apply (sorted before).ext (sorted after)
  intro package
  rw [mem_owning, mem_owning, mem_packages_of_project projected]
  constructor
  · intro ⟨member, owns⟩
    refine ⟨Or.inl ⟨member, fun delta inDeltas named => owns ?_⟩, owns⟩
    exact (unowned delta inDeltas).1 package (Snapshot.findPackage_eq_some.mpr ⟨member, named.symm⟩)
  · intro ⟨present, owns⟩
    rcases present with ⟨member, _⟩ | proposed
    · exact ⟨member, owns⟩
    · obtain ⟨delta, inDeltas, proposes⟩ := List.mem_filterMap.mp proposed
      exact absurd ((unowned delta inDeltas).2 package proposes) owns

/-- A path of a named package is claimed on one side of a publication only. -/
theorem unowned_of_relation (projected : projectPublicationRequest request before = .ok after)
    (distinct : Snapshot.DistinctIdentities (before.packages ++ after.packages))
    (same : before.ownershipRelation = after.ownershipRelation) :
    ∀ delta ∈ request.deltas.toList, delta.Unowned before := by
  have leads := leads_of_project projected
  -- Who owns a path on one side is the package of the same identity on the other.
  have both {package : InstalledPackage sha256} {a b : Snapshot sha256}
      (relation : a.ownershipRelation = b.ownershipRelation)
      (apart : Snapshot.DistinctIdentities (a.packages ++ b.packages))
      (member : package ∈ a.packages) (owns : package.manifest ≠ []) : package ∈ b.packages := by
    obtain ⟨entry, listed⟩ := List.exists_mem_of_ne_nil _ owns
    have claimed : (entry.path.string, package.identity) ∈ a.ownershipRelation :=
      ⟨package, member, entry.path, InstalledPackage.owns_iff.mpr ⟨entry, listed, rfl⟩, rfl⟩
    rw [relation] at claimed
    obtain ⟨other, inOther, _, _, claim⟩ := claimed
    have equal := apart package (List.mem_append_left _ member) other
      (List.mem_append_right _ inOther) (Prod.ext_iff.mp claim).2
    exact equal ▸ inOther
  have changed {delta : PackageStateDelta sha256} (member : delta ∈ request.deltas.toList) :
      before.findPackage delta.packageName ≠ after.findPackage delta.packageName :=
    mem_changedNames.mp (leads.names.mem_iff.mp (List.mem_map_of_mem member))
  intro delta member
  refine ⟨fun current found => ?_, fun proposed proposes => ?_⟩
  · by_contra owns
    obtain ⟨inBefore, named⟩ := Snapshot.findPackage_eq_some.mp found
    have inAfter := both same distinct inBefore owns
    exact changed member (found.trans (Snapshot.findPackage_eq_some.mpr ⟨inAfter, named⟩).symm)
  · by_contra owns
    have found := (leads.between delta member).proposes.symm.trans proposes
    obtain ⟨inAfter, named⟩ := Snapshot.findPackage_eq_some.mp found
    have swapped : Snapshot.DistinctIdentities (after.packages ++ before.packages) :=
      distinct.mono fun package either => List.mem_append.mpr (List.mem_append.mp either).symm
    have inBefore := both same.symm swapped inAfter owns
    exact changed member ((Snapshot.findPackage_eq_some.mpr ⟨inBefore, named⟩).trans found.symm)

/-- A publication keeps the ownership identity exactly if no package that it removes,
replaces, installs or proposes in replacement owns a path: unless hashed records collide,
a path that such a package owns shows in the identity, even if the package proposed in
its place owns the same paths. -/
theorem publication_keepsOwnership_iff
    (projected : projectPublicationRequest request before = .ok after)
    (distinct : Snapshot.DistinctIdentities (before.packages ++ after.packages))
    (beforeBound : before.packages.length < 2 ^ 64) (afterBound : after.packages.length < 2 ^ 64)
    (free : before.OwnershipFree after) :
    before.ownershipIdentity = after.ownershipIdentity ↔
      ∀ delta ∈ request.deltas.toList,
        (∀ current, before.findPackage delta.packageName = some current →
          current.manifest = []) ∧
        ∀ proposed, delta.proposedPackage = some proposed → proposed.manifest = [] := by
  refine ⟨fun same => ?_, fun unowned => ?_⟩
  · exact unowned_of_relation projected distinct
      (ownershipRelation_of_identity beforeBound afterBound free same)
  · exact ownershipIdentity_of_owning (owning_of_unowned projected unowned)

end Publication

/-- Where one of the deltas proposes an owner of the directory, the ownership identity
changes, and without it it stays. -/
theorem publication_keepsOwnership_iff_edits :
    (∃ (request : StatePublicationRequest Sha256.hash) (result : Snapshot Sha256.hash),
      projectPublicationRequest request Fixture.installedPair = .ok result ∧
      Fixture.installedPair.ownershipIdentity ≠ result.ownershipIdentity) ∧
    ∃ request : StatePublicationRequest Sha256.hash,
      projectPublicationRequest request (Snapshot.empty Fixture.binding) =
        .ok Fixture.installedPair ∧
      (Snapshot.empty Fixture.binding).ownershipIdentity =
        Fixture.installedPair.ownershipIdentity := by
  have unclaimed : ownershipClaims Fixture.installedPair.packages = [] :=
    Snapshot.ownershipClaims_of_unowned fun _ member => (mem_numberedPackages member).2.1
  constructor
  · obtain ⟨request, built, distinct⟩ := Fixture.make_edits
    obtain ⟨result, projected, _⟩ :=
      project_madeAgainst (StatePublicationRequest.make_ok built).1 distinct
    have packages := Fixture.packages_edits built projected
    have claims : ownershipClaims result.packages =
        [(Fixture.directory.path.string, Fixture.owningPackage.identity)] := by
      rw [packages]
      rfl
    have free : Fixture.installedPair.OwnershipFree result := by
      intro aRecord bRecord aHashed bHashed
      cases (Fixture.ownershipRecord_unowned unclaimed).symm.trans aHashed
      cases (Fixture.ownershipRecord_owning claims).symm.trans bHashed
      exact Fixture.collisionFree.mono (by simp [Fixture.records])
    have samples : Snapshot.DistinctIdentities
        (Fixture.installedPair.packages ++ result.packages) := by
      rw [packages]
      exact Fixture.distinctIdentities
        (List.append_subset.mpr ⟨Fixture.numberedPackages_subset, by simp [Fixture.packages]⟩)
    have few : result.packages.length < 2 ^ 64 := packages ▸ (by decide)
    refine ⟨request, result, projected, fun same => ?_⟩
    have unowned := (publication_keepsOwnership_iff projected samples (by decide) few free).mp
      same (.replacing Fixture.owningPackage Fixture.package_ne_owningPackage)
      ((StatePublicationRequest.make_ok built).2.1.mem_iff.mpr List.mem_cons_self)
    exact List.cons_ne_nil _ _ (unowned.2 Fixture.owningPackage rfl)
  · obtain ⟨request, built, projected⟩ := Fixture.make_installs
    have samples : Snapshot.DistinctIdentities
        ((Snapshot.empty Fixture.binding).packages ++ Fixture.installedPair.packages) :=
      Fixture.distinctIdentities Fixture.numberedPackages_subset
    have free : (Snapshot.empty Fixture.binding).OwnershipFree Fixture.installedPair := by
      intro aRecord bRecord aHashed bHashed
      cases (Fixture.ownershipRecord_unowned rfl).symm.trans aHashed
      cases (Fixture.ownershipRecord_unowned unclaimed).symm.trans bHashed
      exact Fixture.collisionFree.mono (by simp [Fixture.records])
    refine ⟨request, projected,
      (publication_keepsOwnership_iff projected samples (by decide) (by decide) free).mpr ?_⟩
    intro delta member
    refine ⟨fun current found => ?_, fun proposed proposes => ?_⟩
    · exact absurd (Snapshot.findPackage_eq_some.mp found).1 List.not_mem_nil
    · have listed := (leads_of_project projected).between delta member |>.proposes
      have installed := (Snapshot.findPackage_eq_some.mp (listed.symm.trans proposes)).1
      exact (mem_numberedPackages installed).2.1

end Pkgstate
