import Pkgstate.PublicationProjection

/-!
# Undoing a publication

A publication of one delta can be taken back by a publication of the inverse delta:
the removal of what was installed, the installation of what was removed, or the
replacement of the new package by the old one. Every package that a state holds
passes the evidence checks of the factories against its own receipt
(`inverseDelta_ok`), and two edits of the map of packages under one name leave the
second, so the publication ends in the very snapshot that it started from
(`publication_undone`).
-/

namespace Pkgstate

open Wire Cpp Keyed

variable {sha256 : Sha256}

namespace PackageStateDelta

theorem validateReceiptEvidence_self (package : InstalledPackage sha256) :
    validateReceiptEvidence package package.receipt.operationPlan
      package.receipt.applicationEvidence = .ok () :=
  validateReceiptEvidence_iff.mpr ⟨rfl, rfl⟩

/-- A different package under its own evidence makes a replacement. -/
theorem replace_self {expected : InstalledPackageIdentity} {proposed : InstalledPackage sha256}
    (changes : expected ≠ proposed.identity) :
    ∃ delta, replace expected proposed proposed.receipt.operationPlan
        proposed.receipt.applicationEvidence = .ok delta ∧
      delta.packageName = proposed.name ∧ delta.expectedPackage = some expected ∧
      delta.proposedPackage = some proposed := by
  unfold replace
  split
  · next failed =>
      rw [validateReceiptEvidence_self] at failed
      cases failed
  · rw [dif_neg changes]
    exact ⟨_, rfl, rfl, rfl, rfl⟩

end PackageStateDelta

open PackageStateDelta in
/-- The delta that takes back a delta published onto `prior`. A removal may state any
plan and evidence; what is restored has its own in its receipt. -/
def inverseDelta (prior : Snapshot sha256) (delta : PackageStateDelta sha256)
    (operationPlan : OperationPlanIdentity) (applicationEvidence : ApplicationEvidenceIdentity) :
    Except Failure (PackageStateDelta sha256) :=
  match delta.kind, delta.proposedPackage, prior.findPackage delta.packageName with
  | .install, some installed, _ =>
      remove installed.name installed.identity operationPlan applicationEvidence
  | .remove, _, some removed =>
      install removed removed.receipt.operationPlan removed.receipt.applicationEvidence
  | .replace, some new, some old =>
      replace new.identity old old.receipt.operationPlan old.receipt.applicationEvidence
  | _, _, _ => .error .outOfRange

/-- The transaction evidence to publish the inverse delta with: that of the restored
package, and any for a removal. -/
def inverseEvidence (prior : Snapshot sha256) (delta : PackageStateDelta sha256)
    (transactionEvidence : Option TransactionEvidenceIdentity) :
    Option TransactionEvidenceIdentity :=
  match prior.findPackage delta.packageName with
  | some restored => restored.receipt.transactionEvidence
  | none => transactionEvidence

/-- The factories accept the inverse of an admitted delta. It expects what the delta
proposed and proposes what the delta found. -/
theorem inverseDelta_ok {prior : Snapshot sha256} {delta : PackageStateDelta sha256}
    (admits : Admits prior delta) (operationPlan : OperationPlanIdentity)
    (applicationEvidence : ApplicationEvidenceIdentity) :
    ∃ inverse, inverseDelta prior delta operationPlan applicationEvidence = .ok inverse ∧
      inverse.packageName = delta.packageName ∧
      inverse.expectedPackage = delta.proposedPackage.map InstalledPackage.identity ∧
      inverse.proposedPackage = prior.findPackage delta.packageName := by
  have current := admits.current
  unfold inverseDelta
  rcases delta.factory with ⟨proposed, kind, expects, proposes, named, _⟩ |
    ⟨expected, proposed, kind, expects, proposes, named, changes, _⟩ |
    ⟨expected, kind, expects, proposes, _⟩
  · -- What was installed is removed again.
    have absent : prior.findPackage delta.packageName = none :=
      Option.map_eq_none_iff.mp (current.symm.trans expects)
    have lineSafe : validatePackageName proposed.name.bytes = .ok () :=
      requireLineSafe_iff.mpr proposed.release.package.lineSafe
    rw [kind, proposes, absent]
    exact ⟨_, checked_of_ok lineSafe, named, rfl, rfl⟩
  · -- The old package replaces the new one, which is another.
    obtain ⟨old, found, same⟩ := Option.map_eq_some_iff.mp (current.symm.trans expects)
    have oldNamed := (Snapshot.findPackage_eq_some.mp found).2
    obtain ⟨inverse, built, name, expecting, proposing⟩ :=
      PackageStateDelta.replace_self (fun equal => changes (same.symm.trans equal.symm))
    rw [kind, proposes, found]
    exact ⟨inverse, built, name.trans oldNamed, expecting, proposing⟩
  · -- What was removed is installed under the evidence it had.
    obtain ⟨removed, found, _⟩ := Option.map_eq_some_iff.mp (current.symm.trans expects)
    have removedNamed := (Snapshot.findPackage_eq_some.mp found).2
    rw [kind, proposes, found]
    exact ⟨_, checked_of_ok (PackageStateDelta.validateReceiptEvidence_self removed),
      removedNamed, rfl, rfl⟩

/-- A request that leads back to the map of a snapshot projects onto that snapshot. -/
theorem project_of_restores {request : StatePublicationRequest sha256}
    {current prior : Snapshot sha256} (made : request.MadeAgainst current)
    (target : current.targetBinding = prior.targetBinding)
    (restores : editMap request.deltas.toList current.findPackage = prior.findPackage) :
    projectPublicationRequest request current = .ok prior := by
  obtain ⟨packages, ran, sorted, edited⟩ := projectDeltas_run current.sorted
    (nodup_map_key request.deltas.sorted) fun delta member => (made.admits delta member).current
  have kept : packages = prior.packages := by
    apply sorted.ext_findKey prior.sorted
    intro name
    exact congrFun (edited.trans restores) name
  rw [projectPublicationRequest, if_neg (not_not.mpr made.targetBinding.symm),
    if_neg (not_not.mpr made.expectedSnapshot.symm), ran]
  change Snapshot.make request.targetBinding packages = .ok prior
  rw [kept, made.targetBinding, target, Snapshot.make_self]

/-- A delta that expects what was published and proposes what was there before is
accepted and leads back. -/
theorem publish_inverse {prior next : Snapshot sha256} {delta inverse : PackageStateDelta sha256}
    (target : next.targetBinding = prior.targetBinding)
    (lookups : next.findPackage =
      Function.update prior.findPackage delta.packageName delta.proposedPackage)
    (name : inverse.packageName = delta.packageName)
    (expects : inverse.expectedPackage = delta.proposedPackage.map InstalledPackage.identity)
    (proposes : inverse.proposedPackage = prior.findPackage delta.packageName)
    (transactionEvidence : Option TransactionEvidenceIdentity) :
    ∃ undo, StatePublicationRequest.make next (.singleton inverse)
        (inverseEvidence prior delta transactionEvidence) = .ok undo ∧
      projectPublicationRequest undo next = .ok prior := by
  have admits : Admits next inverse := by
    constructor
    · rw [expects, name, lookups, Function.update_self]
    · intro proposed proposing
      have found := proposes.symm.trans proposing
      rw [target, prior.bound proposed (Snapshot.findPackage_eq_some.mp found).1]
  have retains : RetainsEvidence (inverseEvidence prior delta transactionEvidence) inverse := by
    intro proposed proposing
    rw [inverseEvidence, proposes.symm.trans proposing]
  obtain ⟨undo, built⟩ := StatePublicationRequest.make_singleton admits retains
  obtain ⟨made, _⟩ := StatePublicationRequest.make_ok built
  have single := StatePublicationRequest.deltas_singleton built
  refine ⟨undo, built, project_of_restores made target ?_⟩
  rw [single, lookups]
  change Function.update
    (Function.update prior.findPackage delta.packageName delta.proposedPackage)
    inverse.packageName inverse.proposedPackage = prior.findPackage
  rw [name, proposes, Function.update_idem, Function.update_eq_self]

/-- Every publication of one delta can be undone exactly. It is published unless two
of the packages involved collide, and whatever it publishes, the inverse delta is
accepted there and leads back to the snapshot before it. -/
theorem publication_undone {prior : Snapshot sha256} {delta : PackageStateDelta sha256}
    {transactionEvidence : Option TransactionEvidenceIdentity}
    {request : StatePublicationRequest sha256}
    (built : StatePublicationRequest.make prior (.singleton delta) transactionEvidence =
      .ok request) :
    (Snapshot.DistinctIdentities (prior.packages ++ request.proposedPackages) →
      ∃ next, projectPublicationRequest request prior = .ok next) ∧
    ∀ next, projectPublicationRequest request prior = .ok next →
      ∀ operationPlan applicationEvidence anyEvidence, ∃ inverse undo,
        inverseDelta prior delta operationPlan applicationEvidence = .ok inverse ∧
        StatePublicationRequest.make next (.singleton inverse)
          (inverseEvidence prior delta anyEvidence) = .ok undo ∧
        projectPublicationRequest undo next = .ok prior := by
  constructor
  · intro distinct
    obtain ⟨next, projected, _⟩ :=
      project_madeAgainst (StatePublicationRequest.make_ok built).1 distinct
    exact ⟨next, projected⟩
  · intro next projected operationPlan applicationEvidence anyEvidence
    obtain ⟨admits, target, lookups⟩ := project_single built projected
    obtain ⟨inverse, inverted, name, expects, proposes⟩ :=
      inverseDelta_ok admits operationPlan applicationEvidence
    obtain ⟨undo, accepted, restored⟩ :=
      publish_inverse target lookups name expects proposes anyEvidence
    exact ⟨inverse, undo, inverted, accepted, restored⟩

/-- A replacement, a removal and an installation are each published onto two packages
and taken back. -/
theorem publication_undone_edits :
    Fixture.edits.toList.Forall fun delta =>
      ∃ (request undo : StatePublicationRequest Sha256.hash) (next : Snapshot Sha256.hash)
        (inverse : PackageStateDelta Sha256.hash),
        StatePublicationRequest.make Fixture.installedPair (.singleton delta)
          (some Fixture.transaction) = .ok request ∧
        projectPublicationRequest request Fixture.installedPair = .ok next ∧
        next ≠ Fixture.installedPair ∧
        inverseDelta Fixture.installedPair delta (Fixture.identity 1) (Fixture.identity 2) =
          .ok inverse ∧
        StatePublicationRequest.make next (.singleton inverse)
          (inverseEvidence Fixture.installedPair delta none) = .ok undo ∧
        projectPublicationRequest undo next = .ok Fixture.installedPair := by
  refine List.forall_iff_forall_mem.mpr fun delta member => ?_
  obtain ⟨admits, retains⟩ := Fixture.admits_edits delta member
  obtain ⟨request, built⟩ := StatePublicationRequest.make_singleton admits retains
  have proposed := StatePublicationRequest.proposedPackages_perm built
  have samples : request.proposedPackages ⊆ Fixture.packages := by
    intro package proposes
    obtain ⟨other, single, here⟩ := List.mem_filterMap.mp (proposed.mem_iff.mp proposes)
    cases List.mem_singleton.mp single
    exact Fixture.edits_subset (List.mem_filterMap.mpr ⟨delta, member, here⟩)
  obtain ⟨published, undone⟩ := publication_undone built
  obtain ⟨next, projected⟩ := published (Fixture.distinctIdentities
    (List.append_subset.mpr ⟨Fixture.numberedPackages_subset, samples⟩))
  obtain ⟨inverse, undo, inverted, accepted, restored⟩ := undone next projected
    (Fixture.identity 1) (Fixture.identity 2) none
  exact ⟨request, undo, next, inverse, built, projected, project_ne projected, inverted,
    accepted, restored⟩

end Pkgstate
