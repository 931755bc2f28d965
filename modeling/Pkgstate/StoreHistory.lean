import Pkgstate.StoreConcurrency

/-!
# Where installed packages come from

In a run from the empty state, every package of the durable state goes back to one
published request: the last that names it. `Traced` says so of one package and
the record of changes; a change keeps it for the packages that it does not name
and establishes it for those that it proposes.
-/

namespace Pkgstate

open Wire Cpp Keyed LockedUpdate

variable {sha256 : Sha256} {ι : Type} {request : ι → StatePublicationRequest sha256}

/-- The delta of a request that put a package in place: an installation or a
replacement that proposes it, with the evidence that its receipt retains. -/
structure Installs (request : StatePublicationRequest sha256) (delta : PackageStateDelta sha256)
    (package : InstalledPackage sha256) : Prop where
  member : delta ∈ request.deltas.toList
  name : delta.packageName = package.name
  kind : delta.kind = .install ∨ delta.kind = .replace
  proposes : delta.proposedPackage = some package
  operationPlan : delta.operationPlan = package.receipt.operationPlan
  applicationEvidence : delta.applicationEvidence = package.receipt.applicationEvidence
  transactionEvidence : request.transactionEvidence = package.receipt.transactionEvidence

/-- The last published request with a delta of the package's name put the package in
place. -/
def Traced (request : ι → StatePublicationRequest sha256)
    (changes : List (Change ι (Snapshot sha256))) (package : InstalledPackage sha256) : Prop :=
  ∃ earlier change later, changes = earlier ++ change :: later ∧
    (∀ other ∈ later, ∀ delta ∈ (request other.call).deltas.toList,
      delta.packageName ≠ package.name) ∧
    ∃ delta, Installs (request change.call) delta package

theorem Installs.of_proposed {request : StatePublicationRequest sha256}
    {package : InstalledPackage sha256} (proposed : package ∈ request.proposedPackages) :
    ∃ delta, Installs request delta package := by
  obtain ⟨delta, member, proposes⟩ := List.mem_filterMap.mp proposed
  obtain ⟨kind, plan, evidence⟩ := delta.proposed_evidence proposes
  refine ⟨delta, member, (delta.proposed_name proposes).symm, kind, proposes, plan.symm,
    evidence.symm, ?_⟩
  exact (request.evidence delta member package proposes).symm

/-- A package that a change does not name keeps its history. -/
theorem Traced.concat {changes : List (Change ι (Snapshot sha256))}
    {package : InstalledPackage sha256} {change : Change ι (Snapshot sha256)}
    (traced : Traced request changes package)
    (unnamed : ∀ delta ∈ (request change.call).deltas.toList,
      delta.packageName ≠ package.name) :
    Traced request (changes ++ [change]) package := by
  rcases traced with ⟨earlier, origin, later, rfl, quiet, installs⟩
  refine ⟨earlier, origin, later ++ [change], ?_, ?_, installs⟩
  · rw [List.append_assoc, List.cons_append]
  · intro other member
    rcases List.mem_append.mp member with old | new
    · exact quiet other old
    · cases List.mem_singleton.mp new
      exact unnamed

/-- One change: the packages after it are traced when those before it are. -/
theorem traced_change {earlier : List (Change ι (Snapshot sha256))}
    {change : Change ι (Snapshot sha256)}
    (projected : projectPublicationRequest (request change.call) change.before =
      .ok change.after)
    (traced : ∀ package ∈ change.before.packages, Traced request earlier package) :
    ∀ package ∈ change.after.packages, Traced request (earlier ++ [change]) package := by
  intro package member
  rcases (mem_packages_of_project projected).mp member with ⟨old, unnamed⟩ | proposed
  · exact (traced package old).concat unnamed
  · exact ⟨earlier, change, [], rfl, fun other later => absurd later List.not_mem_nil,
      Installs.of_proposed proposed⟩

/-- Every installed package is traceable. In every run from the empty state of a
target, each package of the durable state is what the last published request that
names it installed or put in another's place, with the evidence that its receipt
retains, and it belongs to that target. -/
theorem packages_traced [DecidableEq ι] {target : StateTargetBinding sha256}
    {system : System ι StdString (Snapshot sha256)
      (Except Failure StatePublicationBackendResult)
      (Except Failure (StatePublicationReceipt sha256))}
    (reached : Reachable (storeProtocol sha256) request (Snapshot.empty target) system) :
    ∀ package ∈ system.durable.packages,
      Traced request system.changes package ∧ package.targetBinding = target := by
  have invariant := reached.invariant
  let holds (changes : List (Change ι (Snapshot sha256))) (state : Snapshot sha256) : Prop :=
    state.targetBinding = target ∧ ∀ package ∈ state.packages, Traced request changes package
  have held : holds system.changes system.durable := by
    refine invariant.chain.induction
      ⟨rfl, fun package member => absurd member List.not_mem_nil⟩ ?_
    intro earlier change member ⟨same, traced⟩
    obtain ⟨storageFormat, planned⟩ := invariant.planned change member
    have projected := (plan_eq_inr.mp planned).2
    exact ⟨(project_lookups projected).1.trans same, traced_change projected traced⟩
  intro package member
  exact ⟨held.2 package member, (system.durable.bound package member).trans held.1⟩

/-- Two packages are installed, and then the first is replaced, the second removed and a
third installed. -/
theorem packages_traced_edits :
    ∃ (request : Bool → StatePublicationRequest Sha256.hash)
      (system : System Bool StdString (Snapshot Sha256.hash)
        (Except Failure StatePublicationBackendResult)
        (Except Failure (StatePublicationReceipt Sha256.hash))),
      Reachable (storeProtocol Sha256.hash) request (Snapshot.empty Fixture.binding) system ∧
      system.changes.map Change.call = [false, true] ∧
      system.durable.packages = [Fixture.owningPackage, Fixture.third] ∧
      ∀ package ∈ [Fixture.owningPackage, Fixture.third],
        Traced request system.changes package ∧ package.targetBinding = Fixture.binding := by
  obtain ⟨install, installBuilt, installed⟩ := Fixture.make_installs
  obtain ⟨edit, editBuilt, distinct⟩ := Fixture.make_edits
  obtain ⟨result, edited, _⟩ :=
    project_madeAgainst (StatePublicationRequest.make_ok editBuilt).1 distinct
  let request : Bool → StatePublicationRequest Sha256.hash := fun call => cond call edit install
  let changes : List (Change Bool (Snapshot Sha256.hash)) :=
    [⟨false, Snapshot.empty Fixture.binding, Fixture.installedPair⟩,
      ⟨true, Fixture.installedPair, result⟩]
  have planned : ∀ change ∈ changes, ∃ storageFormat, (storeProtocol Sha256.hash).plan
      (request change.call) storageFormat change.before = .inr change.after := by
    refine List.forall_mem_cons.mpr ⟨?_, List.forall_mem_singleton.mpr ?_⟩
    · exact exists_plan_iff.mpr installed
    · exact exists_plan_iff.mpr edited
  obtain ⟨system, reached, recorded, durable⟩ := (reachable_changes_iff
    ⟨.ok .generationSelected, Effect.noConfusion⟩).mpr
      ⟨show Chain (Snapshot.empty Fixture.binding) changes result from ⟨rfl, rfl, rfl⟩,
        (by decide : [false, true].Nodup), planned⟩
  have left : system.durable.packages = [Fixture.owningPackage, Fixture.third] :=
    durable ▸ Fixture.packages_edits editBuilt edited
  refine ⟨request, system, reached, recorded ▸ rfl, left, ?_⟩
  rw [← left]
  exact packages_traced reached

end Pkgstate
