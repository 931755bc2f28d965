import Mathlib.Data.List.Dedup
import Pkgstate.PublicationUndo

/-!
# From one snapshot to another

`changedNames` are the package names on which two snapshots differ. A request that
leads from one to the other names exactly these, and says of each what the two
snapshots hold (`Leads`). `deltasBetween` writes the deltas down, so one knows when
there is such a request (`publication_leads_iff`) and how many there are
(`publication_determined`).
-/

namespace Pkgstate

open Wire Cpp Keyed

variable {sha256 : Sha256}

/-! ## Differences -/

/-- The names under which two snapshots hold different packages. -/
def changedNames (before after : Snapshot sha256) : List StdString :=
  ((before.packages ++ after.packages).map InstalledPackage.name).dedup.filter fun name =>
    before.findPackage name ≠ after.findPackage name

theorem mem_changedNames {before after : Snapshot sha256} {name : StdString} :
    name ∈ changedNames before after ↔ before.findPackage name ≠ after.findPackage name := by
  rw [changedNames, List.mem_filter, decide_eq_true_iff, and_iff_right_iff_imp]
  intro differ
  rw [List.mem_dedup, List.mem_map]
  cases old : before.findPackage name with
  | some package =>
      obtain ⟨member, named⟩ := Snapshot.findPackage_eq_some.mp old
      exact ⟨package, List.mem_append_left _ member, named⟩
  | none =>
      cases new : after.findPackage name with
      | some package =>
          obtain ⟨member, named⟩ := Snapshot.findPackage_eq_some.mp new
          exact ⟨package, List.mem_append_right _ member, named⟩
      | none => exact absurd (old.trans new.symm) differ

theorem nodup_changedNames (before after : Snapshot sha256) : (changedNames before after).Nodup :=
  (List.nodup_dedup _).filter _

theorem length_changedNames_le (before after : Snapshot sha256) :
    (changedNames before after).length ≤ before.packages.length + after.packages.length := by
  have filtered := List.length_filter_le
    (fun name => decide (before.findPackage name ≠ after.findPackage name))
    ((before.packages ++ after.packages).map InstalledPackage.name).dedup
  have listed := (List.dedup_sublist
    ((before.packages ++ after.packages).map InstalledPackage.name)).length_le
  rw [List.length_map, List.length_append] at listed
  exact filtered.trans listed

/-- Snapshots of one target without a difference are one snapshot. -/
theorem changedNames_eq_nil {before after : Snapshot sha256}
    (target : before.targetBinding = after.targetBinding) :
    changedNames before after = [] ↔ before = after := by
  constructor
  · intro none
    apply Snapshot.ext_findPackage target
    funext name
    by_contra differ
    exact List.not_mem_nil (none ▸ mem_changedNames.mpr differ)
  · rintro rfl
    apply List.eq_nil_iff_forall_not_mem.mpr
    intro name member
    exact mem_changedNames.mp member rfl

/-! ## Requests that lead from one snapshot to another -/

/-- A delta expects what one snapshot holds under its name and proposes what another
holds there. -/
structure Between (before after : Snapshot sha256) (delta : PackageStateDelta sha256) : Prop where
  expects : delta.expectedPackage =
    (before.findPackage delta.packageName).map InstalledPackage.identity
  proposes : delta.proposedPackage = after.findPackage delta.packageName

/-- The first of two snapshots of one target admits the deltas between them. -/
theorem Between.admits {before after : Snapshot sha256} {delta : PackageStateDelta sha256}
    (between : Between before after delta) (target : before.targetBinding = after.targetBinding) :
    Admits before delta := by
  refine ⟨between.expects, fun found => ?_⟩
  rw [between.proposes] at found
  rw [target, after.bound _ (Snapshot.findPackage_eq_some.mp found).1]

/-- A request has a delta between two snapshots for every name on which they differ,
and no other. -/
structure Leads (request : StatePublicationRequest sha256) (before after : Snapshot sha256) :
    Prop where
  names : (request.deltas.toList.map PackageStateDelta.packageName).Perm
    (changedNames before after)
  between : ∀ delta ∈ request.deltas.toList, Between before after delta

/-- Whatever a request projects, it leads there. -/
theorem leads_of_project {request : StatePublicationRequest sha256}
    {before after : Snapshot sha256}
    (projected : projectPublicationRequest request before = .ok after) :
    Leads request before after := by
  have names := nodup_map_key request.deltas.sorted
  have made := madeAgainst_of_project projected
  have lookups := (project_lookups projected).2
  have between : ∀ delta ∈ request.deltas.toList, Between before after delta := by
    intro delta member
    refine ⟨(made.admits delta member).current, ?_⟩
    rw [lookups, editMap_of_mem names member]
  refine ⟨(List.perm_ext_iff_of_nodup names (nodup_changedNames before after)).mpr ?_, between⟩
  intro name
  rw [mem_changedNames, List.mem_map]
  constructor
  · rintro ⟨delta, member, rfl⟩ same
    obtain ⟨expects, proposes⟩ := between delta member
    apply delta.proposed_ne_expected
    rw [expects, proposes, same]
  · intro differ
    by_contra unnamed
    have untouched : ∀ delta ∈ request.deltas.toList, delta.packageName ≠ name :=
      fun delta member here => unnamed ⟨delta, member, here⟩
    rw [lookups, editMap_of_not_mem untouched] at differ
    exact differ rfl

/-- The kind of a delta is fixed by what it expects and proposes. -/
theorem PackageStateDelta.kind_eq (delta : PackageStateDelta sha256) : delta.kind =
    match delta.expectedPackage, delta.proposedPackage with
    | none, _ => .install
    | some _, some _ => .replace
    | some _, none => .remove := by
  rcases delta.factory with ⟨_, kind, expects, _⟩ | ⟨_, _, kind, expects, proposes, _⟩ |
    ⟨_, kind, expects, proposes, _⟩
  · rw [kind, expects]
  · rw [kind, expects, proposes]
  · rw [kind, expects, proposes]

/-- A delta that proposes a package is fixed by what it expects and proposes. -/
theorem PackageStateDelta.eq_of_proposed {a b : PackageStateDelta sha256}
    {proposed : InstalledPackage sha256} (expects : a.expectedPackage = b.expectedPackage)
    (aProposes : a.proposedPackage = some proposed)
    (bProposes : b.proposedPackage = some proposed) : a = b := by
  obtain ⟨_, aPlan, aEvidence⟩ := a.proposed_evidence aProposes
  obtain ⟨_, bPlan, bEvidence⟩ := b.proposed_evidence bProposes
  have kind : a.kind = b.kind := by
    rw [a.kind_eq, b.kind_eq, expects, aProposes, bProposes]
  have name : a.packageName = b.packageName :=
    (a.proposed_name aProposes).symm.trans (b.proposed_name bProposes)
  rcases a with ⟨_, _, _, _, _, _, _⟩
  rcases b with ⟨_, _, _, _, _, _, _⟩
  cases kind
  cases name
  cases expects
  cases aProposes
  cases bProposes
  cases aPlan.symm.trans bPlan
  cases aEvidence.symm.trans bEvidence
  rfl

/-! ## The deltas between two snapshots -/

/-- The delta from what one snapshot holds under a name to what another holds there. A
removal states the plan and the evidence given, the other deltas what the proposed
package retains. -/
def deltaBetween (before after : Snapshot sha256) (operationPlan : OperationPlanIdentity)
    (applicationEvidence : ApplicationEvidenceIdentity) (name : StdString) :
    Except Failure (PackageStateDelta sha256) :=
  match before.findPackage name, after.findPackage name with
  | none, some proposed => PackageStateDelta.install proposed proposed.receipt.operationPlan
      proposed.receipt.applicationEvidence
  | some current, some proposed => PackageStateDelta.replace current.identity proposed
      proposed.receipt.operationPlan proposed.receipt.applicationEvidence
  | some current, none =>
      PackageStateDelta.remove name current.identity operationPlan applicationEvidence
  | none, none => .error .outOfRange

/-- The deltas for a list of names. -/
def deltasBetween (before after : Snapshot sha256) (operationPlan : OperationPlanIdentity)
    (applicationEvidence : ApplicationEvidenceIdentity) :
    List StdString → Except Failure (List (PackageStateDelta sha256))
  | [] => .ok []
  | name :: rest => do
      let delta ← deltaBetween before after operationPlan applicationEvidence name
      let others ← deltasBetween before after operationPlan applicationEvidence rest
      pure (delta :: others)

section Between

variable {before after : Snapshot sha256} (operationPlan : OperationPlanIdentity)
  (applicationEvidence : ApplicationEvidenceIdentity)

theorem deltaBetween_ok {name : StdString}
    (distinct : Snapshot.DistinctIdentities (before.packages ++ after.packages))
    (differ : before.findPackage name ≠ after.findPackage name) :
    ∃ delta, deltaBetween before after operationPlan applicationEvidence name = .ok delta ∧
      delta.packageName = name ∧ Between before after delta := by
  unfold deltaBetween
  cases old : before.findPackage name with
  | none =>
      cases new : after.findPackage name with
      | none => exact absurd (old.trans new.symm) differ
      | some proposed =>
          have named := (Snapshot.findPackage_eq_some.mp new).2
          refine ⟨_, checked_of_ok (PackageStateDelta.validateReceiptEvidence_self proposed),
            named, ⟨?_, ?_⟩⟩
          · change none = (before.findPackage proposed.name).map InstalledPackage.identity
            rw [named, old, Option.map_none]
          · change some proposed = after.findPackage proposed.name
            rw [named, new]
  | some current =>
      obtain ⟨oldMember, oldNamed⟩ := Snapshot.findPackage_eq_some.mp old
      cases new : after.findPackage name with
      | none =>
          have lineSafe : validatePackageName name.bytes = .ok () :=
            oldNamed ▸ requireLineSafe_iff.mpr current.release.package.lineSafe
          refine ⟨_, checked_of_ok lineSafe, rfl, ⟨?_, new.symm⟩⟩
          change some current.identity = (before.findPackage name).map InstalledPackage.identity
          rw [old, Option.map_some]
      | some proposed =>
          obtain ⟨newMember, newNamed⟩ := Snapshot.findPackage_eq_some.mp new
          have changes : current.identity ≠ proposed.identity := by
            intro same
            have equal := distinct current (List.mem_append_left _ oldMember) proposed
              (List.mem_append_right _ newMember) same
            exact differ (by rw [old, new, equal])
          obtain ⟨delta, built, named, expects, proposes⟩ :=
            PackageStateDelta.replace_self changes
          refine ⟨delta, built, named.trans newNamed, ⟨?_, ?_⟩⟩
          · rw [expects, named, newNamed, old, Option.map_some]
          · rw [proposes, named, newNamed, new]

theorem deltasBetween_ok {names : List StdString}
    (distinct : Snapshot.DistinctIdentities (before.packages ++ after.packages))
    (differ : ∀ name ∈ names, before.findPackage name ≠ after.findPackage name) :
    ∃ deltas, deltasBetween before after operationPlan applicationEvidence names = .ok deltas ∧
      deltas.map PackageStateDelta.packageName = names ∧
      ∀ delta ∈ deltas, Between before after delta := by
  induction names with
  | nil => exact ⟨[], rfl, rfl, fun delta member => absurd member List.not_mem_nil⟩
  | cons name rest ih =>
      obtain ⟨delta, built, named, between⟩ := deltaBetween_ok operationPlan applicationEvidence
        distinct (differ name List.mem_cons_self)
      obtain ⟨others, ran, restNamed, all⟩ :=
        ih fun other later => differ other (List.mem_cons_of_mem _ later)
      refine ⟨delta :: others, ?_, ?_, ?_⟩
      · exact bind_eq_ok.mpr ⟨delta, built, bind_eq_ok.mpr ⟨others, ran, rfl⟩⟩
      · rw [List.map_cons, named, restNamed]
      · exact List.forall_mem_cons.mpr ⟨between, all⟩

/-- A request that leads from one snapshot to another projects onto it. -/
theorem project_of_leads {request : StatePublicationRequest sha256}
    (made : request.MadeAgainst before) (leads : Leads request before after)
    (target : before.targetBinding = after.targetBinding)
    (distinct : Snapshot.DistinctIdentities (before.packages ++ after.packages)) :
    projectPublicationRequest request before = .ok after := by
  have separate : Snapshot.DistinctIdentities (before.packages ++ request.proposedPackages) := by
    apply distinct.mono
    intro package member
    rcases List.mem_append.mp member with old | new
    · exact List.mem_append_left _ old
    · obtain ⟨delta, inDeltas, proposes⟩ := List.mem_filterMap.mp new
      rw [(leads.between delta inDeltas).proposes] at proposes
      exact List.mem_append_right _ (Snapshot.findPackage_eq_some.mp proposes).1
  obtain ⟨result, projected, resultTarget, lookups⟩ := project_madeAgainst made separate
  have same : result = after := by
    apply Snapshot.ext_findPackage (resultTarget.trans target)
    funext name
    rw [lookups]
    by_cases named : ∃ delta ∈ request.deltas.toList, delta.packageName = name
    · rcases named with ⟨delta, member, rfl⟩
      rw [editMap_of_mem (nodup_map_key request.deltas.sorted) member,
        (leads.between delta member).proposes]
    · rw [editMap_of_not_mem fun delta member here => named ⟨delta, member, here⟩]
      by_contra differ
      exact named (List.mem_map.mp (leads.names.mem_iff.mpr (mem_changedNames.mpr differ)))
  exact same ▸ projected

/-- Differing snapshots of one target whose new packages retain one transaction evidence
are connected by a request. -/
theorem exists_leading {transactionEvidence : Option TransactionEvidenceIdentity}
    (distinct : Snapshot.DistinctIdentities (before.packages ++ after.packages))
    (target : before.targetBinding = after.targetBinding)
    (differ : changedNames before after ≠ [])
    (few : (changedNames before after).length < 2 ^ 64)
    (composed : 1 < (changedNames before after).length → transactionEvidence ≠ none)
    (retained : ∀ package ∈ after.packages, package ∉ before.packages →
      package.receipt.transactionEvidence = transactionEvidence) :
    ∃ deltas request,
      StatePublicationRequest.make before deltas transactionEvidence = .ok request ∧
      projectPublicationRequest request before = .ok after := by
  obtain ⟨deltas, _, named, between⟩ := deltasBetween_ok (.fromSha256 (.replicate 32 0))
    (.fromSha256 (.replicate 32 0)) distinct fun name member => mem_changedNames.mp member
  have size : deltas.length = (changedNames before after).length := by
    rw [← named, List.length_map]
  have changed {delta : PackageStateDelta sha256} (member : delta ∈ deltas) :
      before.findPackage delta.packageName ≠ after.findPackage delta.packageName :=
    mem_changedNames.mp (named ▸ List.mem_map_of_mem member)
  let vector : StdVector (PackageStateDelta sha256) := ⟨deltas, size ▸ few⟩
  obtain ⟨request, built⟩ : ∃ request,
      StatePublicationRequest.make before vector transactionEvidence = .ok request := by
    apply StatePublicationRequest.make_of_admits
    · rintro rfl
      exact differ named.symm
    · exact named ▸ nodup_changedNames before after
    · intro ⟨several, missing⟩
      exact composed (size ▸ several) missing
    · intro delta member
      refine ⟨(between delta member).admits target, fun proposed found => ?_⟩
      · rw [(between delta member).proposes] at found
        obtain ⟨inAfter, here⟩ := Snapshot.findPackage_eq_some.mp found
        apply retained proposed inAfter
        intro inBefore
        exact changed member (by
          rw [found, Snapshot.findPackage_eq_some.mpr ⟨inBefore, here⟩])
  obtain ⟨made, arranged, _⟩ := StatePublicationRequest.make_ok built
  refine ⟨vector, request, built, project_of_leads made ⟨?_, ?_⟩ target distinct⟩
  · rw [← named]
    exact arranged.map PackageStateDelta.packageName
  · intro delta member
    exact between delta (arranged.mem_iff.mp member)

/-- Packages can be removed under any transaction evidence. -/
theorem exists_removing (transaction : TransactionEvidenceIdentity)
    (distinct : Snapshot.DistinctIdentities before.packages)
    (target : before.targetBinding = after.targetBinding)
    (fewer : after.packages ⊆ before.packages) (differ : before ≠ after)
    (few : before.packages.length + after.packages.length < 2 ^ 64) :
    ∃ deltas request,
      StatePublicationRequest.make before deltas (some transaction) = .ok request ∧
      projectPublicationRequest request before = .ok after := by
  have all : before.packages ++ after.packages ⊆ before.packages :=
    List.append_subset.mpr ⟨List.Subset.refl _, fewer⟩
  apply exists_leading (distinct.mono all) target
  · exact fun none => differ ((changedNames_eq_nil target).mp none)
  · exact (length_changedNames_le before after).trans_lt few
  · exact fun _ => nofun
  · exact fun package member fresh => absurd (fewer member) fresh

theorem Fixture.distinctIdentities_installed : Snapshot.DistinctIdentities
    ((Snapshot.empty binding).packages ++ installed.packages) :=
  distinctIdentities (List.append_subset.mpr ⟨List.nil_subset _, installed_samples⟩)

theorem Fixture.changedNames_installed :
    changedNames (Snapshot.empty binding) installed = [package.name] := by
  decide +kernel

/-- One request leads from one snapshot to another exactly if they have one target and
differ, and every package that is only in the second retains the transaction evidence
of the request, which is present if they differ in more than one package. -/
theorem publication_leads_iff {transactionEvidence : Option TransactionEvidenceIdentity}
    (distinct : Snapshot.DistinctIdentities (before.packages ++ after.packages)) :
    (∃ deltas request,
        StatePublicationRequest.make before deltas transactionEvidence = .ok request ∧
        projectPublicationRequest request before = .ok after) ↔
      before.targetBinding = after.targetBinding ∧ changedNames before after ≠ [] ∧
      (changedNames before after).length < 2 ^ 64 ∧
      (1 < (changedNames before after).length → transactionEvidence ≠ none) ∧
      ∀ package ∈ after.packages, package ∉ before.packages →
        package.receipt.transactionEvidence = transactionEvidence := by
  constructor
  · intro ⟨deltas, request, built, projected⟩
    obtain ⟨_, _, rfl⟩ := StatePublicationRequest.make_ok built
    have leads := leads_of_project projected
    have size : request.deltas.toList.length = (changedNames before after).length := by
      rw [← leads.names.length_eq, List.length_map]
    refine ⟨(project_lookups projected).1.symm, ?_, ?_, ?_, ?_⟩
    · intro none
      apply request.nonempty
      rw [none] at size
      exact List.eq_nil_of_length_eq_zero size
    · exact size ▸ request.deltas.size_lt
    · intro several none
      exact request.composed ⟨size ▸ several, none⟩
    · intro package member fresh
      rcases (mem_packages_of_project projected).mp member with ⟨old, _⟩ | proposed
      · exact absurd old fresh
      · obtain ⟨delta, inDeltas, proposes⟩ := List.mem_filterMap.mp proposed
        exact request.evidence delta inDeltas package proposes
  · intro ⟨target, differ, few, composed, retained⟩
    exact exists_leading distinct target differ few composed retained

theorem publication_leads_iff_installed :
    ∃ deltas request,
      StatePublicationRequest.make (Snapshot.empty Fixture.binding) deltas
        (some Fixture.transaction) = .ok request ∧
      projectPublicationRequest request (Snapshot.empty Fixture.binding) =
        .ok Fixture.installed := by
  refine (publication_leads_iff Fixture.distinctIdentities_installed).mpr ?_
  rw [Fixture.changedNames_installed]
  refine ⟨rfl, List.cons_ne_nil _ _, by decide, fun several => absurd several (by decide), ?_⟩
  intro package member _
  rw [List.mem_singleton.mp member]
  rfl

end Between

/-! ## How much the snapshots determine -/

section Determined

variable {a b : StatePublicationRequest sha256} {before after : Snapshot sha256}

/-- Deltas of two requests between the same snapshots, under one name: only a removal
leaves a choice. -/
theorem Leads.delta_eq (aLeads : Leads a before after) (bLeads : Leads b before after)
    {first second : PackageStateDelta sha256} (firstMember : first ∈ a.deltas.toList)
    (secondMember : second ∈ b.deltas.toList) (same : first.packageName = second.packageName) :
    first.kind = second.kind ∧ first.expectedPackage = second.expectedPackage ∧
      first.proposedPackage = second.proposedPackage ∧
      (first.kind ≠ .remove → first = second) := by
  have expects : first.expectedPackage = second.expectedPackage := by
    rw [(aLeads.between first firstMember).expects, same,
      (bLeads.between second secondMember).expects]
  have proposes : first.proposedPackage = second.proposedPackage := by
    rw [(aLeads.between first firstMember).proposes, same,
      (bLeads.between second secondMember).proposes]
  refine ⟨by rw [first.kind_eq, second.kind_eq, expects, proposes], expects, proposes, ?_⟩
  intro kept
  obtain ⟨proposed, found⟩ := first.exists_proposed kept
  exact PackageStateDelta.eq_of_proposed expects found (proposes ▸ found)

/-- Who proposes a package retains its evidence, so two requests between the same
snapshots have one evidence unless they only remove. -/
theorem Leads.evidence_eq (aLeads : Leads a before after) (bLeads : Leads b before after)
    {delta : PackageStateDelta sha256} (member : delta ∈ a.deltas.toList)
    (kept : delta.kind ≠ .remove) : a.transactionEvidence = b.transactionEvidence := by
  obtain ⟨proposed, proposes⟩ := delta.exists_proposed kept
  obtain ⟨second, secondMember, same⟩ := List.mem_map.mp
    ((aLeads.names.trans bLeads.names.symm).mem_iff.mp (List.mem_map_of_mem member))
  have again := (aLeads.delta_eq bLeads member secondMember same.symm).2.2.1
  rw [← a.evidence delta member proposed proposes,
    ← b.evidence second secondMember proposed (again ▸ proposes)]

end Determined

/-- A request that leads from one snapshot to another is determined by them. It names
exactly the packages on which they differ, and says of each what the two snapshots
hold. Two such requests name the same packages in the same order with the same kinds
and the same expected and proposed packages; their deltas differ in the plan and the
evidence of removals only. Unless both only remove, they have one transaction
evidence, and if nothing is removed, they are the same request. -/
theorem publication_determined {before after : Snapshot sha256}
    {a b : StatePublicationRequest sha256}
    (aProjected : projectPublicationRequest a before = .ok after)
    (bProjected : projectPublicationRequest b before = .ok after) :
    (∀ name, name ∈ a.deltas.toList.map PackageStateDelta.packageName ↔
      before.findPackage name ≠ after.findPackage name) ∧
    (∀ delta ∈ a.deltas.toList,
      delta.expectedPackage =
          (before.findPackage delta.packageName).map InstalledPackage.identity ∧
        delta.proposedPackage = after.findPackage delta.packageName) ∧
    a.deltas.toList.map PackageStateDelta.packageName =
      b.deltas.toList.map PackageStateDelta.packageName ∧
    (∀ first ∈ a.deltas.toList, ∀ second ∈ b.deltas.toList,
      first.packageName = second.packageName →
        first.kind = second.kind ∧ first.expectedPackage = second.expectedPackage ∧
        first.proposedPackage = second.proposedPackage ∧
        (first.kind ≠ .remove → first = second)) ∧
    ((∃ delta ∈ a.deltas.toList, delta.kind ≠ .remove) →
      a.transactionEvidence = b.transactionEvidence) ∧
    ((∀ delta ∈ a.deltas.toList, delta.kind ≠ .remove) → a = b) := by
  have aLeads := leads_of_project aProjected
  have bLeads := leads_of_project bProjected
  have pairs {first second : PackageStateDelta sha256} (firstMember : first ∈ a.deltas.toList)
      (secondMember : second ∈ b.deltas.toList) (same : first.packageName = second.packageName) :=
    aLeads.delta_eq bLeads firstMember secondMember same
  have perm := aLeads.names.trans bLeads.names.symm
  have aSorted : SortedBy id (a.deltas.toList.map PackageStateDelta.packageName) :=
    List.pairwise_map.mpr a.deltas.sorted
  have bSorted : SortedBy id (b.deltas.toList.map PackageStateDelta.packageName) :=
    List.pairwise_map.mpr b.deltas.sorted
  refine ⟨fun name => aLeads.names.mem_iff.trans mem_changedNames, ?_,
    aSorted.ext bSorted fun _ => perm.mem_iff,
    fun first firstMember second secondMember => pairs firstMember secondMember, ?_, ?_⟩
  · intro delta member
    exact ⟨(aLeads.between delta member).expects, (aLeads.between delta member).proposes⟩
  · intro ⟨delta, member, kept⟩
    exact aLeads.evidence_eq bLeads member kept
  · intro kept
    have deltas : a.deltas.toList = b.deltas.toList := by
      apply a.deltas.sorted.ext b.deltas.sorted
      intro delta
      constructor
      · intro member
        obtain ⟨second, secondMember, same⟩ :=
          List.mem_map.mp (perm.mem_iff.mp (List.mem_map_of_mem member))
        rwa [(pairs member secondMember same.symm).2.2.2 (kept delta member)]
      · intro member
        obtain ⟨first, firstMember, same⟩ :=
          List.mem_map.mp (perm.mem_iff.mpr (List.mem_map_of_mem member))
        rwa [← (pairs firstMember member same).2.2.2 (kept first firstMember)]
    obtain ⟨delta, member⟩ := List.exists_mem_of_ne_nil _ a.nonempty
    have aMade := madeAgainst_of_project aProjected
    have bMade := madeAgainst_of_project bProjected
    exact StatePublicationRequest.ext_fields
      (aMade.expectedSnapshot.trans bMade.expectedSnapshot.symm)
      (aMade.targetBinding.trans bMade.targetBinding.symm) (SortedVector.toList_inj deltas)
      (aLeads.evidence_eq bLeads member (kept delta member))

/-- Removals under two evidences lead to the same state; with a replacement and an
installation among the deltas, there is only one evidence. -/
theorem publication_determined_removals :
    (∃ a b : StatePublicationRequest Sha256.hash,
      a.transactionEvidence ≠ b.transactionEvidence ∧
      projectPublicationRequest a Fixture.installed = .ok (Snapshot.empty Fixture.binding) ∧
      projectPublicationRequest b Fixture.installed = .ok (Snapshot.empty Fixture.binding) ∧
      a.deltas.toList.map PackageStateDelta.packageName =
        b.deltas.toList.map PackageStateDelta.packageName) ∧
    ∃ (mixed : StatePublicationRequest Sha256.hash) (result : Snapshot Sha256.hash),
      projectPublicationRequest mixed Fixture.installedPair = .ok result ∧
      ∀ other, projectPublicationRequest other Fixture.installedPair = .ok result →
        other.transactionEvidence = some Fixture.transaction := by
  constructor
  · have samples : Fixture.installed.packages ++ (Snapshot.empty Fixture.binding).packages ⊆
        Fixture.packages :=
      List.append_subset.mpr ⟨Fixture.installed_samples, List.nil_subset _⟩
    have changed : changedNames Fixture.installed (Snapshot.empty Fixture.binding) =
        [Fixture.package.name] := by
      decide +kernel
    have removing (transactionEvidence : Option TransactionEvidenceIdentity) :
        ∃ deltas request,
          StatePublicationRequest.make Fixture.installed deltas transactionEvidence =
            .ok request ∧
          projectPublicationRequest request Fixture.installed =
            .ok (Snapshot.empty Fixture.binding) := by
      apply exists_leading (Fixture.distinctIdentities samples) rfl
      · exact changed ▸ List.cons_ne_nil _ _
      · exact changed ▸ (by decide : 1 < 2 ^ 64)
      · exact fun several => absurd (changed ▸ several) (by decide)
      · exact fun package member => absurd member List.not_mem_nil
    obtain ⟨_, a, aBuilt, aProjected⟩ := removing none
    obtain ⟨_, b, bBuilt, bProjected⟩ := removing (some Fixture.transaction)
    obtain ⟨_, _, aEvidence⟩ := StatePublicationRequest.make_ok aBuilt
    obtain ⟨_, _, bEvidence⟩ := StatePublicationRequest.make_ok bBuilt
    refine ⟨a, b, ?_, aProjected, bProjected, (publication_determined aProjected bProjected).2.2.1⟩
    rw [aEvidence, bEvidence]
    exact nofun
  · obtain ⟨mixed, built, distinct⟩ := Fixture.make_edits
    obtain ⟨made, arranged, evidence⟩ := StatePublicationRequest.make_ok built
    obtain ⟨result, projected, _⟩ := project_madeAgainst made distinct
    refine ⟨mixed, result, projected, fun other again => ?_⟩
    have replaced := arranged.mem_iff.mpr List.mem_cons_self
    exact ((publication_determined projected again).2.2.2.2.1
      ⟨_, replaced, PackageStateDeltaKind.noConfusion⟩).symm.trans evidence

end Pkgstate
