import Pkgstate.Base.MapEdit
import Pkgstate.Fixtures
import Pkgstate.PublicationRequest

/-!
# Publication projection

`project_publication_request` edits a sorted vector of packages at the lower
bound of each delta's name and rebuilds a snapshot from it. Seen through
lookups by name, each edit is the update of a partial map: `projectDelta_step`
is that fact for one delta, with the order the next binary search relies on,
and `projectDeltas_run` carries it through the loop. `project_madeAgainst` adds
the checks around the loop.
-/

namespace Pkgstate

open Wire Cpp Keyed

variable {sha256 : Sha256}

/-! ## The loop -/

/-- One round of the loop over the deltas. -/
def projectDelta (packages : List (InstalledPackage sha256)) (delta : PackageStateDelta sha256) :
    Except Failure (List (InstalledPackage sha256)) :=
  let position := lowerBound (fun package => less package.name delta.packageName) packages
  let present := findKey InstalledPackage.name delta.packageName packages
  match delta.kind with
  | .install =>
      match present, delta.proposedPackage with
      | some _, _ =>
          .error (.stateError (ascii "publication install package is already present"))
      | none, some proposed => .ok (packages.insertIdx position proposed)
      | none, none => .error .outOfRange
  | .replace =>
      if present.map InstalledPackage.identity = none ∨
          present.map InstalledPackage.identity ≠ delta.expectedPackage then
        .error (.stateError (ascii "publication replacement prior package does not match"))
      else
        match delta.proposedPackage with
        | some proposed => .ok (packages.set position proposed)
        | none => .error .outOfRange
  | .remove =>
      if present.map InstalledPackage.identity = none ∨
          present.map InstalledPackage.identity ≠ delta.expectedPackage then
        .error (.stateError (ascii "publication removal prior package does not match"))
      else .ok (packages.eraseIdx position)

/-- The loop over the deltas. -/
def projectDeltas (packages : List (InstalledPackage sha256)) :
    List (PackageStateDelta sha256) → Except Failure (List (InstalledPackage sha256))
  | [] => .ok packages
  | delta :: rest => do
      let packages ← projectDelta packages delta
      projectDeltas packages rest

/-- `project_publication_request`. -/
def projectPublicationRequest (request : StatePublicationRequest sha256)
    (actualPrior : Snapshot sha256) : Except Failure (Snapshot sha256) :=
  if actualPrior.targetBinding ≠ request.targetBinding then
    .error (.stateError (ascii "publication request belongs to another target"))
  else if actualPrior.identity ≠ request.expectedSnapshot then
    .error (.stateError (ascii "publication request does not match actual prior state"))
  else do
    let packages ← projectDeltas actualPrior.packages request.deltas.toList
    Snapshot.make request.targetBinding packages

/-! ## The loop as map edits -/

/-- The packages of a list, by name. -/
def packageMap (packages : List (InstalledPackage sha256)) :
    StdString → Option (InstalledPackage sha256) :=
  fun name => findKey InstalledPackage.name name packages

/-- What a list of deltas does to the map of installed packages. -/
def editMap (deltas : List (PackageStateDelta sha256))
    (map : StdString → Option (InstalledPackage sha256)) :
    StdString → Option (InstalledPackage sha256) :=
  MapEdit.applyAll PackageStateDelta.packageName PackageStateDelta.proposedPackage deltas map

theorem editMap_of_mem {deltas : List (PackageStateDelta sha256)}
    {map : StdString → Option (InstalledPackage sha256)} {delta : PackageStateDelta sha256}
    (names : (deltas.map PackageStateDelta.packageName).Nodup) (member : delta ∈ deltas) :
    editMap deltas map delta.packageName = delta.proposedPackage :=
  MapEdit.applyAll_of_mem names member

theorem editMap_of_not_mem {deltas : List (PackageStateDelta sha256)}
    {map : StdString → Option (InstalledPackage sha256)} {name : StdString}
    (untouched : ∀ delta ∈ deltas, delta.packageName ≠ name) :
    editMap deltas map name = map name :=
  MapEdit.applyAll_of_not_mem untouched

/-- A delta that expects an identity finds the package that has it. -/
theorem exists_current {packages : List (InstalledPackage sha256)}
    {delta : PackageStateDelta sha256} (sorted : SortedBy InstalledPackage.name packages)
    (expects : delta.expectedPackage =
      (packageMap packages delta.packageName).map InstalledPackage.identity)
    {identity : InstalledPackageIdentity} (expected : delta.expectedPackage = some identity) :
    ∃ current ∈ packages, current.name = delta.packageName ∧
      findKey InstalledPackage.name delta.packageName packages = some current ∧
      ¬ ((some current).map InstalledPackage.identity = none ∨
        (some current).map InstalledPackage.identity ≠ some identity) := by
  obtain ⟨current, found, same⟩ := Option.map_eq_some_iff.mp (expects.symm.trans expected)
  obtain ⟨member, here⟩ := (findKey_eq_some sorted).mp found
  exact ⟨current, member, here, found, by simp [same]⟩

/-- A delta whose expectation holds is carried out, and updates the map at its
own name only. -/
theorem projectDelta_step {packages : List (InstalledPackage sha256)}
    {delta : PackageStateDelta sha256} (sorted : SortedBy InstalledPackage.name packages)
    (expects : delta.expectedPackage =
      (packageMap packages delta.packageName).map InstalledPackage.identity) :
    ∃ next, projectDelta packages delta = .ok next ∧ SortedBy InstalledPackage.name next ∧
      packageMap next =
        Function.update (packageMap packages) delta.packageName delta.proposedPackage := by
  rcases delta.factory with ⟨proposed, kind, expected, proposes, named, _⟩ |
    ⟨identity, proposed, kind, expected, proposes, named, _⟩ |
    ⟨identity, kind, expected, proposes, _⟩
  · -- An install expects nothing under the name, and inserts.
    have absent : findKey InstalledPackage.name delta.packageName packages = none :=
      Option.map_eq_none_iff.mp (expects.symm.trans expected)
    have missing := (findKey_eq_none sorted).mp absent
    obtain ⟨nextSorted, members⟩ := sorted.insertIdx named missing
    refine ⟨_, by rw [projectDelta]; simp only [kind, absent, proposes], nextSorted, ?_⟩
    refine findKey_update sorted nextSorted (fun _ new => delta.proposed_name new) fun package => ?_
    rw [members, proposes, Option.some_inj, eq_comm]
    exact or_congr_right ⟨fun old => ⟨old, missing package old⟩, And.left⟩
  · -- A replacement expects the current package, and overwrites it.
    obtain ⟨current, member, here, found, matched⟩ := exists_current sorted expects expected
    obtain ⟨nextSorted, members⟩ := sorted.set named member here
    refine ⟨_, by
      rw [projectDelta]
      simp only [kind, found, expected, if_neg matched, proposes], nextSorted, ?_⟩
    refine findKey_update sorted nextSorted (fun _ new => delta.proposed_name new) fun package => ?_
    rw [members, proposes, Option.some_inj, eq_comm]
  · -- A removal expects the current package, and erases it.
    obtain ⟨current, member, here, found, matched⟩ := exists_current sorted expects expected
    obtain ⟨nextSorted, members⟩ := sorted.eraseIdx member here
    refine ⟨_, by
      rw [projectDelta]
      simp only [kind, found, expected, if_neg matched], nextSorted, ?_⟩
    refine findKey_update sorted nextSorted (fun _ new => delta.proposed_name new) fun package => ?_
    rw [members, proposes]
    simp

/-- The loop carries out deltas of different packages whose expectations hold at
its start. -/
theorem projectDeltas_run {packages : List (InstalledPackage sha256)}
    {deltas : List (PackageStateDelta sha256)} (sorted : SortedBy InstalledPackage.name packages)
    (names : (deltas.map PackageStateDelta.packageName).Nodup)
    (expects : ∀ delta ∈ deltas, delta.expectedPackage =
      (packageMap packages delta.packageName).map InstalledPackage.identity) :
    ∃ result, projectDeltas packages deltas = .ok result ∧
      SortedBy InstalledPackage.name result ∧
      packageMap result = editMap deltas (packageMap packages) := by
  induction deltas generalizing packages with
  | nil => exact ⟨packages, rfl, sorted, rfl⟩
  | cons delta rest ih =>
      obtain ⟨apart, restNames⟩ := MapEdit.nodup_cons names
      obtain ⟨next, stepped, nextSorted, nextMap⟩ :=
        projectDelta_step sorted (expects delta List.mem_cons_self)
      have restExpects : ∀ other ∈ rest, other.expectedPackage =
          (packageMap next other.packageName).map InstalledPackage.identity := by
        intro other later
        rw [nextMap, Function.update_of_ne (apart other later)]
        exact expects other (List.mem_cons_of_mem _ later)
      obtain ⟨result, ran, resultSorted, resultMap⟩ := ih nextSorted restNames restExpects
      refine ⟨result, ?_, resultSorted, ?_⟩
      · rw [projectDeltas, stepped]
        exact ran
      · rw [resultMap, nextMap]
        rfl

/-- A delta is carried out only where its expectation holds. -/
theorem projectDelta_expects {packages next : List (InstalledPackage sha256)}
    {delta : PackageStateDelta sha256} (ran : projectDelta packages delta = .ok next) :
    delta.expectedPackage =
      (packageMap packages delta.packageName).map InstalledPackage.identity := by
  rcases delta.factory with ⟨_, kind, expected, _⟩ | ⟨_, _, kind, _⟩ | ⟨_, kind, _⟩
  · simp only [projectDelta, kind] at ran
    cases found : findKey InstalledPackage.name delta.packageName packages with
    | some current =>
        rw [found] at ran
        cases ran
    | none => rw [expected, packageMap, found, Option.map_none]
  all_goals
    simp only [projectDelta, kind] at ran
    split at ran
    · cases ran
    · next matched => exact (not_not.mp (not_or.mp matched).2).symm

/-- The loop carries out only deltas whose expectations held at its start. -/
theorem projectDeltas_expects {packages result : List (InstalledPackage sha256)}
    {deltas : List (PackageStateDelta sha256)} (sorted : SortedBy InstalledPackage.name packages)
    (names : (deltas.map PackageStateDelta.packageName).Nodup)
    (ran : projectDeltas packages deltas = .ok result) :
    ∀ delta ∈ deltas, delta.expectedPackage =
      (packageMap packages delta.packageName).map InstalledPackage.identity := by
  induction deltas generalizing packages with
  | nil => exact fun delta member => absurd member List.not_mem_nil
  | cons delta rest ih =>
      obtain ⟨apart, restNames⟩ := MapEdit.nodup_cons names
      rcases bind_eq_ok.mp ran with ⟨next, stepped, ran⟩
      have expects := projectDelta_expects stepped
      obtain ⟨same, moved, nextSorted, nextMap⟩ := projectDelta_step sorted expects
      cases stepped.symm.trans moved
      intro other member
      rcases List.mem_cons.mp member with rfl | later
      · exact expects
      · have there := ih nextSorted restNames ran other later
        rwa [nextMap, Function.update_of_ne (apart other later)] at there

/-! ## The projection as map edits -/

/-- The packages that a request proposes. -/
def StatePublicationRequest.proposedPackages (request : StatePublicationRequest sha256) :
    List (InstalledPackage sha256) :=
  request.deltas.toList.filterMap PackageStateDelta.proposedPackage

/-- The map of a snapshot is its lookup function. -/
theorem Snapshot.packageMap_packages (snapshot : Snapshot sha256) :
    packageMap snapshot.packages = snapshot.findPackage := rfl

/-- Snapshots of one target that find the same packages are equal. -/
theorem Snapshot.ext_findPackage {a b : Snapshot sha256}
    (targetBinding : a.targetBinding = b.targetBinding)
    (lookups : a.findPackage = b.findPackage) : a = b :=
  Snapshot.ext_packages targetBinding (a.sorted.ext_findKey b.sorted (congrFun lookups))

/-- Every package of an edited list was there before or is proposed. -/
theorem mem_of_editMap {packages result : List (InstalledPackage sha256)}
    {deltas : List (PackageStateDelta sha256)} (sorted : SortedBy InstalledPackage.name packages)
    (resultSorted : SortedBy InstalledPackage.name result)
    (names : (deltas.map PackageStateDelta.packageName).Nodup)
    (edited : packageMap result = editMap deltas (packageMap packages))
    {package : InstalledPackage sha256} (member : package ∈ result) :
    package ∈ packages ∨ ∃ delta ∈ deltas, delta.proposedPackage = some package := by
  have found : packageMap result package.name = some package :=
    (findKey_eq_some resultSorted).mpr ⟨member, rfl⟩
  rw [edited] at found
  by_cases named : ∃ delta ∈ deltas, delta.packageName = package.name
  · rcases named with ⟨delta, inDeltas, same⟩
    rw [← same, editMap_of_mem names inDeltas] at found
    exact Or.inr ⟨delta, inDeltas, found⟩
  · rw [editMap_of_not_mem fun delta inDeltas same => named ⟨delta, inDeltas, same⟩] at found
    exact Or.inl ((findKey_eq_some sorted).mp found).1

/-- A request projects only onto snapshots it could have been made against. -/
theorem madeAgainst_of_project {request : StatePublicationRequest sha256}
    {prior result : Snapshot sha256}
    (projected : projectPublicationRequest request prior = .ok result) :
    request.MadeAgainst prior := by
  obtain ⟨target, projected⟩ := ite_error_eq_ok.mp projected
  obtain ⟨identity, projected⟩ := ite_error_eq_ok.mp projected
  rcases bind_eq_ok.mp projected with ⟨packages, ran, _⟩
  have expects := projectDeltas_expects prior.sorted (nodup_map_key request.deltas.sorted) ran
  refine ⟨(not_not.mp identity).symm, (not_not.mp target).symm, ?_⟩
  intro delta member
  refine ⟨expects delta member, ?_⟩
  intro proposed proposes
  rw [request.target delta member proposed proposes, not_not.mp target]

/-- What a request projects onto a snapshot is the snapshot's map with the request's
edits. -/
theorem project_lookups {request : StatePublicationRequest sha256} {prior result : Snapshot sha256}
    (projected : projectPublicationRequest request prior = .ok result) :
    result.targetBinding = prior.targetBinding ∧
      result.findPackage = editMap request.deltas.toList prior.findPackage := by
  have made := madeAgainst_of_project projected
  obtain ⟨packages, ran, sorted, edited⟩ := projectDeltas_run prior.sorted
    (nodup_map_key request.deltas.sorted) fun delta member => (made.admits delta member).current
  rw [projectPublicationRequest, if_neg (not_not.mpr made.targetBinding.symm),
    if_neg (not_not.mpr made.expectedSnapshot.symm), ran] at projected
  have built : Snapshot.make request.targetBinding packages = .ok result := projected
  obtain ⟨target, perm⟩ := Snapshot.make_ok built
  have kept : result.packages = packages := result.sorted.ext sorted fun _ => perm.mem_iff
  refine ⟨target.trans made.targetBinding, ?_⟩
  rw [← Snapshot.packageMap_packages, kept, edited, Snapshot.packageMap_packages]

/-- The packages after a projection are the unnamed ones before it and the proposed
ones. -/
theorem mem_packages_of_project {request : StatePublicationRequest sha256}
    {prior result : Snapshot sha256}
    (projected : projectPublicationRequest request prior = .ok result)
    {package : InstalledPackage sha256} :
    package ∈ result.packages ↔
      (package ∈ prior.packages ∧
        ∀ delta ∈ request.deltas.toList, delta.packageName ≠ package.name) ∨
      package ∈ request.proposedPackages := by
  have names := nodup_map_key request.deltas.sorted
  have held (snapshot : Snapshot sha256) :
      package ∈ snapshot.packages ↔ snapshot.findPackage package.name = some package := by
    rw [Snapshot.findPackage_eq_some, and_iff_left rfl]
  have proposed : package ∈ request.proposedPackages ↔
      ∃ delta ∈ request.deltas.toList, delta.proposedPackage = some package :=
    List.mem_filterMap
  rw [held result, held prior, (project_lookups projected).2, proposed]
  by_cases named : ∃ delta ∈ request.deltas.toList, delta.packageName = package.name
  · rcases named with ⟨delta, member, same⟩
    rw [← same, editMap_of_mem names member]
    constructor
    · intro proposes
      exact Or.inr ⟨delta, member, proposes⟩
    · rintro (⟨_, untouched⟩ | ⟨other, otherMember, proposes⟩)
      · exact absurd rfl (untouched delta member)
      · have edited : editMap request.deltas.toList prior.findPackage other.packageName =
            other.proposedPackage := editMap_of_mem names otherMember
        rw [← other.proposed_name proposes, ← same, editMap_of_mem names member] at edited
        rw [edited, proposes]
  · have untouched : ∀ delta ∈ request.deltas.toList, delta.packageName ≠ package.name :=
      fun delta member same => named ⟨delta, member, same⟩
    rw [editMap_of_not_mem untouched]
    constructor
    · intro found
      exact Or.inl ⟨found, untouched⟩
    · rintro (⟨found, _⟩ | ⟨delta, member, proposes⟩)
      · exact found
      · exact absurd (delta.proposed_name proposes).symm (untouched delta member)

/-- A request projects onto the snapshot it was made against, unless two of the
packages involved collide. -/
theorem project_madeAgainst {request : StatePublicationRequest sha256}
    {prior : Snapshot sha256} (made : request.MadeAgainst prior)
    (distinct : Snapshot.DistinctIdentities (prior.packages ++ request.proposedPackages)) :
    ∃ result, projectPublicationRequest request prior = .ok result ∧
      result.targetBinding = prior.targetBinding ∧
      result.findPackage = editMap request.deltas.toList prior.findPackage := by
  have names := nodup_map_key request.deltas.sorted
  obtain ⟨packages, ran, sorted, edited⟩ := projectDeltas_run prior.sorted names
    fun delta member => (made.admits delta member).current
  have origin (package : InstalledPackage sha256) (member : package ∈ packages) :
      package ∈ prior.packages ∨
        ∃ delta ∈ request.deltas.toList, delta.proposedPackage = some package :=
    mem_of_editMap prior.sorted sorted names edited member
  have bound : ∀ package ∈ packages, package.targetBinding = request.targetBinding := by
    intro package member
    rcases origin package member with old | ⟨delta, inDeltas, proposes⟩
    · rw [prior.bound package old, made.targetBinding]
    · exact request.target delta inDeltas package proposes
  have involved : ∀ package ∈ packages, package ∈ prior.packages ++ request.proposedPackages := by
    intro package member
    rcases origin package member with old | ⟨delta, inDeltas, proposes⟩
    · exact List.mem_append_left _ old
    · exact List.mem_append_right _ (List.mem_filterMap.mpr ⟨delta, inDeltas, proposes⟩)
  obtain ⟨result, built⟩ := Snapshot.make_of_distinct bound (nodup_map_key sorted)
    (distinct.mono involved)
  have projected : projectPublicationRequest request prior = .ok result := by
    rw [projectPublicationRequest, if_neg (not_not.mpr made.targetBinding.symm),
      if_neg (not_not.mpr made.expectedSnapshot.symm), ran]
    exact built
  obtain ⟨target, lookups⟩ := project_lookups projected
  exact ⟨result, projected, target, lookups⟩

/-- A published delta, seen from both snapshots. -/
theorem project_single {prior next : Snapshot sha256} {delta : PackageStateDelta sha256}
    {transactionEvidence : Option TransactionEvidenceIdentity}
    {request : StatePublicationRequest sha256}
    (built : StatePublicationRequest.make prior (.singleton delta) transactionEvidence =
      .ok request) (projected : projectPublicationRequest request prior = .ok next) :
    Admits prior delta ∧ next.targetBinding = prior.targetBinding ∧
      next.findPackage =
        Function.update prior.findPackage delta.packageName delta.proposedPackage := by
  obtain ⟨made, _⟩ := StatePublicationRequest.make_ok built
  have single := StatePublicationRequest.deltas_singleton built
  obtain ⟨target, lookups⟩ := project_lookups projected
  refine ⟨made.admits delta (single ▸ List.mem_singleton_self delta), target, ?_⟩
  rw [lookups, single]
  rfl

/-- No request projects a snapshot onto itself: it has a delta, its deltas have different
names, and none proposes the package it expects. -/
theorem project_ne {request : StatePublicationRequest sha256} {prior result : Snapshot sha256}
    (projected : projectPublicationRequest request prior = .ok result) : result ≠ prior := by
  intro same
  obtain ⟨delta, member⟩ := List.exists_mem_of_ne_nil _ request.nonempty
  have expects := ((madeAgainst_of_project projected).admits delta member).current
  have found := congrFun (project_lookups projected).2 delta.packageName
  rw [editMap_of_mem (nodup_map_key request.deltas.sorted) member, same] at found
  rw [found] at expects
  exact delta.proposed_ne_expected expects.symm

/-- Snapshots of one target with the same packages are equal. -/
theorem Snapshot.ext_members {a b : Snapshot sha256}
    (targetBinding : a.targetBinding = b.targetBinding)
    (members : ∀ package, package ∈ a.packages ↔ package ∈ b.packages) : a = b :=
  Snapshot.ext_packages targetBinding (a.sorted.ext b.sorted members)

/-- What is published into an empty state are the proposed packages. -/
theorem eq_of_project_empty {request : StatePublicationRequest sha256}
    {state next : Snapshot sha256}
    (projected : projectPublicationRequest request (Snapshot.empty state.targetBinding) =
      .ok next)
    (proposed : ∀ package, package ∈ request.proposedPackages ↔ package ∈ state.packages) :
    next = state := by
  refine Snapshot.ext_members (project_lookups projected).1 fun package => ?_
  rw [mem_packages_of_project projected, ← proposed, or_iff_right]
  intro ⟨impossible, _⟩
  exact List.not_mem_nil impossible

/-! ## Sample requests -/

/-- The proposed packages of a request are those of the deltas it is made of. -/
theorem StatePublicationRequest.proposedPackages_perm {expected : Snapshot sha256}
    {deltas : StdVector (PackageStateDelta sha256)}
    {transactionEvidence : Option TransactionEvidenceIdentity}
    {request : StatePublicationRequest sha256}
    (built : make expected deltas transactionEvidence = .ok request) :
    request.proposedPackages.Perm (deltas.toList.filterMap PackageStateDelta.proposedPackage) :=
  (make_ok built).2.1.filterMap _

/-- A package of the target can be installed into the target's empty state. -/
theorem StatePublicationRequest.make_installing (package : InstalledPackage sha256) :
    ∃ request, make (Snapshot.empty package.targetBinding) (.singleton (.installing package))
        package.receipt.transactionEvidence = .ok request ∧
      request.proposedPackages = [package] ∧
      Snapshot.DistinctIdentities
        ((Snapshot.empty package.targetBinding).packages ++ request.proposedPackages) := by
  obtain ⟨request, built⟩ : ∃ request, make (Snapshot.empty package.targetBinding)
      (.singleton (.installing package)) package.receipt.transactionEvidence = .ok request := by
    exact make_singleton (.installing rfl rfl) (.installing package)
  have proposes : request.proposedPackages = [package] := by
    rw [proposedPackages, deltas_singleton built]
    rfl
  refine ⟨request, built, proposes, ?_⟩
  rw [proposes]
  intro a aMember b bMember _
  rw [List.mem_singleton.mp aMember, List.mem_singleton.mp bMember]

namespace Fixture

theorem package_ne_owningPackage : package.identity ≠ owningPackage.identity := by
  intro same
  have equal := distinctIdentities (List.Subset.refl packages) package List.mem_cons_self
    owningPackage (List.mem_append_right [package, second, third] (List.mem_singleton_self _)) same
  have manifests := congrArg (fun package => package.manifest.length) equal
  exact absurd manifests (by decide)

/-- The installation of two packages. -/
def installs : StdVector (PackageStateDelta Sha256.hash) :=
  ⟨[.installing package, .installing second], by decide⟩

/-- One delta of each kind for a state with two packages. -/
def edits : StdVector (PackageStateDelta Sha256.hash) :=
  ⟨[.replacing owningPackage package_ne_owningPackage, .removing second, .installing third],
    by decide⟩

theorem make_installs :
    ∃ request, StatePublicationRequest.make (Snapshot.empty binding) installs (some transaction) =
        .ok request ∧
      projectPublicationRequest request (Snapshot.empty binding) = .ok installedPair := by
  obtain ⟨request, built⟩ : ∃ request, StatePublicationRequest.make (Snapshot.empty binding)
      installs (some transaction) = .ok request := by
    apply StatePublicationRequest.make_of_admits (List.cons_ne_nil _ _)
    · exact nodup_numberedPackages binding (show 2 ≤ 256 ^ 3 by decide)
    · intro composed
      cases composed.2
    · exact List.forall_mem_cons.mpr ⟨⟨.installing rfl rfl, .installing package⟩,
        List.forall_mem_singleton.mpr ⟨.installing rfl rfl, .installing second⟩⟩
  have proposed := StatePublicationRequest.proposedPackages_perm built
  have distinct : Snapshot.DistinctIdentities
      ((Snapshot.empty binding).packages ++ request.proposedPackages) :=
    distinctIdentities (List.Subset.trans proposed.subset numberedPackages_subset)
  obtain ⟨next, projected, _⟩ :=
    project_madeAgainst (StatePublicationRequest.make_ok built).1 distinct
  have same : next = installedPair := eq_of_project_empty projected fun _ => proposed.mem_iff
  exact ⟨request, built, same ▸ projected⟩

theorem admits_edits : ∀ delta ∈ edits.toList,
    Admits installedPair delta ∧ RetainsEvidence (some transaction) delta := by
  have replaced : package ∈ installedPair.packages := package_mem
  have removed : second ∈ installedPair.packages := List.mem_cons_of_mem _ List.mem_cons_self
  have absent : installedPair.findPackage third.name = none := by decide +kernel
  exact List.forall_mem_cons.mpr
    ⟨⟨.replacing replaced owningPackage_name.symm rfl _, .replacing owningPackage _⟩,
    List.forall_mem_cons.mpr ⟨⟨.removing removed, .removing _ second⟩,
      List.forall_mem_singleton.mpr ⟨.installing absent rfl, .installing third⟩⟩⟩

theorem edits_subset : edits.toList.filterMap PackageStateDelta.proposedPackage ⊆ packages := by
  change [owningPackage, third] ⊆ [package, second, third, owningPackage]
  simp only [List.cons_subset, List.nil_subset, List.mem_cons, true_or, or_true, and_self]

/-- The deltas make a request, and the packages involved have different identities. -/
theorem make_edits :
    ∃ request, StatePublicationRequest.make installedPair edits (some transaction) =
        .ok request ∧
      Snapshot.DistinctIdentities (installedPair.packages ++ request.proposedPackages) := by
  obtain ⟨request, built⟩ : ∃ request,
      StatePublicationRequest.make installedPair edits (some transaction) = .ok request := by
    apply StatePublicationRequest.make_of_admits (List.cons_ne_nil _ _)
    · decide +kernel
    · intro composed
      cases composed.2
    · exact admits_edits
  have proposed := StatePublicationRequest.proposedPackages_perm built
  exact ⟨request, built, distinctIdentities (List.append_subset.mpr
    ⟨numberedPackages_subset, List.Subset.trans proposed.subset edits_subset⟩)⟩

/-- What is left of the deltas' state, and what they propose. -/
theorem packages_edits {request : StatePublicationRequest Sha256.hash}
    {result : Snapshot Sha256.hash}
    (built : StatePublicationRequest.make installedPair edits (some transaction) = .ok request)
    (projected : projectPublicationRequest request installedPair = .ok result) :
    result.packages = [owningPackage, third] := by
  have arranged := (StatePublicationRequest.make_ok built).2.1
  have proposed := StatePublicationRequest.proposedPackages_perm built
  have ordered : SortedBy InstalledPackage.name [owningPackage, third] :=
    List.pairwise_pair.mpr (by decide +kernel)
  refine result.sorted.ext ordered fun sample => ?_
  rw [mem_packages_of_project projected, proposed.mem_iff]
  refine or_iff_right ?_
  intro ⟨old, untouched⟩
  rcases List.mem_pair.mp (show sample ∈ [package, second] from old) with rfl | rfl
  · exact untouched _ (arranged.mem_iff.mpr List.mem_cons_self) owningPackage_name
  · exact untouched (.removing second)
      (arranged.mem_iff.mpr (List.mem_cons_of_mem _ List.mem_cons_self)) rfl

end Fixture

/-! ## Projection as a whole -/

/-- On a request built by `make`, projection is a finite-map update: it finds
what each delta proposes under the delta's name, nothing under a removed one,
and what the snapshot had everywhere else. -/
theorem projectPublicationRequest_finiteMapUpdate {expected : Snapshot sha256}
    {deltas : StdVector (PackageStateDelta sha256)}
    {transactionEvidence : Option TransactionEvidenceIdentity}
    {request : StatePublicationRequest sha256}
    (built : StatePublicationRequest.make expected deltas transactionEvidence = .ok request)
    (distinct : Snapshot.DistinctIdentities (expected.packages ++ request.proposedPackages)) :
    ∃ result, projectPublicationRequest request expected = .ok result ∧
      result.targetBinding = expected.targetBinding ∧
      SortedBy InstalledPackage.name result.packages ∧
      ∀ name,
        (∀ delta ∈ request.deltas.toList, delta.packageName = name →
          delta.kind = .install ∨ delta.kind = .replace →
          ∃ proposed, delta.proposedPackage = some proposed ∧
            result.findPackage name = some proposed) ∧
        (∀ delta ∈ request.deltas.toList, delta.packageName = name → delta.kind = .remove →
          result.findPackage name = none) ∧
        ((∀ delta ∈ request.deltas.toList, delta.packageName ≠ name) →
          result.findPackage name = expected.findPackage name) := by
  obtain ⟨result, projected, target, lookups⟩ :=
    project_madeAgainst (StatePublicationRequest.make_ok built).1 distinct
  have names := nodup_map_key request.deltas.sorted
  refine ⟨result, projected, target, result.sorted, fun name => ⟨?_, ?_, ?_⟩⟩
  · rintro delta member rfl kind
    rw [lookups, editMap_of_mem names member]
    rcases delta.factory with ⟨proposed, _, _, proposes, _⟩ |
      ⟨_, proposed, _, _, proposes, _⟩ | ⟨_, removes, _⟩
    · exact ⟨proposed, proposes, proposes⟩
    · exact ⟨proposed, proposes, proposes⟩
    · rw [removes] at kind
      rcases kind with impossible | impossible <;> cases impossible
  · rintro delta member rfl kind
    rw [lookups, editMap_of_mem names member]
    rcases delta.factory with ⟨_, installs, _⟩ | ⟨_, _, replaces, _⟩ | ⟨_, _, _, proposes, _⟩
    · rw [installs] at kind
      cases kind
    · rw [replaces] at kind
      cases kind
    · exact proposes
  · intro untouched
    rw [lookups, editMap_of_not_mem untouched]

theorem projectPublicationRequest_finiteMapUpdate_edits :
    ∃ (request : StatePublicationRequest Sha256.hash) (result : Snapshot Sha256.hash),
      projectPublicationRequest request Fixture.installedPair = .ok result ∧
      result.findPackage Fixture.package.name = some Fixture.owningPackage ∧
      result.findPackage Fixture.second.name = none ∧
      result.findPackage Fixture.third.name = some Fixture.third := by
  obtain ⟨request, built, distinct⟩ := Fixture.make_edits
  obtain ⟨result, projected, _, _, lookups⟩ :=
    projectPublicationRequest_finiteMapUpdate built distinct
  have arranged := (StatePublicationRequest.make_ok built).2.1
  refine ⟨request, result, projected, ?_, ?_, ?_⟩
  · obtain ⟨_, proposes, found⟩ := (lookups _).1
      (.replacing Fixture.owningPackage Fixture.package_ne_owningPackage)
      (arranged.mem_iff.mpr List.mem_cons_self) rfl (Or.inr rfl)
    cases proposes
    exact found
  · exact (lookups _).2.1 (.removing Fixture.second)
      (arranged.mem_iff.mpr (List.mem_cons_of_mem _ List.mem_cons_self)) rfl rfl
  · obtain ⟨_, proposes, found⟩ := (lookups _).1 (.installing Fixture.third)
      (arranged.mem_iff.mpr
        (List.mem_cons_of_mem _ (List.mem_cons_of_mem _ List.mem_cons_self))) rfl (Or.inl rfl)
    cases proposes
    exact found

/-! ## One delta at a time -/

/-- The chain of one-delta requests, each built against the snapshot that the
previous one projected. -/
def projectChain (transactionEvidence : Option TransactionEvidenceIdentity)
    (current : Snapshot sha256) : List (PackageStateDelta sha256) → Except Failure (Snapshot sha256)
  | [] => .ok current
  | delta :: rest => do
      let request ← StatePublicationRequest.make current (.singleton delta) transactionEvidence
      let next ← projectPublicationRequest request current
      projectChain transactionEvidence next rest

/-- A delta that the current snapshot admits projects on its own, and only its
name changes. -/
theorem project_singleton {current : Snapshot sha256} {delta : PackageStateDelta sha256}
    {transactionEvidence : Option TransactionEvidenceIdentity} (admits : Admits current delta)
    (retains : RetainsEvidence transactionEvidence delta)
    (distinct : Snapshot.DistinctIdentities
      (current.packages ++ delta.proposedPackage.toList)) :
    ∃ request next,
      StatePublicationRequest.make current (.singleton delta) transactionEvidence = .ok request ∧
      projectPublicationRequest request current = .ok next ∧
      next.targetBinding = current.targetBinding ∧
      next.findPackage =
        Function.update current.findPackage delta.packageName delta.proposedPackage := by
  obtain ⟨request, built⟩ := StatePublicationRequest.make_singleton admits retains
  obtain ⟨made, _⟩ := StatePublicationRequest.make_ok built
  have single := StatePublicationRequest.deltas_singleton built
  have proposes : request.proposedPackages = delta.proposedPackage.toList := by
    rw [StatePublicationRequest.proposedPackages, single, List.filterMap_cons]
    cases delta.proposedPackage <;> rfl
  obtain ⟨next, projected, target, lookups⟩ := project_madeAgainst made (proposes ▸ distinct)
  refine ⟨request, next, built, projected, target, ?_⟩
  rw [lookups, single]
  rfl

/-- The chain keeps the remaining deltas admissible: each one's name is untouched
until its turn. -/
theorem projectChain_run {involved : List (InstalledPackage sha256)}
    (distinct : Snapshot.DistinctIdentities involved)
    {transactionEvidence : Option TransactionEvidenceIdentity} {current : Snapshot sha256}
    {deltas : List (PackageStateDelta sha256)}
    (held : ∀ package ∈ current.packages, package ∈ involved)
    (names : (deltas.map PackageStateDelta.packageName).Nodup)
    (admits : ∀ delta ∈ deltas, Admits current delta)
    (retains : ∀ delta ∈ deltas, RetainsEvidence transactionEvidence delta)
    (proposed : ∀ delta ∈ deltas, ∀ package, delta.proposedPackage = some package →
      package ∈ involved) :
    ∃ result, projectChain transactionEvidence current deltas = .ok result ∧
      result.targetBinding = current.targetBinding ∧
      result.findPackage = editMap deltas current.findPackage := by
  induction deltas generalizing current with
  | nil => exact ⟨current, rfl, rfl, rfl⟩
  | cons delta rest ih =>
      obtain ⟨apart, restNames⟩ := MapEdit.nodup_cons names
      have here : ∀ package ∈ current.packages ++ delta.proposedPackage.toList,
          package ∈ involved := by
        intro package member
        rcases List.mem_append.mp member with old | new
        · exact held package old
        · exact proposed delta List.mem_cons_self package (Option.mem_toList.mp new)
      obtain ⟨request, next, built, projected, target, lookups⟩ := project_singleton
        (admits delta List.mem_cons_self) (retains delta List.mem_cons_self)
        (distinct.mono here)
      have edited : packageMap next.packages = editMap [delta] (packageMap current.packages) :=
        lookups
      have alone : ([delta].map PackageStateDelta.packageName).Nodup := List.nodup_singleton _
      have nextHeld : ∀ package ∈ next.packages, package ∈ involved := by
        intro package member
        rcases mem_of_editMap current.sorted next.sorted alone edited member with
          old | ⟨other, single, proposes⟩
        · exact held package old
        · cases List.mem_singleton.mp single
          exact proposed delta List.mem_cons_self package proposes
      have nextAdmits : ∀ other ∈ rest, Admits next other := by
        intro other later
        obtain ⟨expects, targets⟩ := admits other (List.mem_cons_of_mem _ later)
        refine ⟨?_, fun proposes => (targets proposes).trans target.symm⟩
        rw [lookups, Function.update_of_ne (apart other later)]
        exact expects
      obtain ⟨result, ran, resultTarget, resultLookups⟩ := ih nextHeld restNames nextAdmits
        (fun other later => retains other (List.mem_cons_of_mem _ later))
        (fun other later => proposed other (List.mem_cons_of_mem _ later))
      refine ⟨result, ?_, resultTarget.trans target, ?_⟩
      · rw [projectChain, built]
        change (projectPublicationRequest request current >>= _) = _
        rw [projected]
        exact ran
      · rw [resultLookups, lookups]
        rfl

/-- A composed request is serializable: one delta at a time, in any order, its
deltas lead to the snapshot that it projects at once. -/
theorem projectChain_serializes {expected : Snapshot sha256}
    {deltas : StdVector (PackageStateDelta sha256)}
    {transactionEvidence : Option TransactionEvidenceIdentity}
    {request : StatePublicationRequest sha256}
    (built : StatePublicationRequest.make expected deltas transactionEvidence = .ok request)
    (distinct : Snapshot.DistinctIdentities (expected.packages ++ request.proposedPackages))
    {order : List (PackageStateDelta sha256)} (arranged : order.Perm deltas.toList) :
    ∃ result, projectPublicationRequest request expected = .ok result ∧
      projectChain transactionEvidence expected order = .ok result := by
  obtain ⟨made, sorted, evidence⟩ := StatePublicationRequest.make_ok built
  have rearranged : order.Perm request.deltas.toList := arranged.trans sorted.symm
  have names := nodup_map_key request.deltas.sorted
  obtain ⟨result, projected, target, lookups⟩ := project_madeAgainst made distinct
  obtain ⟨final, ran, finalTarget, finalLookups⟩ := projectChain_run distinct
    (fun package member => List.mem_append_left _ member)
    ((rearranged.map PackageStateDelta.packageName).nodup_iff.mpr names)
    (fun delta member => made.admits delta (rearranged.mem_iff.mp member))
    (fun delta member => evidence ▸ request.evidence delta (rearranged.mem_iff.mp member))
    (fun delta member package proposes => List.mem_append_right _
      (List.mem_filterMap.mpr ⟨delta, rearranged.mem_iff.mp member, proposes⟩))
  have agree : final = result := Snapshot.ext_findPackage (finalTarget.trans target.symm)
    (finalLookups.trans ((MapEdit.applyAll_perm names rearranged).trans lookups.symm))
  exact ⟨result, projected, agree ▸ ran⟩

theorem projectChain_serializes_edits :
    ∃ (result : Snapshot Sha256.hash) (request : StatePublicationRequest Sha256.hash)
      (order : List (PackageStateDelta Sha256.hash)),
      order.Perm Fixture.edits.toList ∧ order ≠ Fixture.edits.toList ∧
      projectPublicationRequest request Fixture.installedPair = .ok result ∧
      projectChain (some Fixture.transaction) Fixture.installedPair order = .ok result ∧
      result ≠ Fixture.installedPair := by
  obtain ⟨request, built, distinct⟩ := Fixture.make_edits
  have arranged : Fixture.edits.toList.reverse.Perm Fixture.edits.toList := List.reverse_perm _
  obtain ⟨result, projected, chained⟩ := projectChain_serializes built distinct arranged
  refine ⟨result, request, _, arranged, ?_, projected, chained, project_ne projected⟩
  intro same
  have names := congrArg (List.map PackageStateDelta.packageName) same
  exact absurd names (by decide +kernel)

end Pkgstate
