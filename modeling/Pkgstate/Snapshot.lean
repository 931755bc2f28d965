import Pkgstate.InstallationReceipt

/-!
# Installed-state snapshots

`snapshot::make` sorts the packages by name, refuses foreign and duplicate
ones, gathers the ownership map and identifies the result. A `Snapshot` is a
value that passed: its packages are sorted, belong to its target, and with it
determine everything else in it (`ext_packages`). `make` fails on no arrangement
of a snapshot's own packages (`make_of_perm`), nor on differently named packages
whose identities differ (`make_of_distinct`). Its binary searches are searches
through everything (`lookups_agree`).
-/

namespace Pkgstate

open Wire Cpp Keyed

/-- `installed_state_schema_version`. -/
def installedStateSchemaVersion : UInt16 := 1

variable {sha256 : Sha256}

/-! ## Ownership -/

/-- The pushes `canonical_owners[entry.path().string()].push_back(package.identity())`. -/
def ownershipClaims (packages : List (InstalledPackage sha256)) :
    List (StdString × InstalledPackageIdentity) :=
  packages.flatMap fun package =>
    package.manifest.map fun entry => (entry.path.string, package.identity)

/-- The pushes `owners[entry.path().string()].push_back(index)`. -/
def ownerIndexes (packages : List (InstalledPackage sha256)) : List (StdString × Nat) :=
  packages.zipIdx.flatMap fun (package, index) =>
    package.manifest.map fun entry => (entry.path.string, index)

/-- The loop of `identify_ownership`: each path with its sorted owners. -/
def ownershipFields : List (StdString × List InstalledPackageIdentity) → Except Failure Bytes
  | [] => .ok []
  | (path, owners) :: rest =>
      let owners := sort (fun a b => less a b) owners
      match adjacentFind (fun a b => decide (a = b)) owners with
      | some _ =>
          .error (.stateError (ascii "duplicate ownership claim for path: " ++ path.bytes))
      | none => do
          let fields ← ownershipFields rest
          pure (stringBytes path.bytes ++
            countedBytes (fun owner : InstalledPackageIdentity =>
              CanonicalRecord.appendDigest owner) owners ++ fields)

/-- The canonical record of `identify_ownership`. -/
def ownershipRecord (ownership : List (StdString × List InstalledPackageIdentity)) :
    Except Failure Bytes := do
  let fields ← ownershipFields ownership
  pure (CanonicalRecord.header .ownershipInventory ++ u64Bytes ownership.length.toUInt64 ++ fields)

/-- `identify_ownership`. -/
def identifyOwnership (sha256 : Sha256)
    (ownership : List (StdString × List InstalledPackageIdentity)) :
    Except Failure OwnershipInventoryIdentity := do
  let record ← ownershipRecord ownership
  pure (identifyRecord sha256 record)

/-! ## Snapshots -/

/-- The canonical record of `identify_snapshot`. -/
def snapshotRecord (targetBinding : StateTargetBinding sha256)
    (packages : List (InstalledPackage sha256))
    (ownershipIdentity : OwnershipInventoryIdentity) : Bytes :=
  CanonicalRecord.header .installedStateSnapshot ++ u16Bytes installedStateSchemaVersion ++
    CanonicalRecord.appendDigest targetBinding.identity ++
    countedBytes (fun package : InstalledPackage sha256 =>
      CanonicalRecord.appendDigest package.identity) packages ++
    CanonicalRecord.appendDigest ownershipIdentity

/-- The checks of the loop in `snapshot::make`, behind the package `previous`. -/
def checkPackages (targetBinding : StateTargetBinding sha256) :
    (previous : Option (InstalledPackage sha256)) → List (InstalledPackage sha256) →
      Except Failure Unit
  | _, [] => .ok ()
  | previous, package :: rest =>
      if package.targetBinding ≠ targetBinding then
        .error (.stateError
          (ascii "installed package belongs to another target: " ++ package.name.bytes))
      else if previous.any fun before => before.name == package.name then
        .error (.stateError (ascii "duplicate installed package: " ++ package.name.bytes))
      else checkPackages targetBinding (some package) rest

/-- `snapshot`. -/
structure Snapshot (sha256 : Sha256) where
  targetBinding : StateTargetBinding sha256
  packages : List (InstalledPackage sha256)
  owners : List (StdString × List Nat)
  ownershipIdentity : OwnershipInventoryIdentity
  identity : InstalledStateSnapshotIdentity
  sorted : SortedBy InstalledPackage.name packages
  bound : ∀ package ∈ packages, package.targetBinding = targetBinding
  owners_eq : owners = gather (ownerIndexes packages)
  ownership : identifyOwnership sha256 (gather (ownershipClaims packages)) =
    .ok ownershipIdentity
  identity_eq : identity =
    identifyRecord sha256 (snapshotRecord targetBinding packages ownershipIdentity)

/-! ## What the loop checks -/

theorem checkPackages_some {targetBinding : StateTargetBinding sha256}
    {previous : InstalledPackage sha256} {packages : List (InstalledPackage sha256)}
    (passed : checkPackages targetBinding (some previous) packages = .ok ()) :
    (∀ package ∈ packages, package.targetBinding = targetBinding) ∧
      adjacentFind (fun a b => decide (a.name = b.name)) (previous :: packages) = none := by
  induction packages generalizing previous with
  | nil => exact ⟨by simp, rfl⟩
  | cons package rest ih =>
      obtain ⟨bound, passed⟩ := ite_error_eq_ok.mp passed
      obtain ⟨different, passed⟩ := ite_error_eq_ok.mp passed
      obtain ⟨restBound, restDistinct⟩ := ih passed
      have apart : ¬ previous.name = package.name := by
        simpa using different
      refine ⟨fun other member => ?_, ?_⟩
      · rcases List.mem_cons.mp member with rfl | later
        · exact not_not.mp bound
        · exact restBound other later
      · simpa only [adjacentFind, decide_eq_true_eq, if_neg apart] using restDistinct

theorem checkPackages_none {targetBinding : StateTargetBinding sha256}
    {packages : List (InstalledPackage sha256)}
    (passed : checkPackages targetBinding none packages = .ok ()) :
    (∀ package ∈ packages, package.targetBinding = targetBinding) ∧
      adjacentFind (fun a b => decide (a.name = b.name)) packages = none := by
  cases packages with
  | nil => exact ⟨by simp, rfl⟩
  | cons package rest =>
      obtain ⟨bound, passed⟩ := ite_error_eq_ok.mp passed
      obtain ⟨restBound, distinct⟩ := checkPackages_some passed
      refine ⟨fun other member => ?_, distinct⟩
      rcases List.mem_cons.mp member with rfl | later
      · exact not_not.mp bound
      · exact restBound other later

theorem checkPackages_of_sorted {targetBinding : StateTargetBinding sha256}
    {previous : Option (InstalledPackage sha256)} {packages : List (InstalledPackage sha256)}
    (bound : ∀ package ∈ packages, package.targetBinding = targetBinding)
    (sorted : SortedBy InstalledPackage.name (previous.toList ++ packages)) :
    checkPackages targetBinding previous packages = .ok () := by
  induction packages generalizing previous with
  | nil => rfl
  | cons package rest ih =>
      have fresh : ¬ (previous.any fun before => before.name == package.name) = true := by
        cases previous with
        | none => exact Bool.false_ne_true
        | some before =>
            have first := (List.pairwise_cons.mp sorted).1 package List.mem_cons_self
            simpa using less_ne first
      have restSorted : SortedBy InstalledPackage.name ((some package).toList ++ rest) :=
        (List.pairwise_append.mp sorted).2.1
      rw [checkPackages, if_neg (not_not.mpr (bound package List.mem_cons_self)), if_neg fresh]
      exact ih (fun other later => bound other (List.mem_cons_of_mem _ later)) restSorted

namespace Snapshot

/-- A snapshot is determined by its target and its packages. -/
theorem ext_packages {a b : Snapshot sha256} (targetBinding : a.targetBinding = b.targetBinding)
    (packages : a.packages = b.packages) : a = b := by
  rcases a with ⟨_, _, _, _, _, _, _, aOwners, aOwnership, aIdentity⟩
  rcases b with ⟨_, _, _, _, _, _, _, bOwners, bOwnership, bIdentity⟩
  cases targetBinding
  cases packages
  cases aOwners
  cases bOwners
  rw [aOwnership] at bOwnership
  cases bOwnership
  cases aIdentity
  cases bIdentity
  rfl

instance : DecidableEq (Snapshot sha256) := fun a b =>
  decidable_of_iff (a.targetBinding = b.targetBinding ∧ a.packages = b.packages)
    ⟨fun same => ext_packages same.1 same.2, fun same => by rw [same]; exact ⟨rfl, rfl⟩⟩

/-- `snapshot::make` after its sort. -/
def assemble (targetBinding : StateTargetBinding sha256)
    (packages : List (InstalledPackage sha256))
    (ordered : packages.Pairwise fun a b => less b.name a.name = false) :
    Except Failure (Snapshot sha256) :=
  match checks : checkPackages targetBinding none packages with
  | .error failure => .error failure
  | .ok () =>
      match ownership : identifyOwnership sha256 (gather (ownershipClaims packages)) with
      | .error failure => .error failure
      | .ok ownershipIdentity => .ok
          { targetBinding, packages, ownershipIdentity
            owners := _
            identity := _
            sorted := sortedBy_of_adjacentFind ordered (checkPackages_none checks).2
            bound := (checkPackages_none checks).1
            owners_eq := rfl
            ownership
            identity_eq := rfl }

/-- `snapshot::make`. -/
def make (targetBinding : StateTargetBinding sha256) (packages : List (InstalledPackage sha256)) :
    Except Failure (Snapshot sha256) :=
  assemble targetBinding (sort (fun a b => less a.name b.name) packages)
    (sort_pairwise (refines_less_key InstalledPackage.name) packages)

theorem assemble_ok {targetBinding : StateTargetBinding sha256}
    {packages : List (InstalledPackage sha256)}
    {ordered : packages.Pairwise fun a b => less b.name a.name = false}
    {result : Snapshot sha256} (built : assemble targetBinding packages ordered = .ok result) :
    result.targetBinding = targetBinding ∧ result.packages = packages := by
  unfold assemble at built
  split at built
  · cases built
  · split at built
    · cases built
    · cases built
      exact ⟨rfl, rfl⟩

theorem make_ok {targetBinding : StateTargetBinding sha256}
    {packages : List (InstalledPackage sha256)} {result : Snapshot sha256}
    (built : make targetBinding packages = .ok result) :
    result.targetBinding = targetBinding ∧ result.packages.Perm packages := by
  obtain ⟨target, sorted⟩ := assemble_ok built
  exact ⟨target, sorted ▸ sort_perm _ packages⟩

/-- A snapshot made from a vector holds no more packages than a vector. -/
theorem length_lt_of_make {targetBinding : StateTargetBinding sha256}
    {packages : StdVector (InstalledPackage sha256)} {result : Snapshot sha256}
    (built : make targetBinding packages.toList = .ok result) :
    result.packages.length < 2 ^ 64 := by
  rw [(make_ok built).2.length_eq]
  exact packages.size_lt

/-- Sorted packages of one target whose ownership is identified make a
snapshot. -/
theorem assemble_of_sorted {targetBinding : StateTargetBinding sha256}
    {packages : List (InstalledPackage sha256)}
    {ordered : packages.Pairwise fun a b => less b.name a.name = false}
    (bound : ∀ package ∈ packages, package.targetBinding = targetBinding)
    (sorted : SortedBy InstalledPackage.name packages)
    {ownershipIdentity : OwnershipInventoryIdentity}
    (identified : identifyOwnership sha256 (gather (ownershipClaims packages)) =
      .ok ownershipIdentity) :
    ∃ result, assemble targetBinding packages ordered = .ok result := by
  have checks : checkPackages targetBinding none packages = .ok () :=
    checkPackages_of_sorted bound sorted
  unfold assemble
  split
  · next failed =>
      rw [checks] at failed
      cases failed
  · split
    · next failed =>
        rw [identified] at failed
        cases failed
    · exact ⟨_, rfl⟩

/-- Rebuilding a snapshot from any arrangement of its packages gives it back. -/
theorem make_of_perm (snapshot : Snapshot sha256) {packages : List (InstalledPackage sha256)}
    (perm : packages.Perm snapshot.packages) :
    make snapshot.targetBinding packages = .ok snapshot := by
  have restored := sort_of_perm (refines_less_key InstalledPackage.name) snapshot.sorted perm
  have rebuilt (packages : List (InstalledPackage sha256))
      (ordered : packages.Pairwise fun a b => less b.name a.name = false)
      (same : packages = snapshot.packages) :
      assemble snapshot.targetBinding packages ordered = .ok snapshot := by
    subst same
    obtain ⟨result, built⟩ : ∃ result,
        assemble snapshot.targetBinding snapshot.packages ordered = .ok result :=
      assemble_of_sorted snapshot.bound snapshot.sorted snapshot.ownership
    obtain ⟨target, packages⟩ := assemble_ok built
    rw [built, ext_packages target packages]
  exact rebuilt _ _ restored

theorem make_self (snapshot : Snapshot sha256) :
    make snapshot.targetBinding snapshot.packages = .ok snapshot :=
  make_of_perm snapshot (List.Perm.refl _)

/-! ## When a snapshot can be built -/

/-- Distinct packages have distinct identities. -/
def DistinctIdentities (packages : List (InstalledPackage sha256)) : Prop :=
  ∀ a ∈ packages, ∀ b ∈ packages, a.identity = b.identity → a = b

theorem DistinctIdentities.mono {packages fewer : List (InstalledPackage sha256)}
    (distinct : DistinctIdentities packages) (subset : ∀ a ∈ fewer, a ∈ packages) :
    DistinctIdentities fewer :=
  fun a aMember b bMember => distinct a (subset a aMember) b (subset b bMember)

theorem ownershipFields_of_nodup {ownership : List (StdString × List InstalledPackageIdentity)}
    (distinct : ∀ entry ∈ ownership, entry.2.Nodup) :
    ∃ fields, ownershipFields ownership = .ok fields := by
  induction ownership with
  | nil => exact ⟨[], rfl⟩
  | cons entry rest ih =>
      rcases entry with ⟨path, owners⟩
      obtain ⟨fields, identified⟩ := ih fun other later =>
        distinct other (List.mem_cons_of_mem _ later)
      have sorted : SortedBy id (sort (fun a b => less a b) owners) :=
        sortedBy_sort (refines_less_key id)
          (by rw [List.map_id]; exact distinct (path, owners) List.mem_cons_self)
      have apart : adjacentFind (fun a b => decide (a = b)) (sort (fun a b => less a b) owners) =
          none := adjacentFind_of_sortedBy sorted
      simp only [ownershipFields, apart, identified]
      exact ⟨_, rfl⟩

/-- One package claims each of its paths once, and two packages with different
identities never make the same claim. -/
theorem ownershipClaims_nodup {packages : List (InstalledPackage sha256)}
    (nodup : packages.Nodup) (distinct : DistinctIdentities packages) :
    (ownershipClaims packages).Nodup := by
  refine List.nodup_flatMap.mpr ⟨fun package _ => ?_, ?_⟩
  · refine List.pairwise_map.mpr (package.receipt.manifest.sorted.imp fun before same => ?_)
    exact less_ne before (PackagePath.string_inj (Prod.ext_iff.mp same).1)
  · refine List.Pairwise.imp_of_mem (fun {a b} aMember bMember apart => ?_) nodup
    intro claim inA inB
    obtain ⟨_, _, rfl⟩ := List.mem_map.mp inA
    obtain ⟨_, _, same⟩ := List.mem_map.mp inB
    exact apart (distinct a aMember b bMember (Prod.ext_iff.mp same).2.symm)

/-- Packages whose records do not collide have distinct identities. -/
theorem distinctIdentities_of_collisionFree {packages : List (InstalledPackage sha256)}
    {records : List Bytes} (free : CollisionFree sha256 records)
    (hashed : ∀ package ∈ packages, package.records ⊆ records) : DistinctIdentities packages := by
  intro a aMember b bMember same
  exact InstalledPackage.eq_of_identity_eq free (hashed a aMember) (hashed b bMember) same

theorem identifyOwnership_of_distinct {packages : List (InstalledPackage sha256)}
    (nodup : packages.Nodup) (distinct : DistinctIdentities packages) :
    ∃ identity, identifyOwnership sha256 (gather (ownershipClaims packages)) = .ok identity := by
  obtain ⟨fields, identified⟩ := ownershipFields_of_nodup fun entry member =>
    nodup_of_mem_gather (ownershipClaims_nodup nodup distinct) member
  simp only [identifyOwnership, ownershipRecord, identified]
  exact ⟨_, rfl⟩

/-- Differently named packages of one target make a snapshot, whatever their
order, when their identities tell them apart. -/
theorem make_of_distinct {targetBinding : StateTargetBinding sha256}
    {packages : List (InstalledPackage sha256)}
    (bound : ∀ package ∈ packages, package.targetBinding = targetBinding)
    (names : (packages.map InstalledPackage.name).Nodup)
    (distinct : DistinctIdentities packages) :
    ∃ result, make targetBinding packages = .ok result := by
  have sorted := sortedBy_sort (refines_less_key InstalledPackage.name) names
  obtain ⟨identity, identified⟩ := identifyOwnership_of_distinct
    (sorted.imp fun before same => less_ne before (congrArg InstalledPackage.name same))
    (distinct.mono fun package member => mem_sort.mp member)
  exact assemble_of_sorted (fun package member => bound package (mem_sort.mp member)) sorted
    identified

theorem checkPackages_error {targetBinding : StateTargetBinding sha256}
    {previous : Option (InstalledPackage sha256)} {packages : List (InstalledPackage sha256)}
    {failure : Failure} (failed : checkPackages targetBinding previous packages = .error failure) :
    ∃ name : Bytes,
      failure = .stateError (ascii "installed package belongs to another target: " ++ name) ∨
      failure = .stateError (ascii "duplicate installed package: " ++ name) := by
  induction packages generalizing previous with
  | nil => cases failed
  | cons package rest ih =>
      unfold checkPackages at failed
      split at failed
      · cases failed
        exact ⟨package.name.bytes, Or.inl rfl⟩
      · split at failed
        · cases failed
          exact ⟨package.name.bytes, Or.inr rfl⟩
        · exact ih failed

/-- Distinct packages are only refused for their target or their name, never for
their ownership. -/
theorem make_error {targetBinding : StateTargetBinding sha256}
    {packages : List (InstalledPackage sha256)} {failure : Failure}
    (distinct : DistinctIdentities packages)
    (failed : make targetBinding packages = .error failure) : ∃ name : Bytes,
      failure = .stateError (ascii "installed package belongs to another target: " ++ name) ∨
      failure = .stateError (ascii "duplicate installed package: " ++ name) := by
  unfold make assemble at failed
  split at failed
  · next other refused =>
      cases failed
      exact checkPackages_error refused
  · next checks =>
      have sorted := sortedBy_of_adjacentFind
        (sort_pairwise (refines_less_key InstalledPackage.name) packages)
        (checkPackages_none checks).2
      obtain ⟨identity, identified⟩ := identifyOwnership_of_distinct
        (sorted.imp fun before same => less_ne before (congrArg InstalledPackage.name same))
        (distinct.mono fun package member => mem_sort.mp member)
      split at failed
      · next other refused =>
          rw [identified] at refused
          cases refused
      · cases failed

/-! ## Packages that own nothing -/

theorem ownershipClaims_of_unowned {packages : List (InstalledPackage sha256)}
    (unowned : ∀ package ∈ packages, package.manifest = []) :
    ownershipClaims packages = [] := by
  apply List.flatMap_eq_nil_iff.mpr
  intro package member
  rw [unowned package member, List.map_nil]

/-- The snapshot of packages that own nothing. -/
def unowned (targetBinding : StateTargetBinding sha256) (packages : List (InstalledPackage sha256))
    (sorted : SortedBy InstalledPackage.name packages)
    (bound : ∀ package ∈ packages, package.targetBinding = targetBinding)
    (unowned : ∀ package ∈ packages, package.manifest = []) : Snapshot sha256 where
  targetBinding
  packages
  owners := gather (ownerIndexes packages)
  ownershipIdentity :=
    identifyRecord sha256 (CanonicalRecord.header .ownershipInventory ++ u64Bytes 0 ++ [])
  identity := _
  sorted
  bound
  owners_eq := rfl
  ownership := by
    rw [ownershipClaims_of_unowned unowned]
    rfl
  identity_eq := rfl

/-- The snapshot of no packages. -/
def empty (targetBinding : StateTargetBinding sha256) : Snapshot sha256 :=
  unowned targetBinding [] List.Pairwise.nil (fun _ member => absurd member List.not_mem_nil)
    (fun _ member => absurd member List.not_mem_nil)

/-- Differently named packages that own nothing make a snapshot. -/
theorem make_of_unowned {targetBinding : StateTargetBinding sha256}
    {packages : List (InstalledPackage sha256)}
    (bound : ∀ package ∈ packages, package.targetBinding = targetBinding)
    (names : (packages.map InstalledPackage.name).Nodup)
    (bare : ∀ package ∈ packages, package.manifest = []) :
    ∃ result, make targetBinding packages = .ok result := by
  have arranged := sort_perm (fun a b : InstalledPackage sha256 => less a.name b.name) packages
  refine ⟨_, make_of_perm (unowned targetBinding _
    (sortedBy_sort (refines_less_key InstalledPackage.name) names) ?_ ?_) arranged.symm⟩
  · intro package member
    exact bound package (mem_sort.mp member)
  · intro package member
    exact bare package (mem_sort.mp member)

/-! ## Lookup -/

/-- `find_package`. -/
def findPackage (snapshot : Snapshot sha256) (name : StdString) :
    Option (InstalledPackage sha256) :=
  findKey InstalledPackage.name name snapshot.packages

theorem findPackage_eq_some {snapshot : Snapshot sha256} {name : StdString}
    {package : InstalledPackage sha256} :
    snapshot.findPackage name = some package ↔ package ∈ snapshot.packages ∧ package.name = name :=
  findKey_eq_some snapshot.sorted

theorem findPackage_eq_none {snapshot : Snapshot sha256} {name : StdString} :
    snapshot.findPackage name = none ↔ ∀ package ∈ snapshot.packages, package.name ≠ name :=
  findKey_eq_none snapshot.sorted

/-- The packages at the positions that `owners_` lists for a path. -/
def packagesAt (packages : List (InstalledPackage sha256)) :
    List Nat → Except Failure (List (InstalledPackage sha256))
  | [] => .ok []
  | index :: rest =>
      match packages[index]? with
      | none => .error .outOfRange
      | some package => do
          let others ← packagesAt packages rest
          pure (package :: others)

/-- `owners(path)`. -/
def ownersOf (snapshot : Snapshot sha256) (path : PackagePath) :
    Except Failure (List (InstalledPackage sha256)) :=
  match snapshot.owners.lookup path.string with
  | none => .ok []
  | some indexes => packagesAt snapshot.packages indexes

/-- `is_owned`. -/
def isOwned (snapshot : Snapshot sha256) (path : PackagePath) : Bool :=
  (snapshot.owners.lookup path.string).isSome

end Snapshot

/-! ## Lookups by binary search

`snapshot::find_package`, `installed_package::find` and
`package_source_record::lifecycle` each trust an order that the constructor of the
value established, under a comparator of its own: by name, by path, and by whole
program where the search compares actions only. -/

/-- The order of the programs, which are compared as a whole, is one of their action
bytes. -/
theorem sortedBy_actionByte {sha256 : Sha256} (record : PackageSourceRecord sha256) :
    SortedBy (fun program : LifecycleProgram => toByte program.action)
      record.lifecyclePrograms.toList :=
  record.lifecyclePrograms.sorted

/-- Every lookup by binary search finds the only value of its key, for any name, any
path and any action byte. -/
theorem lookups_agree (sha256 : Sha256) :
    (∀ snapshot : Snapshot sha256,
      FindsOnly InstalledPackage.name snapshot.packages snapshot.findPackage) ∧
    (∀ package : InstalledPackage sha256,
      FindsOnly OwnedEntry.path package.manifest package.find) ∧
    ∀ record : PackageSourceRecord sha256,
      FindsOnly (fun program : LifecycleProgram => toByte program.action)
        record.lifecyclePrograms.toList record.lifecycle :=
  ⟨fun snapshot => findsOnly_findKey snapshot.sorted,
    fun package => findsOnly_findKey package.receipt.manifest.sorted,
    fun record => findsOnly_findKey (sortedBy_actionByte record)⟩

end Pkgstate
