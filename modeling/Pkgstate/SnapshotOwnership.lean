import Pkgstate.Fixtures

/-!
# Who owns a path

`snapshot::make` gathers two maps from paths to owners while it checks the
packages: positions for `owners` and `is_owned`, identities for the ownership
record. Both list, under a path, the packages whose manifests have it
(`pushedAt_ownerIndexes`, `pushedAt_ownershipClaims`). So the index answers as the
manifests do (`ownersOf_manifests`), and the ownership identity stands for the
relation between paths and owners (`ownershipIdentity_iff`).
-/

namespace Pkgstate

open Wire Cpp Keyed

variable {sha256 : Sha256}

/-! ## What is pushed under a path -/

/-- A package pushes its tag once under each path that it owns. -/
theorem pushedAt_manifest {β : Type} (package : InstalledPackage sha256) (path : PackagePath)
    (tag : β) :
    pushedAt path.string (package.manifest.map fun entry => (entry.path.string, tag)) =
      if package.owns path then [tag] else [] := by
  have elsewhere {entries : List OwnedEntry} (apart : ∀ entry ∈ entries, entry.path ≠ path) :
      pushedAt path.string (entries.map fun entry => (entry.path.string, tag)) = [] := by
    rw [pushedAt, List.filterMap_map]
    refine List.filterMap_eq_nil_iff.mpr fun entry member => ?_
    exact if_neg fun same => apart entry member (PackagePath.string_inj same)
  rcases located package.receipt.manifest.sorted path with
    ⟨front, entry, back, split, _, here, before, after⟩ | ⟨front, back, split, _, before, after⟩
  · have owned : package.owns path = true :=
      InstalledPackage.owns_iff.mpr ⟨entry, by rw [InstalledPackage.manifest, split]; simp, here⟩
    have inFront := elsewhere fun other member => less_ne (before other member)
    have inBack := elsewhere fun other member => (less_ne (after other member)).symm
    rw [if_pos owned, InstalledPackage.manifest, split, List.map_append, List.map_cons, pushedAt,
      List.filterMap_append, List.filterMap_cons, if_pos (congrArg PackagePath.string here)]
    rw [pushedAt] at inFront inBack
    rw [inFront, inBack]
    rfl
  · have apart : ∀ entry ∈ package.manifest, entry.path ≠ path := by
      intro entry member
      rw [InstalledPackage.manifest, split] at member
      rcases List.mem_append.mp member with inFront | inBack
      · exact less_ne (before entry inFront)
      · exact (less_ne (after entry inBack)).symm
    have unowned : ¬ package.owns path = true := by
      intro owned
      obtain ⟨entry, member, here⟩ := InstalledPackage.owns_iff.mp owned
      exact apart entry member here
    rw [if_neg unowned, elsewhere apart]

theorem flatMap_ite_singleton {α β : Type} (test : α → Bool) (image : α → β) (values : List α) :
    (values.flatMap fun value => if test value then [image value] else []) =
      (values.filter test).map image := by
  induction values with
  | nil => rfl
  | cons value rest ih =>
      rw [List.flatMap_cons, ih]
      by_cases passed : test value = true <;> simp [passed]

theorem pushedAt_ownershipClaims (packages : List (InstalledPackage sha256))
    (path : PackagePath) :
    pushedAt path.string (ownershipClaims packages) =
      (packages.filter fun package => package.owns path).map InstalledPackage.identity := by
  rw [← flatMap_ite_singleton, ownershipClaims, pushedAt, List.filterMap_flatMap]
  exact List.flatMap_congr fun package _ => pushedAt_manifest package path package.identity

theorem pushedAt_ownerIndexes (packages : List (InstalledPackage sha256)) (path : PackagePath) :
    pushedAt path.string (ownerIndexes packages) =
      (packages.zipIdx.filter fun entry => entry.1.owns path).map Prod.snd := by
  rw [← flatMap_ite_singleton, ownerIndexes, pushedAt, List.filterMap_flatMap]
  exact List.flatMap_congr fun entry _ => pushedAt_manifest entry.1 path entry.2

/-! ## The owner index -/

namespace Snapshot

theorem packagesAt_map_snd {packages : List (InstalledPackage sha256)}
    {entries : List (InstalledPackage sha256 × Nat)}
    (valid : ∀ entry ∈ entries, packages[entry.2]? = some entry.1) :
    packagesAt packages (entries.map Prod.snd) = .ok (entries.map Prod.fst) := by
  induction entries with
  | nil => rfl
  | cons entry rest ih =>
      rw [List.map_cons, packagesAt, valid entry List.mem_cons_self,
        ih fun other later => valid other (List.mem_cons_of_mem _ later)]
      rfl

theorem lookup_owners (snapshot : Snapshot sha256) (path : PackagePath) :
    snapshot.owners.lookup path.string =
      if (snapshot.packages.zipIdx.filter fun entry => entry.1.owns path) = [] then none
      else some ((snapshot.packages.zipIdx.filter fun entry => entry.1.owns path).map
        Prod.snd) := by
  rw [snapshot.owners_eq, lookup_gather, pushedAt_ownerIndexes]
  simp only [List.map_eq_nil_iff]

/-- Dropping the positions of the owners leaves the owners. -/
theorem map_fst_filter_zipIdx (packages : List (InstalledPackage sha256)) (path : PackagePath) :
    (packages.zipIdx.filter fun entry => entry.1.owns path).map Prod.fst =
      packages.filter fun package => package.owns path := by
  conv_rhs => rw [← List.zipIdx_map_fst 0 packages]
  rw [List.filter_map]
  rfl

/-- `owners` never reads past the packages, and returns those that own the path. -/
theorem ownersOf_eq (snapshot : Snapshot sha256) (path : PackagePath) :
    snapshot.ownersOf path =
      .ok (snapshot.packages.filter fun package => package.owns path) := by
  rw [ownersOf, lookup_owners, ← map_fst_filter_zipIdx]
  split
  · next found =>
      split at found
      · next none => rw [none]; rfl
      · cases found
  · next indexes found =>
      split at found
      · cases found
      · cases found
        apply packagesAt_map_snd
        intro entry member
        exact List.mk_mem_zipIdx_iff_getElem?.mp (List.mem_filter.mp member).1

/-- The owner index agrees with the manifests: `owners` returns the packages of the
snapshot that own the path, each once and in the order of their names, and
`is_owned` says whether there is one. -/
theorem ownersOf_manifests (snapshot : Snapshot sha256) (path : PackagePath) :
    ∃ owners, snapshot.ownersOf path = .ok owners ∧
      (∀ package, package ∈ owners ↔ package ∈ snapshot.packages ∧ package.owns path = true) ∧
      SortedBy InstalledPackage.name owners ∧
      (snapshot.isOwned path = true ↔ owners ≠ []) := by
  refine ⟨_, snapshot.ownersOf_eq path, fun package => List.mem_filter, ?_, ?_⟩
  · exact snapshot.sorted.sublist List.filter_sublist
  · rw [isOwned, lookup_owners, ← map_fst_filter_zipIdx, Ne, List.map_eq_nil_iff]
    split
    · next none => simp [none]
    · next some => simp [some]

/-! ## The ownership record -/

/-- The paths and the identities of the packages that own them. -/
def ownershipRelation (snapshot : Snapshot sha256) :
    Set (StdString × InstalledPackageIdentity) :=
  {claim | ∃ package ∈ snapshot.packages, ∃ path : PackagePath,
    package.owns path = true ∧ claim = (path.string, package.identity)}

theorem mem_ownershipRelation {snapshot : Snapshot sha256}
    {claim : StdString × InstalledPackageIdentity} :
    claim ∈ snapshot.ownershipRelation ↔ claim ∈ ownershipClaims snapshot.packages := by
  rw [ownershipClaims, List.mem_flatMap]
  constructor
  · rintro ⟨package, member, path, owned, rfl⟩
    obtain ⟨entry, inManifest, rfl⟩ := InstalledPackage.owns_iff.mp owned
    exact ⟨package, member, List.mem_map.mpr ⟨entry, inManifest, rfl⟩⟩
  · rintro ⟨package, member, pushed⟩
    obtain ⟨entry, inManifest, rfl⟩ := List.mem_map.mp pushed
    exact ⟨package, member, entry.path,
      InstalledPackage.owns_iff.mpr ⟨entry, inManifest, rfl⟩, rfl⟩

/-- The map from paths to sorted owners that `identify_ownership` writes. -/
def ownershipInventory (snapshot : Snapshot sha256) :
    List (StdString × List InstalledPackageIdentity) :=
  (gather (ownershipClaims snapshot.packages)).map fun entry =>
    (entry.1, sort (fun a b => less a b) entry.2)

end Snapshot

/-- The bytes of one path and its owners. -/
def inventoryFields (entry : StdString × List InstalledPackageIdentity) : Bytes :=
  stringBytes entry.1.bytes ++ countedBytes (fun owner : InstalledPackageIdentity =>
    CanonicalRecord.appendDigest owner) entry.2

theorem ownershipFields_ok {ownership : List (StdString × List InstalledPackageIdentity)}
    {fields : Bytes} (identified : ownershipFields ownership = .ok fields) :
    (∀ entry ∈ ownership, SortedBy id (sort (fun a b => less a b) entry.2)) ∧
      fields = (ownership.map fun entry =>
        (entry.1, sort (fun a b => less a b) entry.2)).flatMap inventoryFields := by
  induction ownership generalizing fields with
  | nil =>
      cases identified
      exact ⟨by simp, rfl⟩
  | cons entry rest ih =>
      rcases entry with ⟨path, owners⟩
      simp only [ownershipFields] at identified
      split at identified
      · cases identified
      · next distinct =>
          rcases bind_eq_ok.mp identified with ⟨others, restIdentified, written⟩
          cases written
          obtain ⟨restSorted, rfl⟩ := ih restIdentified
          have sorted : SortedBy id (sort (fun a b => less a b) owners) :=
            sortedBy_of_adjacentFind (sort_pairwise (refines_less_key id) owners) distinct
          refine ⟨?_, rfl⟩
          intro other member
          rcases List.mem_cons.mp member with rfl | later
          · exact sorted
          · exact restSorted other later

namespace Snapshot

/-- The record that a snapshot's ownership identity hashes. -/
theorem ownershipRecord_eq_ok {snapshot : Snapshot sha256} {record : Bytes}
    (hashed : ownershipRecord (gather (ownershipClaims snapshot.packages)) = .ok record) :
    snapshot.ownershipIdentity = identifyRecord sha256 record ∧
      (∀ entry ∈ snapshot.ownershipInventory, SortedBy id entry.2) ∧
      record = CanonicalRecord.header .ownershipInventory ++
        (u64Bytes snapshot.ownershipInventory.length.toUInt64 ++
          snapshot.ownershipInventory.flatMap inventoryFields) := by
  have identified := snapshot.ownership
  rw [identifyOwnership, hashed] at identified
  rcases bind_eq_ok.mp hashed with ⟨fields, written, returned⟩
  cases returned
  obtain ⟨sorted, rfl⟩ := ownershipFields_ok written
  refine ⟨(Except.ok.inj identified).symm, ?_, ?_⟩
  · intro entry member
    obtain ⟨pushed, inMap, rfl⟩ := List.mem_map.mp member
    exact sorted pushed inMap
  · rw [List.append_assoc, ownershipInventory, List.length_map]

theorem sortedBy_ownershipInventory (snapshot : Snapshot sha256) :
    SortedBy Prod.fst snapshot.ownershipInventory :=
  List.pairwise_map.mpr (sortedBy_gather (ownershipClaims snapshot.packages))

/-- The inventory lists, under each owned path, the owners of the relation. -/
theorem mem_ownershipInventory {snapshot : Snapshot sha256}
    {entry : StdString × List InstalledPackageIdentity}
    (sorted : ∀ entry ∈ snapshot.ownershipInventory, SortedBy id entry.2) :
    entry ∈ snapshot.ownershipInventory ↔ SortedBy id entry.2 ∧ entry.2 ≠ [] ∧
      ∀ owner, owner ∈ entry.2 ↔ (entry.1, owner) ∈ snapshot.ownershipRelation := by
  have pushed (path : StdString) (owner : InstalledPackageIdentity) :
      owner ∈ pushedAt path (ownershipClaims snapshot.packages) ↔
        (path, owner) ∈ snapshot.ownershipRelation := by
    rw [mem_pushedAt, mem_ownershipRelation]
  constructor
  · intro member
    refine ⟨sorted entry member, ?_⟩
    obtain ⟨gathered, inMap, rfl⟩ := List.mem_map.mp member
    obtain ⟨same, some⟩ := mem_gather.mp inMap
    refine ⟨?_, fun owner => ?_⟩
    · intro empty
      exact some (List.nil_perm.mp (empty ▸ sort_perm _ gathered.2))
    · rw [mem_sort, same, pushed]
  · rintro ⟨ordered, some, owners⟩
    have inMap : (entry.1, pushedAt entry.1 (ownershipClaims snapshot.packages)) ∈
        gather (ownershipClaims snapshot.packages) := by
      refine mem_gather.mpr ⟨rfl, ?_⟩
      obtain ⟨owner, member⟩ := List.exists_mem_of_ne_nil _ some
      exact List.ne_nil_of_mem ((pushed entry.1 owner).mpr ((owners owner).mp member))
    have listed : (entry.1, sort (fun a b => less a b)
        (pushedAt entry.1 (ownershipClaims snapshot.packages))) ∈ snapshot.ownershipInventory :=
      List.mem_map.mpr ⟨_, inMap, rfl⟩
    have same : sort (fun a b => less a b)
        (pushedAt entry.1 (ownershipClaims snapshot.packages)) = entry.2 := by
      apply (sorted _ listed).ext ordered
      intro owner
      rw [mem_sort, pushed, owners]
    rw [same] at listed
    exact listed

theorem mem_ownershipRelation_iff {snapshot : Snapshot sha256} {path : StdString}
    {owner : InstalledPackageIdentity}
    (sorted : ∀ entry ∈ snapshot.ownershipInventory, SortedBy id entry.2) :
    (path, owner) ∈ snapshot.ownershipRelation ↔
      ∃ owners, (path, owners) ∈ snapshot.ownershipInventory ∧ owner ∈ owners := by
  constructor
  · intro claimed
    have pushed := mem_pushedAt.mpr (mem_ownershipRelation.mp claimed)
    have inMap : (path, pushedAt path (ownershipClaims snapshot.packages)) ∈
        gather (ownershipClaims snapshot.packages) :=
      mem_gather.mpr ⟨rfl, List.ne_nil_of_mem pushed⟩
    exact ⟨_, List.mem_map.mpr ⟨_, inMap, rfl⟩, mem_sort.mpr pushed⟩
  · rintro ⟨owners, listed, member⟩
    exact ((mem_ownershipInventory sorted).mp listed).2.2 owner |>.mp member

/-- A path has no more owners than there are packages. -/
theorem length_owners_le {snapshot : Snapshot sha256}
    {entry : StdString × List InstalledPackageIdentity}
    (member : entry ∈ snapshot.ownershipInventory) :
    entry.2.length ≤ snapshot.packages.length := by
  obtain ⟨gathered, inMap, rfl⟩ := List.mem_map.mp member
  obtain ⟨same, some⟩ := mem_gather.mp inMap
  obtain ⟨owner, inOwners⟩ := List.exists_mem_of_ne_nil _ some
  rw [same] at inOwners
  obtain ⟨_, _, path, _, claimed⟩ :=
    mem_ownershipRelation.mpr (mem_pushedAt.mp inOwners)
  rw [length_sort, same, (Prod.ext_iff.mp claimed).1, pushedAt_ownershipClaims, List.length_map]
  exact List.length_filter_le _ _

/-- Snapshots whose inventories are written alike have one inventory. -/
theorem ownershipInventory_inj {a b : Snapshot sha256} (aBound : a.packages.length < 2 ^ 64)
    (bBound : b.packages.length < 2 ^ 64)
    (same : a.ownershipInventory.flatMap inventoryFields =
      b.ownershipInventory.flatMap inventoryFields) :
    a.ownershipInventory = b.ownershipInventory := by
  refine SelfDelimiting.flatMap_eq (fun entry => ?_) ?_ same
  · exact List.append_ne_nil_of_left_ne_nil (by simp [stringBytes, u64Bytes, bigEndian]) _
  · intro aEntry aMember bEntry bMember s t whole
    simp only [inventoryFields, List.append_assoc] at whole
    obtain ⟨paths, whole⟩ := SelfDelimiting.string.strip whole
    obtain ⟨owners, whole⟩ := CanonicalRecord.selfDelimiting_appendDigest.counted_list
      (Nat.lt_of_le_of_lt (length_owners_le aMember) aBound)
      (Nat.lt_of_le_of_lt (length_owners_le bMember) bBound) whole
    exact ⟨Prod.ext paths owners, whole⟩

/-- The ownership identity depends on exactly the relation between paths and owners:
unless the two ownership records collide, it is the same for two snapshots just
when the same packages own the same paths in both. -/
theorem ownershipIdentity_iff {aBinding bBinding : StateTargetBinding sha256}
    {aPackages bPackages : StdVector (InstalledPackage sha256)} {a b : Snapshot sha256}
    (aBuilt : make aBinding aPackages.toList = .ok a)
    (bBuilt : make bBinding bPackages.toList = .ok b) {aRecord bRecord : Bytes}
    (aHashed : ownershipRecord (gather (ownershipClaims a.packages)) = .ok aRecord)
    (bHashed : ownershipRecord (gather (ownershipClaims b.packages)) = .ok bRecord)
    (free : CollisionFree sha256 [aRecord, bRecord]) :
    a.ownershipIdentity = b.ownershipIdentity ↔ a.ownershipRelation = b.ownershipRelation := by
  obtain ⟨aIdentity, aSorted, aWritten⟩ := ownershipRecord_eq_ok aHashed
  obtain ⟨bIdentity, bSorted, bWritten⟩ := ownershipRecord_eq_ok bHashed
  constructor
  · intro same
    rw [aIdentity, bIdentity] at same
    have records := free.record_eq List.mem_cons_self
      (List.mem_cons_of_mem _ List.mem_cons_self) same
    rw [aWritten, bWritten] at records
    have inventories := ownershipInventory_inj (length_lt_of_make aBuilt)
      (length_lt_of_make bBuilt) (SelfDelimiting.u64.strip (List.append_cancel_left records)).2
    ext ⟨path, owner⟩
    rw [mem_ownershipRelation_iff aSorted, mem_ownershipRelation_iff bSorted, inventories]
  · intro same
    have inventories : a.ownershipInventory = b.ownershipInventory := by
      apply a.sortedBy_ownershipInventory.ext b.sortedBy_ownershipInventory
      intro entry
      rw [mem_ownershipInventory aSorted, mem_ownershipInventory bSorted, same]
    rw [aIdentity, bIdentity, aWritten, bWritten, inventories]

/-- A package without paths beside an owner leaves the ownership identity alone, and
the owner shows in it. -/
theorem ownershipIdentity_iff_owned :
    ∃ alone beside : Snapshot Sha256.hash, alone.packages = [Fixture.owningPackage] ∧
      beside.packages = [Fixture.owningPackage, Fixture.second] ∧
      alone.ownershipIdentity = beside.ownershipIdentity ∧
      alone.ownershipIdentity ≠ (Snapshot.empty Fixture.binding).ownershipIdentity := by
  let single : StdVector (InstalledPackage Sha256.hash) := ⟨[Fixture.owningPackage], by decide⟩
  let pair : StdVector (InstalledPackage Sha256.hash) :=
    ⟨[Fixture.owningPackage, Fixture.second], by decide⟩
  let none : StdVector (InstalledPackage Sha256.hash) := ⟨[], by decide⟩
  have owns : Fixture.owningPackage ∈ Fixture.packages :=
    List.mem_append_right [Fixture.package, Fixture.second, Fixture.third]
      (List.mem_singleton_self _)
  have second : Fixture.second ∈ Fixture.packages :=
    List.mem_cons_of_mem _ List.mem_cons_self
  obtain ⟨alone, aloneBuilt, alonePackages⟩ := Fixture.exists_state
    (show single.toList ⊆ Fixture.packages from List.cons_subset.mpr ⟨owns, List.nil_subset _⟩)
    (List.pairwise_singleton _ _)
  obtain ⟨beside, besideBuilt, besidePackages⟩ := Fixture.exists_state
    (show pair.toList ⊆ Fixture.packages from
      List.cons_subset.mpr ⟨owns, List.cons_subset.mpr ⟨second, List.nil_subset _⟩⟩)
    (List.pairwise_pair.mpr (by decide +kernel))
  have emptyBuilt : make Fixture.binding none.toList = .ok (Snapshot.empty Fixture.binding) :=
    make_self (Snapshot.empty Fixture.binding)
  have aloneClaims : ownershipClaims alone.packages =
      [(Fixture.directory.path.string, Fixture.owningPackage.identity)] := by
    rw [alonePackages]
    rfl
  have besideClaims : ownershipClaims beside.packages =
      [(Fixture.directory.path.string, Fixture.owningPackage.identity)] := by
    rw [besidePackages]
    rfl
  have hashed := Fixture.ownershipRecord_owning aloneClaims
  have free : CollisionFree Sha256.hash
      [Fixture.owningRecord Fixture.owningPackage, Fixture.unownedRecord] :=
    Fixture.collisionFree.mono (by simp [Fixture.records])
  refine ⟨alone, beside, alonePackages, besidePackages, ?_, ?_⟩
  · refine (ownershipIdentity_iff aloneBuilt besideBuilt hashed
      (Fixture.ownershipRecord_owning besideClaims) (free.mono (by simp))).mpr ?_
    ext claim
    rw [mem_ownershipRelation, mem_ownershipRelation, aloneClaims, besideClaims]
  · intro same
    have relation := (ownershipIdentity_iff aloneBuilt emptyBuilt hashed rfl free).mp same
    have claimed := Set.ext_iff.mp relation
      (Fixture.directory.path.string, Fixture.owningPackage.identity)
    rw [mem_ownershipRelation, mem_ownershipRelation, aloneClaims] at claimed
    exact List.not_mem_nil (claimed.mp (List.mem_singleton_self _))

/-! ## Which packages make a snapshot -/

/-- The refusals for a target or a name do not read like the one for a duplicate
claim. -/
theorem refused_ne_claim {failure : Failure} {name : Bytes}
    (refused : failure =
        .stateError (ascii "installed package belongs to another target: " ++ name) ∨
      failure = .stateError (ascii "duplicate installed package: " ++ name)) (path : Bytes) :
    failure ≠ .stateError (ascii "duplicate ownership claim for path: " ++ path) := by
  intro claim
  have front {text rest : Bytes} (long : 11 ≤ text.length) :
      (text ++ rest).take 11 = text.take 11 := List.take_append_of_le_length long
  rcases refused with rfl | rfl
  · have same := congrArg (List.take 11) (Failure.stateError.inj claim)
    rw [front (by decide), front (by decide)] at same
    exact absurd same (by decide)
  · have same := congrArg (List.take 11) (Failure.stateError.inj claim)
    rw [front (by decide), front (by decide)] at same
    exact absurd same (by decide)

theorem make_perm {targetBinding : StateTargetBinding sha256}
    {packages others : List (InstalledPackage sha256)} {result : Snapshot sha256}
    (built : make targetBinding packages = .ok result) (perm : others.Perm packages) :
    make targetBinding others = .ok result := by
  obtain ⟨rfl, arranged⟩ := make_ok built
  exact make_of_perm result (perm.trans arranged.symm)

/-- `snapshot::make` refuses exactly the inconsistent packages and ignores their
order. It fails just when a package belongs to another target or two have one
name, never over a duplicate ownership claim; it gives the same snapshot, or none,
for every arrangement of the packages; and what it gives has the target and just the
packages, in the order of their names. -/
theorem make_rejects_inconsistent (targetBinding : StateTargetBinding sha256)
    (packages : List (InstalledPackage sha256))
    (free : CollisionFree sha256 (packages.flatMap InstalledPackage.records)) :
    ((∃ failure, make targetBinding packages = .error failure) ↔
      (∃ package ∈ packages, package.targetBinding ≠ targetBinding) ∨
        ¬ (packages.map InstalledPackage.name).Nodup) ∧
    (∀ path : Bytes, make targetBinding packages ≠
      .error (.stateError (ascii "duplicate ownership claim for path: " ++ path))) ∧
    (∀ arranged : List (InstalledPackage sha256), arranged.Perm packages →
      ∀ result, make targetBinding arranged = .ok result ↔
        make targetBinding packages = .ok result) ∧
    ∀ result, make targetBinding packages = .ok result →
      result.targetBinding = targetBinding ∧ result.packages.Perm packages ∧
      SortedBy InstalledPackage.name result.packages := by
  have distinct := distinctIdentities_of_collisionFree free fun package member record hashed =>
    List.mem_flatMap.mpr ⟨package, member, hashed⟩
  refine ⟨⟨?_, ?_⟩, ?_, ?_, ?_⟩
  · rintro ⟨failure, failed⟩
    by_contra consistent
    obtain ⟨bound, names⟩ := not_or.mp consistent
    obtain ⟨result, built⟩ := make_of_distinct
      (fun package member => not_not.mp fun foreign => bound ⟨package, member, foreign⟩)
      (not_not.mp names) distinct
    rw [built] at failed
    cases failed
  · intro inconsistent
    cases built : make targetBinding packages with
    | error failure => exact ⟨failure, rfl⟩
    | ok result =>
        obtain ⟨rfl, arranged⟩ := make_ok built
        rcases inconsistent with ⟨package, member, foreign⟩ | shared
        · exact absurd (result.bound package (arranged.mem_iff.mpr member)) foreign
        · exact absurd ((arranged.map InstalledPackage.name).nodup_iff.mp
            (nodup_map_key result.sorted)) shared
  · intro path failed
    obtain ⟨name, refused⟩ := make_error distinct failed
    exact refused_ne_claim refused path rfl
  · intro arranged perm result
    exact ⟨fun built => make_perm built perm.symm, fun built => make_perm built perm⟩
  · intro result built
    obtain ⟨target, perm⟩ := make_ok built
    exact ⟨target, perm, result.sorted⟩

/-- One package twice is refused, and two packages are kept in either order. -/
theorem make_rejects_inconsistent_samples :
    (∃ failure, make Fixture.binding [Fixture.package, Fixture.package] = .error failure ∧
      ∀ path, failure ≠ .stateError (ascii "duplicate ownership claim for path: " ++ path)) ∧
    ∃ result, make Fixture.binding [Fixture.second, Fixture.owningPackage] = .ok result ∧
      result.packages = [Fixture.owningPackage, Fixture.second] := by
  have free {samples : List (InstalledPackage Sha256.hash)} (subset : samples ⊆ Fixture.packages) :
      CollisionFree Sha256.hash (samples.flatMap InstalledPackage.records) := by
    apply Fixture.collisionFree.mono
    intro record hashed
    obtain ⟨package, member, inPackage⟩ := List.mem_flatMap.mp hashed
    exact Fixture.records_of_package (subset member) inPackage
  constructor
  · obtain ⟨accepts, unclaimed, _⟩ := make_rejects_inconsistent Fixture.binding
      [Fixture.package, Fixture.package] (free (by simp [Fixture.packages]))
    obtain ⟨failure, failed⟩ := accepts.mpr (Or.inr (by simp))
    refine ⟨failure, failed, fun path claim => ?_⟩
    exact unclaimed path (claim ▸ failed)
  · obtain ⟨accepts, _, _, kept⟩ := make_rejects_inconsistent Fixture.binding
      [Fixture.second, Fixture.owningPackage] (free (by simp [Fixture.packages]))
    have ordered : SortedBy InstalledPackage.name [Fixture.owningPackage, Fixture.second] :=
      List.pairwise_pair.mpr (by decide +kernel)
    cases built : make Fixture.binding [Fixture.second, Fixture.owningPackage] with
    | error failure =>
        rcases accepts.mp ⟨failure, built⟩ with ⟨package, member, foreign⟩ | shared
        · refine absurd (Fixture.bound ?_) foreign
          exact (show [Fixture.second, Fixture.owningPackage] ⊆ Fixture.packages by
            simp [Fixture.packages]) member
        · exact absurd ((List.Perm.swap ..).map InstalledPackage.name |>.nodup_iff.mp
            (nodup_map_key ordered)) shared
    | ok result =>
        obtain ⟨_, perm, sorted⟩ := kept result built
        refine ⟨result, rfl, sorted.ext ordered fun _ => ?_⟩
        exact (perm.trans (List.Perm.swap ..)).mem_iff

end Snapshot

end Pkgstate
