import Pkgstate.GenerationCodec
import Pkgstate.PublicationProjection

/-!
# What a snapshot's identity determines

The stale check of the store compares one digest. `Snapshot.records` lists the
records hashed while a snapshot is built; unless two of them collide, the digest
determines the whole snapshot (`Snapshot.eq_of_identity_eq`), as its stored
encoding does (`encodeGenerationSnapshot_inj`), and no request projects a snapshot
onto one of the same digest (`project_identity_ne`).
-/

namespace Pkgstate

open Wire Cpp Keyed

variable {sha256 : Sha256}

namespace Snapshot

/-- The records hashed while building a snapshot and the values in it. -/
def records (snapshot : Snapshot sha256) : List Bytes :=
  snapshot.targetBinding.toTargetAuthorities.record ::
    (snapshot.packages.flatMap InstalledPackage.records ++
      (match ownershipRecord (gather (ownershipClaims snapshot.packages)) with
        | .ok record => [record]
        | .error _ => []) ++
      [snapshotRecord snapshot.targetBinding snapshot.packages snapshot.ownershipIdentity])

theorem target_mem_records (snapshot : Snapshot sha256) :
    snapshot.targetBinding.toTargetAuthorities.record ∈ snapshot.records :=
  List.mem_cons_self

theorem packages_mem_records {snapshot : Snapshot sha256} {package : InstalledPackage sha256}
    (member : package ∈ snapshot.packages) : package.records ⊆ snapshot.records := by
  intro record hashed
  refine List.mem_cons_of_mem _ (List.mem_append_left _ (List.mem_append_left _ ?_))
  exact List.mem_flatMap.mpr ⟨package, member, hashed⟩

theorem snapshot_mem_records (snapshot : Snapshot sha256) :
    snapshotRecord snapshot.targetBinding snapshot.packages snapshot.ownershipIdentity ∈
      snapshot.records :=
  List.mem_cons_of_mem _ (List.mem_append_right _ (List.mem_singleton_self _))

theorem records_unowned {targetBinding : StateTargetBinding sha256}
    {packages : List (InstalledPackage sha256)} {sorted : SortedBy InstalledPackage.name packages}
    {bound : ∀ package ∈ packages, package.targetBinding = targetBinding}
    {free : ∀ package ∈ packages, package.manifest = []} :
    (Snapshot.unowned targetBinding packages sorted bound free).records =
      targetBinding.toTargetAuthorities.record ::
        (packages.flatMap InstalledPackage.records ++ [Fixture.unownedRecord] ++
          [Fixture.stateRecord targetBinding packages]) := by
  rw [records, show (Snapshot.unowned targetBinding packages sorted bound free).packages = packages
    from rfl, ownershipClaims_of_unowned free]
  rfl

end Snapshot

theorem length_appendDigest {Tag : Type} {domain : Tag} (digest : TypedDigest domain) :
    (CanonicalRecord.appendDigest digest).length = 44 := by
  simp only [CanonicalRecord.appendDigest, stringBytes, List.length_append, length_u16Bytes,
    length_u64Bytes, digest.value.size_eq, sha256DigestSize]

/-- The digests of a whole list are read off their bytes in one way only. -/
theorem flatMap_appendDigest_inj {Tag : Type} {domain : Tag}
    {as bs : List (TypedDigest domain)} {s t : Bytes} (tails : s.length = t.length)
    (same : as.flatMap (fun digest => CanonicalRecord.appendDigest digest) ++ s =
      bs.flatMap (fun digest => CanonicalRecord.appendDigest digest) ++ t) : as = bs := by
  have size (digests : List (TypedDigest domain)) :
      (digests.flatMap fun digest => CanonicalRecord.appendDigest digest).length =
        digests.length * 44 := by
    rw [List.length_flatMap]
    simp only [length_appendDigest, List.map_const', List.sum_replicate_nat]
  have lengths := congrArg List.length same
  rw [List.length_append, List.length_append, size, size, tails] at lengths
  have counts : as.length = bs.length := by omega
  exact (CanonicalRecord.selfDelimiting_appendDigest.flatMap counts same).1

/-- A snapshot record states its target's identity and its packages' identities in
order. -/
theorem snapshotRecord_inj {a b : Snapshot sha256}
    (same : snapshotRecord a.targetBinding a.packages a.ownershipIdentity =
      snapshotRecord b.targetBinding b.packages b.ownershipIdentity) :
    a.targetBinding.identity = b.targetBinding.identity ∧
      a.packages.map InstalledPackage.identity = b.packages.map InstalledPackage.identity := by
  have ended : snapshotRecord a.targetBinding a.packages a.ownershipIdentity ++ [] =
      snapshotRecord b.targetBinding b.packages b.ownershipIdentity ++ [] := by rw [same]
  simp only [snapshotRecord, countedBytes, List.append_assoc, List.append_cancel_left_eq]
    at ended
  obtain ⟨target, ended⟩ := CanonicalRecord.selfDelimiting_appendDigest.strip ended
  obtain ⟨_, ended⟩ := SelfDelimiting.u64.strip ended
  have digests : (a.packages.map InstalledPackage.identity).flatMap
        (fun digest => CanonicalRecord.appendDigest digest) ++
        (CanonicalRecord.appendDigest a.ownershipIdentity ++ []) =
      (b.packages.map InstalledPackage.identity).flatMap
        (fun digest => CanonicalRecord.appendDigest digest) ++
        (CanonicalRecord.appendDigest b.ownershipIdentity ++ []) := by
    simpa only [List.flatMap_map] using ended
  refine ⟨target, flatMap_appendDigest_inj ?_ digests⟩
  simp only [List.length_append, length_appendDigest]

/-- Lists of packages with the same identities in the same order are equal, unless
two of their records collide. -/
theorem packages_eq_of_identities {records : List Bytes} (free : CollisionFree sha256 records)
    {as bs : List (InstalledPackage sha256)}
    (aHashed : ∀ package ∈ as, package.records ⊆ records)
    (bHashed : ∀ package ∈ bs, package.records ⊆ records)
    (same : as.map InstalledPackage.identity = bs.map InstalledPackage.identity) : as = bs := by
  induction as generalizing bs with
  | nil => exact (List.map_eq_nil_iff.mp same.symm).symm
  | cons a as ih =>
      cases bs with
      | nil => cases same
      | cons b bs =>
          rw [List.map_cons, List.map_cons, List.cons.injEq] at same
          have head := InstalledPackage.eq_of_identity_eq free (aHashed a List.mem_cons_self)
            (bHashed b List.mem_cons_self) same.1
          have rest := ih (fun package later => aHashed package (List.mem_cons_of_mem _ later))
            (fun package later => bHashed package (List.mem_cons_of_mem _ later)) same.2
          rw [head, rest]

/-- The chain of identities: unless two of the hashed records collide, snapshots of
one identity are equal. -/
theorem Snapshot.eq_of_identity_eq {a b : Snapshot sha256} {records : List Bytes}
    (free : CollisionFree sha256 records) (aHashed : a.records ⊆ records)
    (bHashed : b.records ⊆ records) (same : a.identity = b.identity) : a = b := by
  rw [a.identity_eq, b.identity_eq] at same
  obtain ⟨target, identities⟩ := snapshotRecord_inj
    (free.record_eq (aHashed a.snapshot_mem_records) (bHashed b.snapshot_mem_records) same)
  apply Snapshot.ext_packages (StateTargetBinding.eq_of_identity_eq free
    (aHashed a.target_mem_records) (bHashed b.target_mem_records) target)
  refine packages_eq_of_identities free ?_ ?_ identities
  · intro package member record hashed
    exact aHashed (packages_mem_records member hashed)
  · intro package member record hashed
    exact bHashed (packages_mem_records member hashed)

/-- Snapshots with one stored encoding are equal. -/
theorem encodeGenerationSnapshot_inj {a b : Snapshot sha256}
    (same : encodeGenerationSnapshot a = encodeGenerationSnapshot b) : a = b := by
  simp only [encodeGenerationSnapshot, countedBytes, List.append_assoc,
    List.append_cancel_left_eq] at same
  obtain ⟨target, same⟩ := selfDelimiting_storedBinding.strip same
  have packages := (List.append_inj same (by rw [length_u64Bytes, length_u64Bytes])).2
  apply Snapshot.ext_packages target
  exact Decodes.flatMap_inj (fun package => encodeReceipt_ne_nil package.receipt)
    (fun package member => decodes_package (a.bound package member))
    (fun package member => decodes_package ((b.bound package member).trans target.symm)) packages

/-- A snapshot's identity determines the whole durable state: unless two of the
records hashed in building two snapshots collide, equal identities, equal
encodings, and equal targets with equal packages are the same thing. -/
theorem snapshotIdentity_determinesState {a b : Snapshot sha256}
    (free : CollisionFree sha256 (a.records ++ b.records)) :
    (a.identity = b.identity ↔ encodeGenerationSnapshot a = encodeGenerationSnapshot b) ∧
      (a.identity = b.identity ↔
        a.targetBinding = b.targetBinding ∧ a.packages = b.packages) := by
  have whole (same : a.identity = b.identity) : a = b :=
    Snapshot.eq_of_identity_eq free (List.subset_append_left _ _)
      (List.subset_append_right _ _) same
  refine ⟨⟨?_, ?_⟩, ⟨?_, ?_⟩⟩
  · intro same
    rw [whole same]
  · intro same
    rw [encodeGenerationSnapshot_inj same]
  · intro same
    rw [whole same]
    exact ⟨rfl, rfl⟩
  · intro ⟨target, packages⟩
    rw [Snapshot.ext_packages target packages]

/-- A state of unowning samples hashes records of the samples. -/
theorem Fixture.records_of_unowned {packages : List (InstalledPackage Sha256.hash)}
    {sorted : SortedBy InstalledPackage.name packages}
    {bound : ∀ package ∈ packages, package.targetBinding = binding}
    {free : ∀ package ∈ packages, package.manifest = []} (samples : packages ⊆ Fixture.packages)
    (listed : stateRecord binding packages ∈ records) :
    (Snapshot.unowned binding packages sorted bound free).records ⊆ records := by
  rw [Snapshot.records_unowned]
  refine List.cons_subset.mpr ⟨List.mem_cons_self, List.append_subset.mpr
    ⟨List.append_subset.mpr ⟨?_, ?_⟩, List.cons_subset.mpr ⟨listed, List.nil_subset _⟩⟩⟩
  · intro record hashed
    obtain ⟨package, member, inPackage⟩ := List.mem_flatMap.mp hashed
    exact records_of_package (samples member) inPackage
  · simp [records]

theorem Fixture.collisionFree_installed : CollisionFree Sha256.hash
    ((Snapshot.empty binding).records ++ installed.records) := by
  have empty : (Snapshot.empty binding).records ⊆ records :=
    records_of_unowned (List.nil_subset _) (by simp [records])
  have listed : stateRecord binding [package] ∈ records := by simp [records]
  have single : installed.records ⊆ records := records_of_unowned installed_samples listed
  exact collisionFree.mono (List.append_subset.mpr ⟨empty, single⟩)

/-- The states with and without a package have different identities, as they have
different packages. -/
theorem snapshotIdentity_determinesState_installed :
    (Snapshot.empty Fixture.binding).identity ≠ Fixture.installed.identity ∧
      encodeGenerationSnapshot (Snapshot.empty Fixture.binding) ≠
        encodeGenerationSnapshot Fixture.installed := by
  obtain ⟨encodings, states⟩ := snapshotIdentity_determinesState Fixture.collisionFree_installed
  have differ : (Snapshot.empty Fixture.binding).identity ≠ Fixture.installed.identity := by
    intro same
    exact List.cons_ne_nil _ _ (states.mp same).2.symm
  exact ⟨differ, fun same => differ (encodings.mpr same)⟩

theorem project_identity_ne {request : StatePublicationRequest sha256}
    {prior result : Snapshot sha256}
    (projected : projectPublicationRequest request prior = .ok result)
    (free : CollisionFree sha256 (prior.records ++ result.records)) :
    result.identity ≠ prior.identity := by
  intro same
  apply project_ne projected
  exact Snapshot.eq_of_identity_eq free (List.subset_append_right _ _)
    (List.subset_append_left _ _) same

end Pkgstate
