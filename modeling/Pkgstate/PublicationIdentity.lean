import Pkgstate.PublicationReceiptCodec
import Pkgstate.PublicationRequestCodec
import Pkgstate.StateIdentity

/-!
# What the identities of requests and receipts determine

A request's canonical record states its proposed packages by identity only, while
the durable record carries their bodies; the two agree because an identity
determines its package (`InstalledPackage.eq_of_identity_eq`). Unless two of the
records hashed in building them collide, requests of one identity are equal, and
so are receipts, and with them what the codec writes for them.
-/

namespace Pkgstate

open Wire Cpp Keyed

variable {sha256 : Sha256}

/-! ## Requests -/

theorem PackageStateDelta.ext_fields {a b : PackageStateDelta sha256} (kind : a.kind = b.kind)
    (packageName : a.packageName = b.packageName)
    (expectedPackage : a.expectedPackage = b.expectedPackage)
    (proposedPackage : a.proposedPackage = b.proposedPackage)
    (operationPlan : a.operationPlan = b.operationPlan)
    (applicationEvidence : a.applicationEvidence = b.applicationEvidence) : a = b := by
  cases a
  cases b
  cases kind
  cases packageName
  cases expectedPackage
  cases proposedPackage
  cases operationPlan
  cases applicationEvidence
  rfl

/-- The fields of a delta are stripped off a record as a whole, unless the records
of the packages they name collide. -/
theorem deltaFields_strip {records : List Bytes} (free : CollisionFree sha256 records)
    {a b : PackageStateDelta sha256} {s t : Bytes}
    (aHashed : ∀ package, a.proposedPackage = some package → package.records ⊆ records)
    (bHashed : ∀ package, b.proposedPackage = some package → package.records ⊆ records)
    (same : deltaFields a ++ s = deltaFields b ++ t) : a = b ∧ s = t := by
  have digest := @CanonicalRecord.selfDelimiting_appendDigest
  simp only [deltaFields, List.append_assoc] at same
  obtain ⟨kind, same⟩ := SelfDelimiting.enumeration.strip same
  obtain ⟨name, same⟩ := SelfDelimiting.string.strip same
  obtain ⟨plan, same⟩ := digest.strip same
  obtain ⟨evidence, same⟩ := digest.strip same
  obtain ⟨expected, same⟩ := digest.optional.strip same
  -- A proposed package enters the record as its identity alone.
  have shadow (proposed : Option (InstalledPackage sha256)) :
      optionalBytes (fun package : InstalledPackage sha256 =>
        CanonicalRecord.appendDigest package.identity) proposed =
      optionalBytes (fun identity : InstalledPackageIdentity =>
        CanonicalRecord.appendDigest identity) (proposed.map InstalledPackage.identity) := by
    cases proposed <;> rfl
  rw [shadow, shadow] at same
  obtain ⟨proposed, tails⟩ := digest.optional.strip same
  refine ⟨PackageStateDelta.ext_fields kind name expected ?_ plan evidence, tails⟩
  cases aProposes : a.proposedPackage with
  | none =>
      rw [aProposes, Option.map_none] at proposed
      exact (Option.map_eq_none_iff.mp proposed.symm).symm
  | some package =>
      rw [aProposes, Option.map_some] at proposed
      obtain ⟨other, bProposes, identity⟩ := Option.map_eq_some_iff.mp proposed.symm
      rw [bProposes, InstalledPackage.eq_of_identity_eq free (aHashed package aProposes)
        (bHashed other bProposes) identity.symm]

namespace StatePublicationRequest

/-- The record that `identify_request` hashes. -/
def record (request : StatePublicationRequest sha256) : Bytes :=
  publicationRequestRecord request.expectedSnapshot request.targetBinding request.deltas.toList
    request.transactionEvidence

/-- The records hashed while building a request and the values in it. -/
def records (request : StatePublicationRequest sha256) : List Bytes :=
  request.targetBinding.toTargetAuthorities.record :: request.record ::
    request.proposedPackages.flatMap InstalledPackage.records

theorem proposed_mem_records {request : StatePublicationRequest sha256}
    {delta : PackageStateDelta sha256} (member : delta ∈ request.deltas.toList)
    {package : InstalledPackage sha256} (proposes : delta.proposedPackage = some package) :
    package.records ⊆ request.records := by
  intro record hashed
  refine List.mem_cons_of_mem _ (List.mem_cons_of_mem _ ?_)
  exact List.mem_flatMap.mpr ⟨package, List.mem_filterMap.mpr ⟨delta, member, proposes⟩, hashed⟩

/-- Unless two of the hashed records collide, requests of one identity are equal. -/
theorem eq_of_identity_eq {a b : StatePublicationRequest sha256}
    (free : CollisionFree sha256 (a.records ++ b.records)) (same : a.identity = b.identity) :
    a = b := by
  have aHashed : a.records ⊆ a.records ++ b.records := List.subset_append_left _ _
  have bHashed : b.records ⊆ a.records ++ b.records := List.subset_append_right _ _
  rw [a.identity_eq, b.identity_eq] at same
  have records : a.record = b.record := free.record_eq
    (aHashed (List.mem_cons_of_mem _ List.mem_cons_self))
    (bHashed (List.mem_cons_of_mem _ List.mem_cons_self)) same
  simp only [record, publicationRequestRecord, List.append_assoc, List.append_cancel_left_eq]
    at records
  have digest := @CanonicalRecord.selfDelimiting_appendDigest
  obtain ⟨expected, rest⟩ := digest.strip records
  obtain ⟨target, rest⟩ := digest.strip rest
  obtain ⟨deltas, rest⟩ := SelfDelimiting.counted_of_strip a.deltas.size_lt b.deltas.size_lt
    (fun first aMember second bMember _ _ => deltaFields_strip free
      (fun package proposes record hashed =>
        aHashed (proposed_mem_records aMember proposes hashed))
      (fun package proposes record hashed =>
        bHashed (proposed_mem_records bMember proposes hashed))) rest
  have transaction := digest.optional.injective rest
  have targets := StateTargetBinding.eq_of_identity_eq free (aHashed List.mem_cons_self)
    (bHashed List.mem_cons_self) target
  exact ext_fields expected targets (SortedVector.toList_inj deltas) transaction

end StatePublicationRequest

/-! ## Receipts -/

namespace StatePublicationReceipt

/-- The record that `identify_receipt` hashes. -/
def record (receipt : StatePublicationReceipt sha256) : Bytes :=
  publicationReceiptRecord receipt.request receipt.expectedPriorSnapshot
    receipt.actualPriorSnapshot receipt.targetBinding receipt.storageFormat receipt.outcome
    receipt.durability receipt.atomicityBoundary receipt.resultingSnapshot
    receipt.subordinateEvidence.toList

/-- The records hashed while building a receipt and the target in it. -/
def records (receipt : StatePublicationReceipt sha256) : List Bytes :=
  [receipt.targetBinding.toTargetAuthorities.record, receipt.record]

/-- Unless two of the hashed records collide, receipts of one identity are equal. -/
theorem eq_of_identity_eq {a b : StatePublicationReceipt sha256}
    (free : CollisionFree sha256 (a.records ++ b.records)) (same : a.identity = b.identity) :
    a = b := by
  have aHashed : a.records ⊆ a.records ++ b.records := List.subset_append_left _ _
  have bHashed : b.records ⊆ a.records ++ b.records := List.subset_append_right _ _
  rw [a.identity_eq, b.identity_eq] at same
  have records : a.record = b.record := free.record_eq
    (aHashed (List.mem_cons_of_mem _ List.mem_cons_self))
    (bHashed (List.mem_cons_of_mem _ List.mem_cons_self)) same
  simp only [record, publicationReceiptRecord, List.append_assoc, List.append_cancel_left_eq]
    at records
  have digest := @CanonicalRecord.selfDelimiting_appendDigest
  obtain ⟨request, rest⟩ := digest.strip records
  obtain ⟨expected, rest⟩ := digest.strip rest
  obtain ⟨actual, rest⟩ := digest.strip rest
  obtain ⟨target, rest⟩ := digest.strip rest
  obtain ⟨format, rest⟩ := SelfDelimiting.string.strip rest
  obtain ⟨outcome, rest⟩ := SelfDelimiting.enumeration.strip rest
  obtain ⟨durability, rest⟩ := SelfDelimiting.enumeration.strip rest
  obtain ⟨boundary, rest⟩ := SelfDelimiting.enumeration.strip rest
  obtain ⟨resulting, rest⟩ := digest.optional.strip rest
  have evidence := (selfDelimiting_sorted digest).injective rest
  have targets := StateTargetBinding.eq_of_identity_eq free (aHashed List.mem_cons_self)
    (bHashed List.mem_cons_self) target
  exact ext_fields request expected actual targets format outcome durability boundary resulting
    evidence

end StatePublicationReceipt

/-! ## A removal and its receipt -/

namespace Fixture

/-- The removal of the package of the samples. -/
def removal : StatePublicationRequest Sha256.hash where
  expectedSnapshot := installed.identity
  targetBinding := binding
  deltas := ⟨.singleton (.removing package), List.pairwise_singleton _ _⟩
  transactionEvidence := some transaction
  identity := _
  nonempty := List.cons_ne_nil _ _
  composed several := absurd several.1 (by decide)
  evidence delta member := List.mem_singleton.mp member ▸ .removing _ package
  target delta member proposed proposes := by
    cases List.mem_singleton.mp member
    cases proposes
  identity_eq := rfl

theorem removal_made : removal.MadeAgainst installed where
  expectedSnapshot := rfl
  targetBinding := rfl
  admits _ member := List.mem_singleton.mp member ▸ .removing (List.mem_singleton_self _)

theorem removal_encoded : ∃ bytes, encodeStatePublicationRequest removal = .ok bytes := by
  let packages : StdVector (InstalledPackage Sha256.hash) := .singleton package
  have numbered : packages.toList = numberedPackages binding 1 := rfl
  obtain ⟨expected, request, bytes, made, built, _, encoded⟩ :=
    removals_encoded binding transaction numbered Nat.zero_lt_one (by decide)
  obtain ⟨target, present⟩ := Snapshot.make_ok made
  have state : expected = installed :=
    Snapshot.ext_packages target (List.perm_singleton.mp present)
  obtain ⟨against, arranged, evidence⟩ := StatePublicationRequest.make_ok built
  have same : request = removal := by
    refine StatePublicationRequest.ext_fields ?_ ?_ ?_ evidence
    · exact against.expectedSnapshot.trans (congrArg Snapshot.identity state)
    · exact against.targetBinding.trans (congrArg Snapshot.targetBinding state)
    · exact SortedVector.toList_inj (List.perm_singleton.mp arranged)
  exact ⟨bytes, same ▸ encoded⟩

/-- The receipt of the removal when the backend rejects it. -/
def rejection : StatePublicationReceipt Sha256.hash :=
  .assemble removal installed storageFormat (requireLineSafe_iff.mpr lineSafe_storageFormat)
    .requestRejected .notAttempted .none none noEvidence

theorem rejection_built : BuiltFrom removal installed rejection := by
  have current : Current removal installed := ⟨rfl, rfl⟩
  refine .requestRejected storageFormat noEvidence.toStdVector ?_
  rw [StatePublicationReceipt.requestRejected,
    StatePublicationReceipt.unpublished_of_current current]
  exact StatePublicationReceipt.make_of_sorted _ _ _ _ _ _

/-- The records hashed for both differ. -/
theorem collisionFree_rejection :
    CollisionFree Sha256.hash (removal.records ++ rejection.records) := by
  decide +kernel

end Fixture

/-! ## Accepted records -/

/-- The identities of requests and of receipts determine their durable bytes: unless
two of the hashed records collide, values of one identity are equal in every
field and encode alike, and two accepted records of one identity are the same
bytes. -/
theorem publicationIdentity_determinesRecord :
    (∀ a b : StatePublicationRequest sha256, CollisionFree sha256 (a.records ++ b.records) →
      a.identity = b.identity →
      a = b ∧
      (∀ aBytes bBytes, encodeStatePublicationRequest a = .ok aBytes →
        encodeStatePublicationRequest b = .ok bBytes → aBytes = bBytes) ∧
      ∀ aBytes bBytes aExpected bExpected,
        decodeStatePublicationRequest aBytes aExpected = .ok a →
        decodeStatePublicationRequest bBytes bExpected = .ok b → aBytes = bBytes) ∧
    ∀ a b : StatePublicationReceipt sha256, CollisionFree sha256 (a.records ++ b.records) →
      a.identity = b.identity →
      a = b ∧
      (∀ aBytes bBytes, encodeStatePublicationReceipt a = .ok aBytes →
        encodeStatePublicationReceipt b = .ok bBytes → aBytes = bBytes) ∧
      ∀ aBytes bBytes aRequest bRequest aPrior bPrior,
        decodeStatePublicationReceipt aBytes aRequest aPrior = .ok a →
        decodeStatePublicationReceipt bBytes bRequest bPrior = .ok b → aBytes = bBytes := by
  refine ⟨?_, ?_⟩
  · intro a b free same
    cases StatePublicationRequest.eq_of_identity_eq free same
    refine ⟨rfl, ?_, ?_⟩
    · intro aBytes bBytes aEncoded bEncoded
      exact Except.ok.inj (aEncoded.symm.trans bEncoded)
    · intro aBytes bBytes aExpected bExpected aDecoded bDecoded
      have aEncoded := (decodeStatePublicationRequest_ok aDecoded).2
      have bEncoded := (decodeStatePublicationRequest_ok bDecoded).2
      exact Except.ok.inj (aEncoded.symm.trans bEncoded)
  · intro a b free same
    cases StatePublicationReceipt.eq_of_identity_eq free same
    refine ⟨rfl, ?_, ?_⟩
    · intro aBytes bBytes aEncoded bEncoded
      exact Except.ok.inj (aEncoded.symm.trans bEncoded)
    · intro aBytes bBytes aRequest bRequest aPrior bPrior aDecoded bDecoded
      have aEncoded := (decodeStatePublicationReceipt_ok aDecoded).2
      have bEncoded := (decodeStatePublicationReceipt_ok bDecoded).2
      exact Except.ok.inj (aEncoded.symm.trans bEncoded)

theorem publicationIdentity_determinesRecord_removal :
    (∃ bytes,
      decodeStatePublicationRequest bytes Fixture.installed = .ok Fixture.removal ∧
      ∀ otherBytes other, decodeStatePublicationRequest otherBytes other = .ok Fixture.removal →
        otherBytes = bytes) ∧
    ∃ bytes,
      decodeStatePublicationReceipt bytes Fixture.removal Fixture.installed =
        .ok Fixture.rejection ∧
      ∀ otherBytes request actualPrior,
        decodeStatePublicationReceipt otherBytes request actualPrior = .ok Fixture.rejection →
        otherBytes = bytes := by
  obtain ⟨requests, receipts⟩ := @publicationIdentity_determinesRecord Sha256.hash
  have free := Fixture.collisionFree_rejection
  constructor
  · obtain ⟨bytes, encoded⟩ := Fixture.removal_encoded
    have decoded := decodeStatePublicationRequest_encode Fixture.removal_made (by decide) encoded
    have own : CollisionFree Sha256.hash (Fixture.removal.records ++ Fixture.removal.records) :=
      free.mono (by simp)
    refine ⟨bytes, decoded, fun otherBytes other again => ?_⟩
    exact (requests _ _ own rfl).2.2 otherBytes bytes other Fixture.installed again decoded
  · obtain ⟨bytes, encoded⟩ := encodeStatePublicationReceipt_ok Fixture.rejection (by decide)
    have decoded := decodeStatePublicationReceipt_encode Fixture.rejection_built encoded
    have own : CollisionFree Sha256.hash
        (Fixture.rejection.records ++ Fixture.rejection.records) :=
      free.mono (by simp)
    refine ⟨bytes, decoded, fun otherBytes request actualPrior again => ?_⟩
    exact (receipts _ _ own rfl).2.2 otherBytes bytes request Fixture.removal actualPrior
      Fixture.installed again decoded

end Pkgstate
