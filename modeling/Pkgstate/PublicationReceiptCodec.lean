import Pkgstate.PublicationCodec
import Pkgstate.PublicationReceipt

/-!
# The publication receipt codec

`encode_state_publication_receipt` and `decode_state_publication_receipt`. The
decoder is given the request and the actual prior state; it rebuilds the receipt
through the factory of the outcome it read, after checks of its own. Those
checks are what the factories promise (`Coherent`), so a factory's receipt
always rebuilds.
-/

namespace Pkgstate

open Wire Cpp Keyed

variable {sha256 : Sha256}

/-- `receipt_magic`. -/
def receiptMagic : Bytes := ascii "ZLSPRCPT"

/-- `state_publication_receipt_encoding_version`. -/
def statePublicationReceiptEncodingVersion : UInt16 := 1

/-- `maximum_state_publication_receipt_encoding_size`. -/
def maximumStatePublicationReceiptEncodingSize : Nat := 64 * 1024 * 1024

/-! ## Writing -/

/-- What `encode_state_publication_receipt` writes before the checksum. -/
def receiptBody (receipt : StatePublicationReceipt sha256) : Bytes :=
  receiptMagic ++ u16Bytes statePublicationReceiptEncodingVersion ++
    (storedDigest receipt.identity ++ (storedDigest receipt.request ++
      (storedDigest receipt.expectedPriorSnapshot ++
        (storedDigest receipt.actualPriorSnapshot ++
          (storedDigest receipt.targetBinding.identity ++
            (stringBytes receipt.storageFormat.bytes ++
              ([toByte receipt.outcome] ++ ([toByte receipt.durability] ++
                ([toByte receipt.atomicityBoundary] ++
                  (optionalBytes (fun resulting : InstalledStateSnapshotIdentity =>
                    storedDigest resulting) receipt.resultingSnapshot ++
                  countedBytes (fun evidence : StatePublicationEvidenceIdentity =>
                    storedDigest evidence) receipt.subordinateEvidence.toList))))))))))

/-- `encode_state_publication_receipt`. -/
def encodeStatePublicationReceipt (receipt : StatePublicationReceipt sha256) :
    Except Failure Bytes :=
  appendChecksum sha256 (receiptBody receipt) maximumStatePublicationReceiptEncodingSize

/-! ## Reading -/

/-- `require_projected`. -/
def requireProjected (request : StatePublicationRequest sha256) (actualPrior : Snapshot sha256)
    (resulting : Option InstalledStateSnapshotIdentity) : Except Failure (Snapshot sha256) := do
  let projected ← projectPublicationRequest request actualPrior
  if resulting ≠ some projected.identity then
    .error (codecError .invalidValue
      (ascii "publication receipt cites an impossible resulting snapshot"))
  else .ok projected

/-- The switch of the decoder on the outcome. -/
def rebuildReceipt (request : StatePublicationRequest sha256) (actualPrior : Snapshot sha256)
    (storageFormat : StdString) (outcome : StatePublicationOutcome)
    (durability : StatePublicationDurability) (atomicity : StateStorageAtomicityBoundary)
    (resulting : Option InstalledStateSnapshotIdentity)
    (evidence : StdVector StatePublicationEvidenceIdentity) :
    Except Failure (StatePublicationReceipt sha256) :=
  match outcome with
  | .published =>
      if durability ≠ .confirmed ∨ atomicity = .none then
        .error (codecError .invalidValue
          (ascii "published receipt has invalid durability or atomicity"))
      else do
        let projected ← requireProjected request actualPrior resulting
        StatePublicationReceipt.published request actualPrior projected storageFormat
          (toByte atomicity) evidence
  | .staleExpectedState =>
      if durability ≠ .notAttempted ∨ atomicity ≠ .none ∨ resulting.isSome then
        .error (codecError .invalidValue
          (ascii "stale receipt has invalid durability, atomicity, or result"))
      else StatePublicationReceipt.staleExpectedState request actualPrior storageFormat evidence
  | .requestRejected =>
      if durability ≠ .notAttempted ∨ atomicity ≠ .none ∨ resulting.isSome then
        .error (codecError .invalidValue
          (ascii "rejected receipt has invalid durability, atomicity, or result"))
      else StatePublicationReceipt.requestRejected request actualPrior storageFormat evidence
  | .failedBeforePublication =>
      if durability ≠ .notAttempted ∨ atomicity ≠ .none ∨ resulting.isSome then
        .error (codecError .invalidValue
          (ascii "failed receipt has invalid durability, atomicity, or result"))
      else
        StatePublicationReceipt.failedBeforePublication request actualPrior storageFormat evidence
  | .publishedDurabilityUnconfirmed =>
      if durability ≠ .unconfirmed ∨ atomicity = .none then
        .error (codecError .invalidValue
          (ascii "unconfirmed receipt has invalid durability or atomicity"))
      else do
        let projected ← requireProjected request actualPrior resulting
        StatePublicationReceipt.publishedButDurabilityUnconfirmed request actualPrior projected
          storageFormat (toByte atomicity) evidence
  | .indeterminate =>
      if durability ≠ .indeterminate ∨ atomicity = .none then
        .error (codecError .invalidValue
          (ascii "indeterminate receipt has invalid durability or atomicity"))
      else StatePublicationReceipt.indeterminate request actualPrior resulting storageFormat
        (toByte atomicity) evidence

/-- What a receipt record states behind its authorities. -/
structure ReceiptFields where
  identity : StatePublicationReceiptIdentity
  storageFormat : StdString
  outcome : StatePublicationOutcome
  durability : StatePublicationDurability
  atomicity : StateStorageAtomicityBoundary
  resulting : Option InstalledStateSnapshotIdentity
  evidence : StdVector StatePublicationEvidenceIdentity

open Publication

/-- The reads of `decode_state_publication_receipt`. -/
def decodeReceiptRecord (body : Bytes) (request : StatePublicationRequest sha256)
    (actualPrior : Snapshot sha256) : Decoder Failure ReceiptFields := do
  readPrefix "publication receipt" receiptMagic statePublicationReceiptEncodingVersion body
  let identity ← digest "publication receipt identity"
  let encodedRequest ← digest "publication request identity"
  let encodedExpected ← digest "expected prior snapshot identity"
  let encodedActual ← digest "actual prior snapshot identity"
  let encodedTarget ← digest "target binding identity"
  if encodedRequest ≠ request.identity ∨ encodedExpected ≠ request.expectedSnapshot then
    Reader.fail (codecError .requestMismatch
      (ascii "publication receipt belongs to another request"))
  else if encodedActual ≠ actualPrior.identity then
    Reader.fail (codecError .actualPriorMismatch
      (ascii "publication receipt belongs to another actual prior snapshot"))
  else if encodedTarget ≠ request.targetBinding.identity ∨
      actualPrior.targetBinding ≠ request.targetBinding then
    Reader.fail (codecError .actualPriorMismatch
      (ascii "publication receipt actual prior belongs to another target"))
  else do
    let storageFormat ← text "publication storage format"
    let outcome ← enumeration "publication outcome"
    let durability ← enumeration "publication durability"
    let atomicity ← enumeration "publication atomicity boundary"
    let resulting ← optional "resulting snapshot presence" (digest "resulting snapshot identity")
    let evidence ← counted "subordinate evidence count" (digest "subordinate evidence identity")
    Reader.finish publicationFailures
    pure { identity, storageFormat, outcome, durability, atomicity, resulting, evidence }

/-- `require_canonical_receipt`. -/
def requireCanonicalReceipt (encoded : Bytes) (receipt : StatePublicationReceipt sha256) :
    Except Failure Unit := do
  let canonical ← encodeStatePublicationReceipt receipt
  if canonical ≠ encoded then
    .error (codecError .invalidValue (ascii "publication receipt is not canonically encoded"))
  else .ok ()

/-- `decode_state_publication_receipt`. -/
def decodeStatePublicationReceipt (encoding : Bytes) (request : StatePublicationRequest sha256)
    (actualPrior : Snapshot sha256) : Except Failure (StatePublicationReceipt sha256) :=
  rethrowAsInvalidValue (ascii "invalid publication receipt encoding: ") do
    let body ← verifiedBody sha256 encoding maximumStatePublicationReceiptEncodingSize
    let (fields, _) ← decodeReceiptRecord body request actualPrior ⟨body, 0⟩
    let result ← rebuildReceipt request actualPrior fields.storageFormat fields.outcome
      fields.durability fields.atomicity fields.resulting fields.evidence
    if result.identity ≠ fields.identity then
      .error (codecError .identityMismatch
        (ascii "publication receipt identity does not match reconstructed evidence"))
    else do
      requireCanonicalReceipt encoding result
      pure result

/-! ## Reading back -/

section Rebuild

variable {request : StatePublicationRequest sha256} {actualPrior : Snapshot sha256}
  {receipt : StatePublicationReceipt sha256}

theorem requireProjected_of_projected {result : Snapshot sha256}
    (projected : projectPublicationRequest request actualPrior = .ok result) :
    requireProjected request actualPrior (some result.identity) = .ok result := by
  rw [requireProjected, projected]
  exact if_neg (not_not.mpr rfl)

/-- The decoder's switch comes down to `make` with the fields it read, when these
agree with the outcome. -/
theorem rebuildReceipt_eq_make {storageFormat : StdString} {outcome : StatePublicationOutcome}
    {durability : StatePublicationDurability} {atomicity : StateStorageAtomicityBoundary}
    {resulting : Option InstalledStateSnapshotIdentity}
    {evidence : StdVector StatePublicationEvidenceIdentity}
    (coherent : Coherent request actualPrior outcome durability atomicity resulting) :
    rebuildReceipt request actualPrior storageFormat outcome durability atomicity resulting
        evidence =
      StatePublicationReceipt.make request actualPrior storageFormat outcome durability
        (toByte atomicity) resulting evidence := by
  have bounded {boundary : StateStorageAtomicityBoundary} (declared : boundary ≠ .none) :
      toByte boundary ≠ toByte StateStorageAtomicityBoundary.none := fun same =>
    declared (ByteEnum.toByte_inj same)
  have quiet : ¬ (StatePublicationDurability.notAttempted ≠ .notAttempted ∨
      StateStorageAtomicityBoundary.none ≠ .none ∨
      (none : Option InstalledStateSnapshotIdentity).isSome = true) := by simp
  cases coherent with
  | published current declared projected =>
      simp only [rebuildReceipt]
      rw [if_neg (by simp [declared]), requireProjected_of_projected projected]
      exact StatePublicationReceipt.citing_of_current current (bounded declared) projected
  | staleExpectedState target different =>
      simp only [rebuildReceipt]
      rw [if_neg quiet]
      exact StatePublicationReceipt.staleExpectedState_of_stale target different
  | requestRejected current =>
      simp only [rebuildReceipt]
      rw [if_neg quiet]
      exact StatePublicationReceipt.unpublished_of_current current
  | failedBeforePublication current =>
      simp only [rebuildReceipt]
      rw [if_neg quiet]
      exact StatePublicationReceipt.unpublished_of_current current
  | publishedDurabilityUnconfirmed current declared projected =>
      simp only [rebuildReceipt]
      rw [if_neg (by simp [declared]), requireProjected_of_projected projected]
      exact StatePublicationReceipt.citing_of_current current (bounded declared) projected
  | indeterminate current declared possible =>
      simp only [rebuildReceipt]
      rw [if_neg (by simp [declared])]
      exact StatePublicationReceipt.indeterminate_of_current current (bounded declared) possible

/-- What the decoder's switch returns is what some factory returns. -/
theorem builtFrom_of_rebuildReceipt {storageFormat : StdString}
    {outcome : StatePublicationOutcome} {durability : StatePublicationDurability}
    {atomicity : StateStorageAtomicityBoundary}
    {resulting : Option InstalledStateSnapshotIdentity}
    {evidence : StdVector StatePublicationEvidenceIdentity}
    (rebuilt : rebuildReceipt request actualPrior storageFormat outcome durability atomicity
      resulting evidence = .ok receipt) : BuiltFrom request actualPrior receipt := by
  unfold rebuildReceipt at rebuilt
  cases outcome with
  | published =>
      obtain ⟨_, rebuilt⟩ := ite_error_eq_ok.mp rebuilt
      obtain ⟨projected, _, built⟩ := bind_eq_ok.mp rebuilt
      exact .published _ _ _ _ built
  | staleExpectedState =>
      obtain ⟨_, rebuilt⟩ := ite_error_eq_ok.mp rebuilt
      exact .staleExpectedState _ _ rebuilt
  | requestRejected =>
      obtain ⟨_, rebuilt⟩ := ite_error_eq_ok.mp rebuilt
      exact .requestRejected _ _ rebuilt
  | failedBeforePublication =>
      obtain ⟨_, rebuilt⟩ := ite_error_eq_ok.mp rebuilt
      exact .failedBeforePublication _ _ rebuilt
  | publishedDurabilityUnconfirmed =>
      obtain ⟨_, rebuilt⟩ := ite_error_eq_ok.mp rebuilt
      obtain ⟨projected, _, built⟩ := bind_eq_ok.mp rebuilt
      exact .publishedButDurabilityUnconfirmed _ _ _ _ built
  | indeterminate =>
      obtain ⟨_, rebuilt⟩ := ite_error_eq_ok.mp rebuilt
      exact .indeterminate _ _ _ _ rebuilt

theorem length_evidence (evidence : SubordinateEvidence) :
    (evidence.toList.flatMap fun value : StatePublicationEvidenceIdentity =>
      storedDigest value).length = 82 * evidence.toList.length := by
  rw [List.length_flatMap]
  simp only [length_storedDigest, List.map_const', List.sum_replicate_nat]
  omega

/-- The byte ceiling of a receipt leaves no room for more evidence than the
reader admits. -/
theorem length_evidence_le
    (within : (receiptBody receipt).length ≤
      maximumStatePublicationReceiptEncodingSize - checksumSize) :
    receipt.subordinateEvidence.toList.length ≤ maximumCollectionCount := by
  simp only [receiptBody, countedBytes, List.length_append, length_evidence,
    maximumStatePublicationReceiptEncodingSize, checksumSize] at within
  rw [maximumCollectionCount]
  omega

/-- Apart from its format and its evidence, a receipt takes a few hundred bytes. -/
theorem length_receiptBody_le (receipt : StatePublicationReceipt sha256) :
    (receiptBody receipt).length ≤ 522 + receipt.storageFormat.bytes.length +
      82 * receipt.subordinateEvidence.toList.length := by
  have magic : receiptMagic.length = 8 := rfl
  have resulting : (optionalBytes (fun value : InstalledStateSnapshotIdentity =>
      storedDigest value) receipt.resultingSnapshot).length ≤ 83 := by
    cases receipt.resultingSnapshot with
    | none => decide
    | some value =>
        simp only [optionalBytes, boolBytes, Option.elim_some, List.length_append,
          List.length_singleton, length_storedDigest, Nat.le_refl]
  simp only [receiptBody, countedBytes, stringBytes, List.length_append, List.length_singleton,
    length_u16Bytes, length_u64Bytes, length_storedDigest, length_evidence, magic]
  omega

/-- A receipt of moderate size is never refused by the encoder. -/
theorem encodeStatePublicationReceipt_ok (receipt : StatePublicationReceipt sha256)
    (moderate : 522 + receipt.storageFormat.bytes.length +
        82 * receipt.subordinateEvidence.toList.length ≤
      maximumStatePublicationReceiptEncodingSize - checksumSize) :
    ∃ bytes, encodeStatePublicationReceipt receipt = .ok bytes :=
  ⟨_, appendChecksum_eq_ok.mpr ⟨(length_receiptBody_le receipt).trans moderate, rfl⟩⟩

/-- A receipt's body is read back against the request and the prior state that
the receipt cites. -/
theorem completes_receiptRecord (cites : receipt.Cites request actualPrior)
    (target : actualPrior.targetBinding = request.targetBinding)
    (few : receipt.subordinateEvidence.toList.length ≤ maximumCollectionCount) :
    Completes (decodeReceiptRecord (receiptBody receipt) request actualPrior)
      (receiptBody receipt)
      { identity := receipt.identity
        storageFormat := receipt.storageFormat
        outcome := receipt.outcome
        durability := receipt.durability
        atomicity := receipt.atomicityBoundary
        resulting := receipt.resultingSnapshot
        evidence := receipt.subordinateEvidence.toStdVector } := by
  have requested : ¬ (receipt.request ≠ request.identity ∨
      receipt.expectedPriorSnapshot ≠ request.expectedSnapshot) := by
    rw [cites.cited, cites.expected]
    simp
  have located : ¬ receipt.actualPriorSnapshot ≠ actualPrior.identity := not_not.mpr cites.actual
  have targeted : ¬ (receipt.targetBinding.identity ≠ request.targetBinding.identity ∨
      actualPrior.targetBinding ≠ request.targetBinding) := by
    rw [cites.target]
    simp [target]
  have nonempty : ∀ evidence ∈ receipt.subordinateEvidence.toList, storedDigest evidence ≠ [] :=
    fun evidence _ => stringBytes_ne_nil _
  apply (decodes_front _ _ (hasPrefix_append _ _ _)).completes_bind
  apply (decodes_digest _ receipt.identity).completes_bind
  apply (decodes_digest _ receipt.request).completes_bind
  apply (decodes_digest _ receipt.expectedPriorSnapshot).completes_bind
  apply (decodes_digest _ receipt.actualPriorSnapshot).completes_bind
  apply (decodes_digest _ receipt.targetBinding.identity).completes_bind
  rw [if_neg requested, if_neg located, if_neg targeted, ← List.append_nil (countedBytes _ _)]
  apply (decodes_text _ receipt.storageFormat).completes_bind
  apply (decodes_enumeration _ receipt.outcome).completes_bind
  apply (decodes_enumeration _ receipt.durability).completes_bind
  apply (decodes_enumeration _ receipt.atomicityBoundary).completes_bind
  refine (decodes_optional publicationFailures _ receipt.resultingSnapshot
    fun resulting _ => decodes_digest _ resulting).completes_bind ?_
  refine (decodes_counted publicationFailures _ receipt.subordinateEvidence.toStdVector few
    nonempty fun evidence _ => decodes_digest _ evidence).completes_bind ?_
  exact completes_finish publicationFailures _

end Rebuild

/-! ## Exactness -/

section Exactness

variable {request : StatePublicationRequest sha256} {actualPrior : Snapshot sha256}
  {receipt : StatePublicationReceipt sha256} {bytes : Bytes}

theorem requireCanonicalReceipt_eq_ok :
    requireCanonicalReceipt bytes receipt = .ok () ↔
      encodeStatePublicationReceipt receipt = .ok bytes := by
  rw [requireCanonicalReceipt, bind_eq_ok]
  constructor
  · rintro ⟨encoded, written, passed⟩
    exact not_not.mp (check_eq_ok.mp passed) ▸ written
  · intro written
    exact ⟨bytes, written, check_eq_ok.mpr (not_not.mpr rfl)⟩

/-- What an accepted record decodes to is a receipt of some factory, and encodes
to that record. -/
theorem decodeStatePublicationReceipt_ok
    (decoded : decodeStatePublicationReceipt bytes request actualPrior = .ok receipt) :
    BuiltFrom request actualPrior receipt ∧ encodeStatePublicationReceipt receipt = .ok bytes := by
  rcases bind_eq_ok.mp (rethrowAsInvalidValue_eq_ok.mp decoded) with ⟨body, _, rest⟩
  rcases bind_eq_ok.mp rest with ⟨⟨fields, _⟩, _, rest⟩
  rcases bind_eq_ok.mp rest with ⟨result, rebuilt, rest⟩
  obtain ⟨_, rest⟩ := ite_error_eq_ok.mp rest
  rcases bind_eq_ok.mp rest with ⟨_, canonical, returned⟩
  cases returned
  exact ⟨builtFrom_of_rebuildReceipt rebuilt, requireCanonicalReceipt_eq_ok.mp canonical⟩

/-- The prior state of a coherent receipt has the request's target. -/
theorem Coherent.target {outcome : StatePublicationOutcome}
    {durability : StatePublicationDurability} {boundary : StateStorageAtomicityBoundary}
    {resulting : Option InstalledStateSnapshotIdentity}
    (coherent : Coherent request actualPrior outcome durability boundary resulting) :
    actualPrior.targetBinding = request.targetBinding := by
  cases coherent with
  | published current _ _ => exact current.target
  | staleExpectedState target _ => exact target
  | requestRejected current => exact current.target
  | failedBeforePublication current => exact current.target
  | publishedDurabilityUnconfirmed current _ _ => exact current.target
  | indeterminate current _ _ => exact current.target

/-- A receipt cites no result but the projection. -/
theorem Coherent.resulting {outcome : StatePublicationOutcome}
    {durability : StatePublicationDurability} {boundary : StateStorageAtomicityBoundary}
    {identity : InstalledStateSnapshotIdentity}
    (coherent : Coherent request actualPrior outcome durability boundary (some identity)) :
    ∃ result, projectPublicationRequest request actualPrior = .ok result ∧
      identity = result.identity := by
  cases coherent with
  | published _ _ projected => exact ⟨_, projected, rfl⟩
  | publishedDurabilityUnconfirmed _ _ projected => exact ⟨_, projected, rfl⟩
  | indeterminate _ _ possible => exact possible identity rfl

/-- An encoded receipt decodes against the request and the prior state of its
factory. -/
theorem decodeStatePublicationReceipt_encode (built : BuiltFrom request actualPrior receipt)
    (encoded : encodeStatePublicationReceipt receipt = .ok bytes) :
    decodeStatePublicationReceipt bytes request actualPrior = .ok receipt := by
  obtain ⟨cites, coherent⟩ := StatePublicationReceipt.coherent_of_builtFrom built
  have verified := verifiedBody_of_appendChecksum (by decide) encoded
  have few := length_evidence_le (appendChecksum_eq_ok.mp encoded).1
  have read := (completes_receiptRecord cites coherent.target few).run
  have rebuilt := (rebuildReceipt_eq_make coherent).trans
    (StatePublicationReceipt.make_self cites)
  refine rethrowAsInvalidValue_eq_ok.mpr (bind_eq_ok.mpr ⟨_, verified, ?_⟩)
  refine bind_eq_ok.mpr ⟨_, read, ?_⟩
  refine bind_eq_ok.mpr ⟨receipt, rebuilt, ?_⟩
  rw [if_neg (not_not.mpr rfl)]
  exact bind_eq_ok.mpr ⟨(), requireCanonicalReceipt_eq_ok.mpr encoded, rfl⟩

end Exactness

/-- The receipt codec is exact relative to its authorities. A factory's receipt
decodes back to itself; a record decodes only to a receipt that some factory
builds from the given request and prior state and that encodes to it; and a
decoded result is the identity of the projection. -/
theorem statePublicationReceipt_exact (request : StatePublicationRequest sha256)
    (actualPrior : Snapshot sha256) :
    (∀ (receipt : StatePublicationReceipt sha256) (bytes : Bytes),
      BuiltFrom request actualPrior receipt →
      encodeStatePublicationReceipt receipt = .ok bytes →
      decodeStatePublicationReceipt bytes request actualPrior = .ok receipt) ∧
    (∀ (bytes : Bytes) (receipt : StatePublicationReceipt sha256),
      decodeStatePublicationReceipt bytes request actualPrior = .ok receipt →
      BuiltFrom request actualPrior receipt ∧
      encodeStatePublicationReceipt receipt = .ok bytes) ∧
    ∀ (bytes : Bytes) (receipt : StatePublicationReceipt sha256)
      (identity : InstalledStateSnapshotIdentity),
      decodeStatePublicationReceipt bytes request actualPrior = .ok receipt →
      receipt.resultingSnapshot = some identity →
      ∃ result, projectPublicationRequest request actualPrior = .ok result ∧
        identity = result.identity := by
  refine ⟨?_, ?_, ?_⟩
  · intro receipt bytes built encoded
    exact decodeStatePublicationReceipt_encode built encoded
  · intro bytes receipt decoded
    exact decodeStatePublicationReceipt_ok decoded
  · intro bytes receipt identity decoded cited
    have built := (decodeStatePublicationReceipt_ok decoded).1
    have coherent := (StatePublicationReceipt.coherent_of_builtFrom built).2
    rw [cited] at coherent
    exact coherent.resulting

theorem statePublicationReceipt_exact_published :
    ∃ (request : StatePublicationRequest Sha256.hash)
      (receipt : StatePublicationReceipt Sha256.hash) (bytes : Bytes),
      receipt.outcome = .published ∧ encodeStatePublicationReceipt receipt = .ok bytes ∧
      decodeStatePublicationReceipt bytes request (Snapshot.empty Fixture.binding) =
        .ok receipt := by
  obtain ⟨request, made, _, distinct⟩ :=
    StatePublicationRequest.make_installing Fixture.package
  have against := (StatePublicationRequest.make_ok made).1
  obtain ⟨result, projected, _⟩ := project_madeAgainst against distinct
  have current : Current request (Snapshot.empty Fixture.binding) :=
    ⟨against.targetBinding.symm, against.expectedSnapshot.symm⟩
  have formatted : validateReceiptStorageFormat Fixture.storageFormat.bytes = .ok () :=
    requireLineSafe_iff.mpr Fixture.lineSafe_storageFormat
  obtain ⟨receipt, built, outcome, format, evidence⟩ : ∃ receipt,
      StatePublicationReceipt.published request (Snapshot.empty Fixture.binding) result
        Fixture.storageFormat
        (toByte StateStorageAtomicityBoundary.immutableGenerationSelection)
        noEvidence.toStdVector = .ok receipt ∧ receipt.outcome = .published ∧
        receipt.storageFormat = Fixture.storageFormat ∧
        receipt.subordinateEvidence = noEvidence :=
    ⟨_, (StatePublicationReceipt.citing_of_current current (by decide) projected).trans
      (StatePublicationReceipt.make_of_sorted formatted _ _ _ _ _), rfl, rfl, rfl⟩
  obtain ⟨bytes, encoded⟩ := encodeStatePublicationReceipt_ok receipt
    (by rw [format, evidence]; decide)
  exact ⟨request, receipt, bytes, outcome, encoded,
    (statePublicationReceipt_exact request _).1 receipt bytes
      (.published result Fixture.storageFormat _ _ built) encoded⟩

end Pkgstate
