import Pkgstate.PublicationProjection

/-!
# Publication receipts

`state_publication_receipt` and its six factories. A factory checks the prior
state against the request, re-derives the result by projection where it cites
one, and hands over to the private `make`. `BuiltFrom` lists what the factories
return, each with the checks that let it; `Coherent` is what a receipt's
outcome says about its other fields.
-/

namespace Pkgstate

open Wire Cpp Keyed

variable {sha256 : Sha256}

/-- `state_publication_receipt_schema_version`. -/
def statePublicationReceiptSchemaVersion : UInt16 := 1

/-! ## Enumerations -/

/-- `state_publication_outcome`. -/
inductive StatePublicationOutcome
  | published
  | staleExpectedState
  | requestRejected
  | failedBeforePublication
  | publishedDurabilityUnconfirmed
  | indeterminate
deriving DecidableEq

instance : ByteEnum StatePublicationOutcome where
  toByte
    | .published => 1
    | .staleExpectedState => 2
    | .requestRejected => 3
    | .failedBeforePublication => 4
    | .publishedDurabilityUnconfirmed => 5
    | .indeterminate => 6
  ofByte
    | 1 => some .published
    | 2 => some .staleExpectedState
    | 3 => some .requestRejected
    | 4 => some .failedBeforePublication
    | 5 => some .publishedDurabilityUnconfirmed
    | 6 => some .indeterminate
    | _ => none
  ofByte_toByte value := by cases value <;> rfl
  toByte_ofByte read := by split at read <;> cases read <;> rfl

/-- `state_publication_durability`. -/
inductive StatePublicationDurability
  | notAttempted
  | confirmed
  | unconfirmed
  | indeterminate
deriving DecidableEq

instance : ByteEnum StatePublicationDurability where
  toByte
    | .notAttempted => 1
    | .confirmed => 2
    | .unconfirmed => 3
    | .indeterminate => 4
  ofByte
    | 1 => some .notAttempted
    | 2 => some .confirmed
    | 3 => some .unconfirmed
    | 4 => some .indeterminate
    | _ => none
  ofByte_toByte value := by cases value <;> rfl
  toByte_ofByte read := by split at read <;> cases read <;> rfl

/-- `state_storage_atomicity_boundary`. A caller may pass any byte cast to it. -/
inductive StateStorageAtomicityBoundary
  | none
  | completeStateObjectReplace
  | immutableGenerationSelection
deriving DecidableEq

instance : ByteEnum StateStorageAtomicityBoundary where
  toByte
    | .none => 1
    | .completeStateObjectReplace => 2
    | .immutableGenerationSelection => 3
  ofByte
    | 1 => some .none
    | 2 => some .completeStateObjectReplace
    | 3 => some .immutableGenerationSelection
    | _ => Option.none
  ofByte_toByte value := by cases value <;> rfl
  toByte_ofByte read := by split at read <;> cases read <;> rfl

/-! ## Checks -/

/-- `validate_storage_format` of `publication_receipt.cpp`. -/
def validateReceiptStorageFormat (storageFormat : Bytes) : Except Failure Unit :=
  requireLineSafe storageFormat "publication receipt storage format must not be empty"
    "publication receipt storage format must be line-safe"

/-- `validate_target`. -/
def validateTarget (request : StatePublicationRequest sha256) (actualPrior : Snapshot sha256) :
    Except Failure Unit :=
  if actualPrior.targetBinding ≠ request.targetBinding then
    .error (.stateError
      (ascii "publication receipt actual prior belongs to another target"))
  else .ok ()

/-- `require_current`. -/
def requireCurrent (request : StatePublicationRequest sha256) (actualPrior : Snapshot sha256) :
    Except Failure Unit := do
  validateTarget request actualPrior
  if actualPrior.identity ≠ request.expectedSnapshot then
    .error (.stateError (ascii "publication receipt requires the expected prior snapshot"))
  else .ok ()

/-- `require_stale`. -/
def requireStale (request : StatePublicationRequest sha256) (actualPrior : Snapshot sha256) :
    Except Failure Unit := do
  validateTarget request actualPrior
  if actualPrior.identity = request.expectedSnapshot then
    .error (.stateError
      (ascii "stale-state receipt requires a different actual prior snapshot"))
  else .ok ()

/-- `require_publication_boundary`. -/
def requirePublicationBoundary (atomicity : UInt8) : Except Failure Unit :=
  if atomicity = toByte StateStorageAtomicityBoundary.none then
    .error (.stateError
      (ascii "publication receipt requires a state-storage atomicity boundary"))
  else .ok ()

/-- `validate_result`. -/
def validateResult (request : StatePublicationRequest sha256) (actualPrior : Snapshot sha256)
    (resultingSnapshot : Snapshot sha256) : Except Failure InstalledStateSnapshotIdentity :=
  if resultingSnapshot.targetBinding ≠ request.targetBinding then
    .error (.stateError (ascii "publication receipt result belongs to another target"))
  else do
    let expectedResult ← projectPublicationRequest request actualPrior
    if resultingSnapshot.identity ≠ expectedResult.identity then
      .error (.stateError (ascii "publication receipt result does not match request deltas"))
    else .ok resultingSnapshot.identity

/-- `canonical_atomicity`, up to the byte it writes. -/
def canonicalAtomicity (atomicity : UInt8) : Except Failure StateStorageAtomicityBoundary :=
  ByteEnum.declared (.stateError (ascii "invalid state-storage atomicity boundary")) atomicity

/-! ## Receipts -/

/-- The canonical record of `identify_receipt`. -/
def publicationReceiptRecord (request : StatePublicationRequestIdentity)
    (expectedPriorSnapshot actualPriorSnapshot : InstalledStateSnapshotIdentity)
    (targetBinding : StateTargetBinding sha256) (storageFormat : StdString)
    (outcome : StatePublicationOutcome) (durability : StatePublicationDurability)
    (atomicityBoundary : StateStorageAtomicityBoundary)
    (resultingSnapshot : Option InstalledStateSnapshotIdentity)
    (subordinateEvidence : List StatePublicationEvidenceIdentity) : Bytes :=
  CanonicalRecord.header .statePublicationReceipt ++
    u16Bytes statePublicationReceiptSchemaVersion ++
    CanonicalRecord.appendDigest request ++
    CanonicalRecord.appendDigest expectedPriorSnapshot ++
    CanonicalRecord.appendDigest actualPriorSnapshot ++
    CanonicalRecord.appendDigest targetBinding.identity ++
    stringBytes storageFormat.bytes ++
    [toByte outcome] ++ [toByte durability] ++ [toByte atomicityBoundary] ++
    optionalBytes (fun result : InstalledStateSnapshotIdentity =>
      CanonicalRecord.appendDigest result) resultingSnapshot ++
    countedBytes (fun evidence : StatePublicationEvidenceIdentity =>
      CanonicalRecord.appendDigest evidence) subordinateEvidence

/-- A vector of evidence identities in strict order. -/
abbrev SubordinateEvidence :=
  SortedVector (id : StatePublicationEvidenceIdentity → StatePublicationEvidenceIdentity)

/-- The empty evidence of a receipt that no backend attempt stands behind. -/
def noEvidence : SubordinateEvidence where
  toList := []
  size_lt := by decide
  sorted := List.Pairwise.nil

/-- Sort evidence and refuse a repeated identity, as the two functions
`normalize_evidence` do, each under its own message. -/
def sortEvidence (duplicate : String) (evidence : StdVector StatePublicationEvidenceIdentity) :
    Except Failure SubordinateEvidence :=
  sortDistinct (refines_less_key id) (fun _ => Failure.stateError (ascii duplicate)) evidence
    fun sorted _ => .ok sorted

theorem sortEvidence_ok {duplicate : String} {evidence : StdVector StatePublicationEvidenceIdentity}
    {sorted : SubordinateEvidence} (arranged : sortEvidence duplicate evidence = .ok sorted) :
    sorted.toList.Perm evidence.toList := by
  obtain ⟨_, perm, same⟩ := sortDistinct_ok arranged
  cases same
  exact perm

@[simp]
theorem sortEvidence_sorted (duplicate : String) (evidence : SubordinateEvidence) :
    sortEvidence duplicate evidence.toStdVector = .ok evidence :=
  sortDistinct_sorted _ _

/-- `state_publication_receipt`. -/
structure StatePublicationReceipt (sha256 : Sha256) where
  request : StatePublicationRequestIdentity
  expectedPriorSnapshot : InstalledStateSnapshotIdentity
  actualPriorSnapshot : InstalledStateSnapshotIdentity
  targetBinding : StateTargetBinding sha256
  storageFormat : StdString
  outcome : StatePublicationOutcome
  durability : StatePublicationDurability
  atomicityBoundary : StateStorageAtomicityBoundary
  resultingSnapshot : Option InstalledStateSnapshotIdentity
  subordinateEvidence : SubordinateEvidence
  identity : StatePublicationReceiptIdentity
  formatted : validateReceiptStorageFormat storageFormat.bytes = .ok ()
  identity_eq : identity = identifyRecord sha256 (publicationReceiptRecord request
    expectedPriorSnapshot actualPriorSnapshot targetBinding storageFormat outcome durability
    atomicityBoundary resultingSnapshot subordinateEvidence.toList)
deriving DecidableEq

namespace StatePublicationReceipt

/-- `normalize_evidence` of `publication_receipt.cpp`. -/
def normalizeEvidence (subordinateEvidence : StdVector StatePublicationEvidenceIdentity) :
    Except Failure SubordinateEvidence :=
  sortEvidence "publication receipt contains duplicate subordinate evidence" subordinateEvidence

/-- The private `make`, once its format, evidence and boundary are accepted. -/
def assemble (request : StatePublicationRequest sha256) (actualPrior : Snapshot sha256)
    (storageFormat : StdString)
    (formatted : validateReceiptStorageFormat storageFormat.bytes = .ok ())
    (outcome : StatePublicationOutcome) (durability : StatePublicationDurability)
    (atomicityBoundary : StateStorageAtomicityBoundary)
    (resultingSnapshot : Option InstalledStateSnapshotIdentity)
    (subordinateEvidence : SubordinateEvidence) : StatePublicationReceipt sha256 :=
  { request := request.identity
    expectedPriorSnapshot := request.expectedSnapshot
    actualPriorSnapshot := actualPrior.identity
    targetBinding := request.targetBinding
    storageFormat, outcome, durability, atomicityBoundary, resultingSnapshot,
    subordinateEvidence
    identity := _
    formatted
    identity_eq := rfl }

/-- The private `state_publication_receipt::make`. -/
def make (request : StatePublicationRequest sha256) (actualPrior : Snapshot sha256)
    (storageFormat : StdString) (outcome : StatePublicationOutcome)
    (durability : StatePublicationDurability) (atomicity : UInt8)
    (resultingSnapshot : Option InstalledStateSnapshotIdentity)
    (subordinateEvidence : StdVector StatePublicationEvidenceIdentity) :
    Except Failure (StatePublicationReceipt sha256) :=
  match formatted : validateReceiptStorageFormat storageFormat.bytes with
  | .error failure => .error failure
  | .ok () => do
      let subordinateEvidence ← normalizeEvidence subordinateEvidence
      let atomicityBoundary ← canonicalAtomicity atomicity
      pure (assemble request actualPrior storageFormat formatted outcome durability
        atomicityBoundary resultingSnapshot subordinateEvidence)

/-- The factories whose receipt cites the result: `published` and
`published_but_durability_unconfirmed`. -/
def citing (outcome : StatePublicationOutcome) (durability : StatePublicationDurability)
    (request : StatePublicationRequest sha256) (actualPrior : Snapshot sha256)
    (resultingSnapshot : Snapshot sha256) (storageFormat : StdString) (atomicity : UInt8)
    (subordinateEvidence : StdVector StatePublicationEvidenceIdentity) :
    Except Failure (StatePublicationReceipt sha256) := do
  requireCurrent request actualPrior
  requirePublicationBoundary atomicity
  let resulting ← validateResult request actualPrior resultingSnapshot
  make request actualPrior storageFormat outcome durability atomicity (some resulting)
    subordinateEvidence

/-- The factories whose receipt says that nothing was published: `request_rejected`
and `failed_before_publication`. -/
def unpublished (outcome : StatePublicationOutcome) (request : StatePublicationRequest sha256)
    (actualPrior : Snapshot sha256) (storageFormat : StdString)
    (subordinateEvidence : StdVector StatePublicationEvidenceIdentity) :
    Except Failure (StatePublicationReceipt sha256) := do
  requireCurrent request actualPrior
  make request actualPrior storageFormat outcome .notAttempted
    (toByte StateStorageAtomicityBoundary.none) none subordinateEvidence

/-- `state_publication_receipt::published`. -/
def published (request : StatePublicationRequest sha256) (actualPrior : Snapshot sha256)
    (resultingSnapshot : Snapshot sha256) (storageFormat : StdString) (atomicity : UInt8)
    (subordinateEvidence : StdVector StatePublicationEvidenceIdentity) :
    Except Failure (StatePublicationReceipt sha256) :=
  citing .published .confirmed request actualPrior resultingSnapshot storageFormat atomicity
    subordinateEvidence

/-- `state_publication_receipt::stale_expected_state`. -/
def staleExpectedState (request : StatePublicationRequest sha256) (actualPrior : Snapshot sha256)
    (storageFormat : StdString)
    (subordinateEvidence : StdVector StatePublicationEvidenceIdentity) :
    Except Failure (StatePublicationReceipt sha256) := do
  requireStale request actualPrior
  make request actualPrior storageFormat .staleExpectedState .notAttempted
    (toByte StateStorageAtomicityBoundary.none) none subordinateEvidence

/-- `state_publication_receipt::request_rejected`. -/
def requestRejected (request : StatePublicationRequest sha256) (actualPrior : Snapshot sha256)
    (storageFormat : StdString)
    (subordinateEvidence : StdVector StatePublicationEvidenceIdentity) :
    Except Failure (StatePublicationReceipt sha256) :=
  unpublished .requestRejected request actualPrior storageFormat subordinateEvidence

/-- `state_publication_receipt::failed_before_publication`. -/
def failedBeforePublication (request : StatePublicationRequest sha256)
    (actualPrior : Snapshot sha256) (storageFormat : StdString)
    (subordinateEvidence : StdVector StatePublicationEvidenceIdentity) :
    Except Failure (StatePublicationReceipt sha256) :=
  unpublished .failedBeforePublication request actualPrior storageFormat subordinateEvidence

/-- `state_publication_receipt::published_but_durability_unconfirmed`. -/
def publishedButDurabilityUnconfirmed (request : StatePublicationRequest sha256)
    (actualPrior : Snapshot sha256) (resultingSnapshot : Snapshot sha256)
    (storageFormat : StdString) (atomicity : UInt8)
    (subordinateEvidence : StdVector StatePublicationEvidenceIdentity) :
    Except Failure (StatePublicationReceipt sha256) :=
  citing .publishedDurabilityUnconfirmed .unconfirmed request actualPrior resultingSnapshot
    storageFormat atomicity subordinateEvidence

/-- The check of `indeterminate` on the snapshot it cites. -/
def requirePossible (request : StatePublicationRequest sha256) (actualPrior : Snapshot sha256) :
    Option InstalledStateSnapshotIdentity → Except Failure Unit
  | none => .ok ()
  | some resulting => do
      let expectedResult ← projectPublicationRequest request actualPrior
      if resulting ≠ expectedResult.identity then
        .error (.stateError
          (ascii "indeterminate receipt cites an impossible resulting snapshot"))
      else .ok ()

/-- `state_publication_receipt::indeterminate`. -/
def indeterminate (request : StatePublicationRequest sha256) (actualPrior : Snapshot sha256)
    (resultingSnapshot : Option InstalledStateSnapshotIdentity) (storageFormat : StdString)
    (atomicity : UInt8) (subordinateEvidence : StdVector StatePublicationEvidenceIdentity) :
    Except Failure (StatePublicationReceipt sha256) := do
  requireCurrent request actualPrior
  requirePublicationBoundary atomicity
  requirePossible request actualPrior resultingSnapshot
  make request actualPrior storageFormat .indeterminate .indeterminate atomicity
    resultingSnapshot subordinateEvidence

end StatePublicationReceipt

/-! ## What the factories return -/

/-- The actual prior state is the one the request expects. -/
structure Current (request : StatePublicationRequest sha256) (actualPrior : Snapshot sha256) :
    Prop where
  target : actualPrior.targetBinding = request.targetBinding
  identity : actualPrior.identity = request.expectedSnapshot

theorem validateTarget_iff {request : StatePublicationRequest sha256}
    {actualPrior : Snapshot sha256} :
    validateTarget request actualPrior = .ok () ↔
      actualPrior.targetBinding = request.targetBinding :=
  check_eq_ok.trans not_not

theorem requireCurrent_iff {request : StatePublicationRequest sha256}
    {actualPrior : Snapshot sha256} :
    requireCurrent request actualPrior = .ok () ↔ Current request actualPrior := by
  rw [requireCurrent, bind_eq_ok]
  constructor
  · rintro ⟨_, target, passed⟩
    exact ⟨validateTarget_iff.mp target, not_not.mp (check_eq_ok.mp passed)⟩
  · rintro ⟨target, same⟩
    exact ⟨(), validateTarget_iff.mpr target, check_eq_ok.mpr (not_not.mpr same)⟩

theorem requireStale_iff {request : StatePublicationRequest sha256}
    {actualPrior : Snapshot sha256} :
    requireStale request actualPrior = .ok () ↔
      actualPrior.targetBinding = request.targetBinding ∧
        actualPrior.identity ≠ request.expectedSnapshot := by
  rw [requireStale, bind_eq_ok]
  constructor
  · rintro ⟨_, target, passed⟩
    exact ⟨validateTarget_iff.mp target, check_eq_ok.mp passed⟩
  · rintro ⟨target, different⟩
    exact ⟨(), validateTarget_iff.mpr target, check_eq_ok.mpr different⟩

theorem requirePublicationBoundary_iff {atomicity : UInt8} :
    requirePublicationBoundary atomicity = .ok () ↔
      atomicity ≠ toByte StateStorageAtomicityBoundary.none :=
  check_eq_ok

theorem validateResult_ok {request : StatePublicationRequest sha256}
    {actualPrior resultingSnapshot : Snapshot sha256}
    {resulting : InstalledStateSnapshotIdentity}
    (passed : validateResult request actualPrior resultingSnapshot = .ok resulting) :
    ∃ result, projectPublicationRequest request actualPrior = .ok result ∧
      resulting = result.identity := by
  obtain ⟨_, passed⟩ := ite_error_eq_ok.mp passed
  obtain ⟨result, projected, passed⟩ := bind_eq_ok.mp passed
  obtain ⟨same, ended⟩ := ite_error_eq_ok.mp passed
  cases ended
  exact ⟨result, projected, not_not.mp same⟩

/-- The projected snapshot is a result of its own request. -/
theorem validateResult_projected {request : StatePublicationRequest sha256}
    {actualPrior result : Snapshot sha256}
    (projected : projectPublicationRequest request actualPrior = .ok result) :
    validateResult request actualPrior result = .ok result.identity := by
  have target : result.targetBinding = request.targetBinding := by
    obtain ⟨_, projected⟩ := ite_error_eq_ok.mp projected
    obtain ⟨_, projected⟩ := ite_error_eq_ok.mp projected
    obtain ⟨_, _, built⟩ := bind_eq_ok.mp projected
    exact (Snapshot.make_ok built).1
  rw [validateResult, if_neg (not_not.mpr target), projected]
  exact if_neg (not_not.mpr rfl)

theorem requirePossible_iff {request : StatePublicationRequest sha256}
    {actualPrior : Snapshot sha256} {resulting : Option InstalledStateSnapshotIdentity} :
    StatePublicationReceipt.requirePossible request actualPrior resulting = .ok () ↔
      ∀ identity, resulting = some identity →
        ∃ result, projectPublicationRequest request actualPrior = .ok result ∧
          identity = result.identity := by
  cases resulting with
  | none => simp [StatePublicationReceipt.requirePossible]
  | some identity =>
      rw [StatePublicationReceipt.requirePossible, bind_eq_ok]
      constructor
      · rintro ⟨result, projected, passed⟩ _ ⟨⟩
        exact ⟨result, projected, not_not.mp (check_eq_ok.mp passed)⟩
      · intro possible
        obtain ⟨result, projected, same⟩ := possible identity rfl
        exact ⟨result, projected, check_eq_ok.mpr (not_not.mpr same)⟩

/-- What a receipt's outcome says about its prior state, durability, boundary
and result. -/
inductive Coherent (request : StatePublicationRequest sha256) (actualPrior : Snapshot sha256) :
    StatePublicationOutcome → StatePublicationDurability → StateStorageAtomicityBoundary →
      Option InstalledStateSnapshotIdentity → Prop
  | published {boundary : StateStorageAtomicityBoundary} {result : Snapshot sha256} :
    Current request actualPrior → boundary ≠ .none →
    projectPublicationRequest request actualPrior = .ok result →
    Coherent request actualPrior .published .confirmed boundary (some result.identity)
  | staleExpectedState :
    actualPrior.targetBinding = request.targetBinding →
    actualPrior.identity ≠ request.expectedSnapshot →
    Coherent request actualPrior .staleExpectedState .notAttempted .none none
  | requestRejected : Current request actualPrior →
    Coherent request actualPrior .requestRejected .notAttempted .none none
  | failedBeforePublication : Current request actualPrior →
    Coherent request actualPrior .failedBeforePublication .notAttempted .none none
  | publishedDurabilityUnconfirmed {boundary : StateStorageAtomicityBoundary}
    {result : Snapshot sha256} :
    Current request actualPrior → boundary ≠ .none →
    projectPublicationRequest request actualPrior = .ok result →
    Coherent request actualPrior .publishedDurabilityUnconfirmed .unconfirmed boundary
      (some result.identity)
  | indeterminate {boundary : StateStorageAtomicityBoundary}
    {resulting : Option InstalledStateSnapshotIdentity} :
    Current request actualPrior → boundary ≠ .none →
    (∀ identity, resulting = some identity →
      ∃ result, projectPublicationRequest request actualPrior = .ok result ∧
        identity = result.identity) →
    Coherent request actualPrior .indeterminate .indeterminate boundary resulting

/-- A receipt that one of the six factories returns for this request and prior
state. -/
inductive BuiltFrom (request : StatePublicationRequest sha256) (actualPrior : Snapshot sha256)
    (receipt : StatePublicationReceipt sha256) : Prop
  | published (resultingSnapshot : Snapshot sha256) (storageFormat : StdString)
    (atomicity : UInt8) (subordinateEvidence : StdVector StatePublicationEvidenceIdentity) :
    StatePublicationReceipt.published request actualPrior resultingSnapshot storageFormat
      atomicity subordinateEvidence = .ok receipt → BuiltFrom request actualPrior receipt
  | staleExpectedState (storageFormat : StdString)
    (subordinateEvidence : StdVector StatePublicationEvidenceIdentity) :
    StatePublicationReceipt.staleExpectedState request actualPrior storageFormat
      subordinateEvidence = .ok receipt → BuiltFrom request actualPrior receipt
  | requestRejected (storageFormat : StdString)
    (subordinateEvidence : StdVector StatePublicationEvidenceIdentity) :
    StatePublicationReceipt.requestRejected request actualPrior storageFormat
      subordinateEvidence = .ok receipt → BuiltFrom request actualPrior receipt
  | failedBeforePublication (storageFormat : StdString)
    (subordinateEvidence : StdVector StatePublicationEvidenceIdentity) :
    StatePublicationReceipt.failedBeforePublication request actualPrior storageFormat
      subordinateEvidence = .ok receipt → BuiltFrom request actualPrior receipt
  | publishedButDurabilityUnconfirmed (resultingSnapshot : Snapshot sha256)
    (storageFormat : StdString) (atomicity : UInt8)
    (subordinateEvidence : StdVector StatePublicationEvidenceIdentity) :
    StatePublicationReceipt.publishedButDurabilityUnconfirmed request actualPrior
      resultingSnapshot storageFormat atomicity subordinateEvidence = .ok receipt →
    BuiltFrom request actualPrior receipt
  | indeterminate (resultingSnapshot : Option InstalledStateSnapshotIdentity)
    (storageFormat : StdString) (atomicity : UInt8)
    (subordinateEvidence : StdVector StatePublicationEvidenceIdentity) :
    StatePublicationReceipt.indeterminate request actualPrior resultingSnapshot storageFormat
      atomicity subordinateEvidence = .ok receipt → BuiltFrom request actualPrior receipt

namespace StatePublicationReceipt

variable {request : StatePublicationRequest sha256} {actualPrior : Snapshot sha256}
  {receipt : StatePublicationReceipt sha256}

theorem ext_fields {a b : StatePublicationReceipt sha256} (request : a.request = b.request)
    (expectedPriorSnapshot : a.expectedPriorSnapshot = b.expectedPriorSnapshot)
    (actualPriorSnapshot : a.actualPriorSnapshot = b.actualPriorSnapshot)
    (targetBinding : a.targetBinding = b.targetBinding)
    (storageFormat : a.storageFormat = b.storageFormat) (outcome : a.outcome = b.outcome)
    (durability : a.durability = b.durability)
    (atomicityBoundary : a.atomicityBoundary = b.atomicityBoundary)
    (resultingSnapshot : a.resultingSnapshot = b.resultingSnapshot)
    (subordinateEvidence : a.subordinateEvidence = b.subordinateEvidence) : a = b := by
  rcases a with ⟨_, _, _, _, _, _, _, _, _, _, _, _, aEq⟩
  rcases b with ⟨_, _, _, _, _, _, _, _, _, _, _, _, bEq⟩
  cases request
  cases expectedPriorSnapshot
  cases actualPriorSnapshot
  cases targetBinding
  cases storageFormat
  cases outcome
  cases durability
  cases atomicityBoundary
  cases resultingSnapshot
  cases subordinateEvidence
  cases aEq
  cases bEq
  rfl

/-- The fields that `make` copies from its request and prior state. -/
structure Cites (receipt : StatePublicationReceipt sha256)
    (request : StatePublicationRequest sha256) (actualPrior : Snapshot sha256) : Prop where
  cited : receipt.request = request.identity
  expected : receipt.expectedPriorSnapshot = request.expectedSnapshot
  actual : receipt.actualPriorSnapshot = actualPrior.identity
  target : receipt.targetBinding = request.targetBinding

theorem make_ok {storageFormat : StdString} {outcome : StatePublicationOutcome}
    {durability : StatePublicationDurability} {atomicity : UInt8}
    {resultingSnapshot : Option InstalledStateSnapshotIdentity}
    {subordinateEvidence : StdVector StatePublicationEvidenceIdentity}
    (built : make request actualPrior storageFormat outcome durability atomicity
      resultingSnapshot subordinateEvidence = .ok receipt) :
    receipt.Cites request actualPrior ∧ receipt.storageFormat = storageFormat ∧
      receipt.outcome = outcome ∧ receipt.durability = durability ∧
      atomicity = toByte receipt.atomicityBoundary ∧
      receipt.resultingSnapshot = resultingSnapshot ∧
      receipt.subordinateEvidence.toList.Perm subordinateEvidence.toList := by
  unfold make at built
  split at built
  · cases built
  · rcases bind_eq_ok.mp built with ⟨sorted, arranged, built⟩
    rcases bind_eq_ok.mp built with ⟨boundary, declared, built⟩
    cases built
    exact ⟨⟨rfl, rfl, rfl, rfl⟩, rfl, rfl, rfl, ByteEnum.declared_eq_ok.mp declared, rfl,
      sortEvidence_ok arranged⟩

/-- A line-safe format, sorted evidence and a declared boundary make a receipt. -/
theorem make_of_sorted {storageFormat : StdString}
    (formatted : validateReceiptStorageFormat storageFormat.bytes = .ok ())
    (outcome : StatePublicationOutcome) (durability : StatePublicationDurability)
    (boundary : StateStorageAtomicityBoundary)
    (resultingSnapshot : Option InstalledStateSnapshotIdentity)
    (evidence : SubordinateEvidence) :
    make request actualPrior storageFormat outcome durability (toByte boundary) resultingSnapshot
        evidence.toStdVector =
      .ok (assemble request actualPrior storageFormat formatted outcome durability boundary
        resultingSnapshot evidence) := by
  unfold make
  split
  · next failed =>
      rw [formatted] at failed
      cases failed
  · rw [normalizeEvidence, sortEvidence_sorted, canonicalAtomicity, ByteEnum.declared_toByte]
    rfl

/-- A receipt is rebuilt by `make` from its own fields. -/
theorem make_self (cites : receipt.Cites request actualPrior) :
    make request actualPrior receipt.storageFormat receipt.outcome receipt.durability
      (toByte receipt.atomicityBoundary) receipt.resultingSnapshot
      receipt.subordinateEvidence.toStdVector = .ok receipt := by
  rw [make_of_sorted receipt.formatted]
  exact congrArg Except.ok (ext_fields cites.cited.symm cites.expected.symm cites.actual.symm
    cites.target.symm rfl rfl rfl rfl rfl rfl)

/-! ## The factories -/

theorem citing_ok {outcome : StatePublicationOutcome} {durability : StatePublicationDurability}
    {resultingSnapshot : Snapshot sha256} {storageFormat : StdString} {atomicity : UInt8}
    {evidence : StdVector StatePublicationEvidenceIdentity}
    (built : citing outcome durability request actualPrior resultingSnapshot storageFormat
      atomicity evidence = .ok receipt) :
    Current request actualPrior ∧ atomicity ≠ toByte StateStorageAtomicityBoundary.none ∧
      ∃ result, projectPublicationRequest request actualPrior = .ok result ∧
        make request actualPrior storageFormat outcome durability atomicity
          (some result.identity) evidence = .ok receipt := by
  rcases bind_eq_ok.mp built with ⟨_, current, built⟩
  rcases bind_eq_ok.mp built with ⟨_, boundary, built⟩
  rcases bind_eq_ok.mp built with ⟨resulting, validated, built⟩
  obtain ⟨result, projected, rfl⟩ := validateResult_ok validated
  exact ⟨requireCurrent_iff.mp current, requirePublicationBoundary_iff.mp boundary, result,
    projected, built⟩

theorem citing_of_current {outcome : StatePublicationOutcome}
    {durability : StatePublicationDurability} {resultingSnapshot : Snapshot sha256}
    {storageFormat : StdString} {atomicity : UInt8}
    {evidence : StdVector StatePublicationEvidenceIdentity}
    (current : Current request actualPrior)
    (boundary : atomicity ≠ toByte StateStorageAtomicityBoundary.none)
    (projected : projectPublicationRequest request actualPrior = .ok resultingSnapshot) :
    citing outcome durability request actualPrior resultingSnapshot storageFormat atomicity
        evidence =
      make request actualPrior storageFormat outcome durability atomicity
        (some resultingSnapshot.identity) evidence := by
  rw [citing, requireCurrent_iff.mpr current, requirePublicationBoundary_iff.mpr boundary,
    validateResult_projected projected]
  rfl

theorem staleExpectedState_ok {storageFormat : StdString}
    {evidence : StdVector StatePublicationEvidenceIdentity}
    (built : staleExpectedState request actualPrior storageFormat evidence = .ok receipt) :
    (actualPrior.targetBinding = request.targetBinding ∧
        actualPrior.identity ≠ request.expectedSnapshot) ∧
      make request actualPrior storageFormat .staleExpectedState .notAttempted
        (toByte StateStorageAtomicityBoundary.none) none evidence = .ok receipt := by
  rcases bind_eq_ok.mp built with ⟨_, stale, built⟩
  exact ⟨requireStale_iff.mp stale, built⟩

theorem staleExpectedState_of_stale {storageFormat : StdString}
    {evidence : StdVector StatePublicationEvidenceIdentity}
    (target : actualPrior.targetBinding = request.targetBinding)
    (different : actualPrior.identity ≠ request.expectedSnapshot) :
    staleExpectedState request actualPrior storageFormat evidence =
      make request actualPrior storageFormat .staleExpectedState .notAttempted
        (toByte StateStorageAtomicityBoundary.none) none evidence := by
  rw [staleExpectedState, requireStale_iff.mpr ⟨target, different⟩]
  rfl

theorem unpublished_ok {outcome : StatePublicationOutcome} {storageFormat : StdString}
    {evidence : StdVector StatePublicationEvidenceIdentity}
    (built : unpublished outcome request actualPrior storageFormat evidence = .ok receipt) :
    Current request actualPrior ∧
      make request actualPrior storageFormat outcome .notAttempted
        (toByte StateStorageAtomicityBoundary.none) none evidence = .ok receipt := by
  rcases bind_eq_ok.mp built with ⟨_, current, built⟩
  exact ⟨requireCurrent_iff.mp current, built⟩

theorem unpublished_of_current {outcome : StatePublicationOutcome} {storageFormat : StdString}
    {evidence : StdVector StatePublicationEvidenceIdentity}
    (current : Current request actualPrior) :
    unpublished outcome request actualPrior storageFormat evidence =
      make request actualPrior storageFormat outcome .notAttempted
        (toByte StateStorageAtomicityBoundary.none) none evidence := by
  rw [unpublished, requireCurrent_iff.mpr current]
  rfl

theorem indeterminate_ok {resulting : Option InstalledStateSnapshotIdentity}
    {storageFormat : StdString} {atomicity : UInt8}
    {evidence : StdVector StatePublicationEvidenceIdentity}
    (built : indeterminate request actualPrior resulting storageFormat atomicity evidence =
      .ok receipt) :
    Current request actualPrior ∧ atomicity ≠ toByte StateStorageAtomicityBoundary.none ∧
      (∀ identity, resulting = some identity →
        ∃ result, projectPublicationRequest request actualPrior = .ok result ∧
          identity = result.identity) ∧
      make request actualPrior storageFormat .indeterminate .indeterminate atomicity resulting
        evidence = .ok receipt := by
  rcases bind_eq_ok.mp built with ⟨_, current, built⟩
  rcases bind_eq_ok.mp built with ⟨_, boundary, built⟩
  rcases bind_eq_ok.mp built with ⟨_, possible, built⟩
  exact ⟨requireCurrent_iff.mp current, requirePublicationBoundary_iff.mp boundary,
    requirePossible_iff.mp possible, built⟩

theorem indeterminate_of_current {resulting : Option InstalledStateSnapshotIdentity}
    {storageFormat : StdString} {atomicity : UInt8}
    {evidence : StdVector StatePublicationEvidenceIdentity}
    (current : Current request actualPrior)
    (boundary : atomicity ≠ toByte StateStorageAtomicityBoundary.none)
    (possible : ∀ identity, resulting = some identity →
      ∃ result, projectPublicationRequest request actualPrior = .ok result ∧
        identity = result.identity) :
    indeterminate request actualPrior resulting storageFormat atomicity evidence =
      make request actualPrior storageFormat .indeterminate .indeterminate atomicity resulting
        evidence := by
  rw [indeterminate, requireCurrent_iff.mpr current, requirePublicationBoundary_iff.mpr boundary,
    requirePossible_iff.mpr possible]
  rfl

/-- Every receipt of a factory cites its request and prior state, and its fields
agree with its outcome. -/
theorem coherent_of_builtFrom (built : BuiltFrom request actualPrior receipt) :
    receipt.Cites request actualPrior ∧ Coherent request actualPrior receipt.outcome
      receipt.durability receipt.atomicityBoundary receipt.resultingSnapshot := by
  cases built with
  | published resultingSnapshot storageFormat atomicity evidence built =>
      obtain ⟨current, boundary, result, projected, built⟩ := citing_ok built
      obtain ⟨cites, _, outcome, durability, rfl, cited, _⟩ := make_ok built
      rw [outcome, durability, cited]
      exact ⟨cites, .published current (fun same => boundary (congrArg toByte same)) projected⟩
  | staleExpectedState storageFormat evidence built =>
      obtain ⟨⟨target, different⟩, built⟩ := staleExpectedState_ok built
      obtain ⟨cites, _, outcome, durability, boundary, cited, _⟩ := make_ok built
      rw [outcome, durability, cited, ← ByteEnum.toByte_inj boundary]
      exact ⟨cites, .staleExpectedState target different⟩
  | requestRejected storageFormat evidence built =>
      obtain ⟨current, built⟩ := unpublished_ok built
      obtain ⟨cites, _, outcome, durability, boundary, cited, _⟩ := make_ok built
      rw [outcome, durability, cited, ← ByteEnum.toByte_inj boundary]
      exact ⟨cites, .requestRejected current⟩
  | failedBeforePublication storageFormat evidence built =>
      obtain ⟨current, built⟩ := unpublished_ok built
      obtain ⟨cites, _, outcome, durability, boundary, cited, _⟩ := make_ok built
      rw [outcome, durability, cited, ← ByteEnum.toByte_inj boundary]
      exact ⟨cites, .failedBeforePublication current⟩
  | publishedButDurabilityUnconfirmed resultingSnapshot storageFormat atomicity evidence built =>
      obtain ⟨current, boundary, result, projected, built⟩ := citing_ok built
      obtain ⟨cites, _, outcome, durability, rfl, cited, _⟩ := make_ok built
      rw [outcome, durability, cited]
      exact ⟨cites, .publishedDurabilityUnconfirmed current
        (fun same => boundary (congrArg toByte same)) projected⟩
  | indeterminate resultingSnapshot storageFormat atomicity evidence built =>
      obtain ⟨current, boundary, possible, built⟩ := indeterminate_ok built
      obtain ⟨cites, _, outcome, durability, rfl, cited, _⟩ := make_ok built
      rw [outcome, durability, cited]
      exact ⟨cites, .indeterminate current (fun same => boundary (congrArg toByte same)) possible⟩

end StatePublicationReceipt

end Pkgstate
