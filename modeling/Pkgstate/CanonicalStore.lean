import Pkgstate.PublicationReceipt

/-!
# The canonical store

`canonical_store::compare_and_publish` over any backend. A call records every
snapshot that it hands to `publish`, so that what it publishes is part of its
result. `compareUnderLock` is the call up to `publish` and `receiptOf` the
switch behind it: `receiptOf_reports` says that no check of that switch fails
once the checks of the first half have passed.
-/

namespace Pkgstate

open Wire Cpp Keyed

variable {sha256 : Sha256}

/-! ## Backend results -/

/-- `validate_storage_format` of `canonical_store.cpp`. -/
def validateStorageFormat (storageFormat : Bytes) : Except Failure Unit :=
  requireLineSafe storageFormat "canonical store storage format must not be empty"
    "canonical store storage format must be line-safe"

/-- `require_boundary`. -/
def requireBoundary (atomicity : UInt8) : Except Failure Unit :=
  if atomicity = toByte StateStorageAtomicityBoundary.none then
    .error (.stateError (ascii "backend publication result requires an atomicity boundary"))
  else .ok ()

/-- What the five factories establish about the fields of a backend result. -/
def BackendShape (outcome : StatePublicationOutcome) (atomicityBoundary : UInt8)
    (resultingSnapshotEstablished : Bool) : Prop :=
  match outcome with
  | .published | .publishedDurabilityUnconfirmed =>
      requireBoundary atomicityBoundary = .ok () ∧ resultingSnapshotEstablished = true
  | .requestRejected | .failedBeforePublication =>
      atomicityBoundary = toByte StateStorageAtomicityBoundary.none ∧
        resultingSnapshotEstablished = false
  | .indeterminate => requireBoundary atomicityBoundary = .ok ()
  | .staleExpectedState => False

/-- `state_publication_backend_result`. The boundary is the byte behind the
enumeration, which a backend may have cast from anything. -/
structure StatePublicationBackendResult where
  outcome : StatePublicationOutcome
  atomicityBoundary : UInt8
  resultingSnapshotEstablished : Bool
  subordinateEvidence : SubordinateEvidence
  shape : BackendShape outcome atomicityBoundary resultingSnapshotEstablished

namespace StatePublicationBackendResult

/-- `normalize_evidence` of `canonical_store.cpp`. -/
def normalizeEvidence (evidence : StdVector StatePublicationEvidenceIdentity) :
    Except Failure SubordinateEvidence :=
  sortEvidence "backend publication result contains duplicate evidence" evidence

/-- The private constructor. -/
def construct (outcome : StatePublicationOutcome) (atomicityBoundary : UInt8)
    (resultingSnapshotEstablished : Bool)
    (shape : BackendShape outcome atomicityBoundary resultingSnapshotEstablished)
    (evidence : StdVector StatePublicationEvidenceIdentity) :
    Except Failure StatePublicationBackendResult := do
  let subordinateEvidence ← normalizeEvidence evidence
  pure { outcome, atomicityBoundary, resultingSnapshotEstablished, subordinateEvidence, shape }

/-- `state_publication_backend_result::published`. -/
def published (atomicity : UInt8) (evidence : StdVector StatePublicationEvidenceIdentity) :
    Except Failure StatePublicationBackendResult :=
  match bounded : requireBoundary atomicity with
  | .error failure => .error failure
  | .ok () => construct .published atomicity true ⟨bounded, rfl⟩ evidence

/-- `state_publication_backend_result::request_rejected`. -/
def requestRejected (evidence : StdVector StatePublicationEvidenceIdentity) :
    Except Failure StatePublicationBackendResult :=
  construct .requestRejected (toByte StateStorageAtomicityBoundary.none) false ⟨rfl, rfl⟩ evidence

/-- `state_publication_backend_result::failed_before_publication`. -/
def failedBeforePublication (evidence : StdVector StatePublicationEvidenceIdentity) :
    Except Failure StatePublicationBackendResult :=
  construct .failedBeforePublication (toByte StateStorageAtomicityBoundary.none) false
    ⟨rfl, rfl⟩ evidence

/-- `state_publication_backend_result::published_but_durability_unconfirmed`. -/
def publishedButDurabilityUnconfirmed (atomicity : UInt8)
    (evidence : StdVector StatePublicationEvidenceIdentity) :
    Except Failure StatePublicationBackendResult :=
  match bounded : requireBoundary atomicity with
  | .error failure => .error failure
  | .ok () => construct .publishedDurabilityUnconfirmed atomicity true ⟨bounded, rfl⟩ evidence

/-- `state_publication_backend_result::indeterminate`. -/
def indeterminate (atomicity : UInt8) (resultingSnapshotEstablished : Bool)
    (evidence : StdVector StatePublicationEvidenceIdentity) :
    Except Failure StatePublicationBackendResult :=
  match bounded : requireBoundary atomicity with
  | .error failure => .error failure
  | .ok () => construct .indeterminate atomicity resultingSnapshotEstablished bounded evidence

theorem construct_self (result : StatePublicationBackendResult) :
    construct result.outcome result.atomicityBoundary result.resultingSnapshotEstablished
      result.shape result.subordinateEvidence.toStdVector = .ok result := by
  rw [construct, normalizeEvidence, sortEvidence_sorted]
  rfl

/-- Every result is what one of the five factories returns. -/
theorem factory (result : StatePublicationBackendResult) :
    published result.atomicityBoundary result.subordinateEvidence.toStdVector = .ok result ∨
      requestRejected result.subordinateEvidence.toStdVector = .ok result ∨
      failedBeforePublication result.subordinateEvidence.toStdVector = .ok result ∨
      publishedButDurabilityUnconfirmed result.atomicityBoundary
        result.subordinateEvidence.toStdVector = .ok result ∨
      indeterminate result.atomicityBoundary result.resultingSnapshotEstablished
        result.subordinateEvidence.toStdVector = .ok result := by
  have rebuilt := construct_self result
  rcases result with ⟨outcome, boundary, established, evidence, shape⟩
  cases outcome with
  | published =>
      obtain ⟨bounded, rfl⟩ := id shape
      left
      unfold published
      split
      · next failed =>
          rw [bounded] at failed
          cases failed
      · exact rebuilt
  | staleExpectedState => exact shape.elim
  | requestRejected =>
      obtain ⟨rfl, rfl⟩ := id shape
      exact Or.inr (Or.inl rebuilt)
  | failedBeforePublication =>
      obtain ⟨rfl, rfl⟩ := id shape
      exact Or.inr (Or.inr (Or.inl rebuilt))
  | publishedDurabilityUnconfirmed =>
      obtain ⟨bounded, rfl⟩ := id shape
      right; right; right; left
      unfold publishedButDurabilityUnconfirmed
      split
      · next failed =>
          rw [bounded] at failed
          cases failed
      · exact rebuilt
  | indeterminate =>
      right; right; right; right
      unfold indeterminate
      split
      · next failed =>
          rw [show requireBoundary boundary = .ok () from shape] at failed
          cases failed
      · exact rebuilt

/-- The selection of a generation, without evidence. -/
def generationSelected : StatePublicationBackendResult where
  outcome := .published
  atomicityBoundary := toByte StateStorageAtomicityBoundary.immutableGenerationSelection
  resultingSnapshotEstablished := true
  subordinateEvidence := noEvidence
  shape := ⟨rfl, rfl⟩

end StatePublicationBackendResult

/-! ## Publication -/

/-- `canonical_publication_transaction`: what one backend transaction shows and
does. -/
structure CanonicalPublicationTransaction (sha256 : Sha256) where
  current : Snapshot sha256
  storageFormat : StdString
  publish : Snapshot sha256 → Except Failure StatePublicationBackendResult

/-- `canonical_store`: what `begin_publication` does when it is called. -/
structure CanonicalStore (sha256 : Sha256) where
  beginPublication : Except Failure (Option (CanonicalPublicationTransaction sha256))

/-- A call that may fail, with the snapshots it has handed to `publish`. -/
abbrev StoreCall (sha256 : Sha256) := ExceptT Failure (StateM (List (Snapshot sha256)))

/-- The call `transaction->publish(resulting_snapshot)`. -/
def CanonicalPublicationTransaction.invokePublish
    (transaction : CanonicalPublicationTransaction sha256) (resultingSnapshot : Snapshot sha256) :
    StoreCall sha256 StatePublicationBackendResult := do
  modify fun handed => handed ++ [resultingSnapshot]
  let result ← transaction.publish resultingSnapshot
  pure result

/-- `compare_and_publish` between `current()` and `publish`: a stale receipt, or
the snapshot to publish. -/
def compareUnderLock (request : StatePublicationRequest sha256) (actualPrior : Snapshot sha256)
    (storageFormat : StdString) :
    Except Failure (StatePublicationReceipt sha256 ⊕ Snapshot sha256) := do
  validateStorageFormat storageFormat.bytes
  if actualPrior.targetBinding ≠ request.targetBinding then
    .error (.storeError (ascii "canonical store returned state for another target"))
  else if actualPrior.identity ≠ request.expectedSnapshot then do
    let receipt ← StatePublicationReceipt.staleExpectedState request actualPrior storageFormat
      noEvidence.toStdVector
    pure (.inl receipt)
  else do
    let resultingSnapshot ← projectPublicationRequest request actualPrior
    pure (.inr resultingSnapshot)

/-- The switch of `compare_and_publish` on the backend result. -/
def receiptOf (request : StatePublicationRequest sha256) (storageFormat : StdString)
    (actualPrior resultingSnapshot : Snapshot sha256) (result : StatePublicationBackendResult) :
    Except Failure (StatePublicationReceipt sha256) :=
  match result.outcome with
  | .published =>
      StatePublicationReceipt.published request actualPrior resultingSnapshot storageFormat
        result.atomicityBoundary result.subordinateEvidence.toStdVector
  | .requestRejected =>
      StatePublicationReceipt.requestRejected request actualPrior storageFormat
        result.subordinateEvidence.toStdVector
  | .failedBeforePublication =>
      StatePublicationReceipt.failedBeforePublication request actualPrior storageFormat
        result.subordinateEvidence.toStdVector
  | .publishedDurabilityUnconfirmed =>
      StatePublicationReceipt.publishedButDurabilityUnconfirmed request actualPrior
        resultingSnapshot storageFormat result.atomicityBoundary
        result.subordinateEvidence.toStdVector
  | .indeterminate =>
      StatePublicationReceipt.indeterminate request actualPrior
        (if result.resultingSnapshotEstablished then some resultingSnapshot.identity else none)
        storageFormat result.atomicityBoundary result.subordinateEvidence.toStdVector
  | .staleExpectedState =>
      .error (.stateError (ascii "backend returned an invalid publication result"))

/-- `compare_and_publish` once it has its transaction. -/
def publishUnderLock (transaction : CanonicalPublicationTransaction sha256)
    (request : StatePublicationRequest sha256) :
    StoreCall sha256 (StatePublicationReceipt sha256) := do
  match ← compareUnderLock request transaction.current transaction.storageFormat with
  | .inl receipt => pure receipt
  | .inr resultingSnapshot =>
      let result ← transaction.invokePublish resultingSnapshot
      receiptOf request transaction.storageFormat transaction.current resultingSnapshot result

/-- `canonical_store::compare_and_publish`. -/
def compareAndPublish (store : CanonicalStore sha256) (request : StatePublicationRequest sha256) :
    StoreCall sha256 (StatePublicationReceipt sha256) := do
  match ← store.beginPublication with
  | none => throw (.storeError (ascii "canonical store returned no publication transaction"))
  | some transaction => publishUnderLock transaction request

/-- What a call returns or throws. -/
def CanonicalStore.outcome (store : CanonicalStore sha256)
    (request : StatePublicationRequest sha256) :
    Except Failure (StatePublicationReceipt sha256) :=
  ((compareAndPublish store request).run.run []).1

/-- The arguments of the calls of `publish` that a call makes. -/
def CanonicalStore.handed (store : CanonicalStore sha256)
    (request : StatePublicationRequest sha256) : List (Snapshot sha256) :=
  ((compareAndPublish store request).run.run []).2

/-! ## Before `publish` -/

/-- The state that a call compares is the expected one, in a format that can be
named in a receipt. -/
structure Publishable (request : StatePublicationRequest sha256) (actualPrior : Snapshot sha256)
    (storageFormat : StdString) : Prop where
  formatted : LineSafe storageFormat.bytes
  current : Current request actualPrior

/-- A request can be published onto the snapshot it was made against. -/
theorem StatePublicationRequest.MadeAgainst.publishable {request : StatePublicationRequest sha256}
    {expected : Snapshot sha256} {storageFormat : StdString} (made : request.MadeAgainst expected)
    (formatted : LineSafe storageFormat.bytes) : Publishable request expected storageFormat where
  formatted
  current := ⟨made.targetBinding.symm, made.expectedSnapshot.symm⟩

section Compare

variable {request : StatePublicationRequest sha256} {actualPrior resultingSnapshot : Snapshot sha256}
  {storageFormat : StdString}

/-- A call goes on to `publish` exactly with the projection of its request onto
the expected state. -/
theorem compareUnderLock_eq_inr :
    compareUnderLock request actualPrior storageFormat = .ok (.inr resultingSnapshot) ↔
      Publishable request actualPrior storageFormat ∧
        projectPublicationRequest request actualPrior = .ok resultingSnapshot := by
  constructor
  · intro passed
    rcases bind_eq_ok.mp passed with ⟨_, formatted, passed⟩
    split at passed
    · cases passed
    · next target =>
        split at passed
        · rcases bind_eq_ok.mp passed with ⟨receipt, _, ended⟩
          cases ended
        · next same =>
            rcases bind_eq_ok.mp passed with ⟨result, projected, ended⟩
            cases ended
            exact ⟨⟨requireLineSafe_iff.mp formatted, not_not.mp target, not_not.mp same⟩,
              projected⟩
  · intro ⟨publishable, projected⟩
    refine bind_eq_ok.mpr ⟨(), requireLineSafe_iff.mpr publishable.formatted, ?_⟩
    rw [if_neg (not_not.mpr publishable.current.target),
      if_neg (not_not.mpr publishable.current.identity), projected]
    rfl

/-- A call that ends before `publish` ends with a stale receipt. -/
theorem compareUnderLock_eq_inl {receipt : StatePublicationReceipt sha256}
    (ended : compareUnderLock request actualPrior storageFormat = .ok (.inl receipt)) :
    actualPrior.identity ≠ request.expectedSnapshot ∧
      StatePublicationReceipt.staleExpectedState request actualPrior storageFormat
        noEvidence.toStdVector = .ok receipt := by
  rcases bind_eq_ok.mp ended with ⟨_, _, ended⟩
  split at ended
  · cases ended
  · split at ended
    · next different =>
        rcases bind_eq_ok.mp ended with ⟨stale, built, same⟩
        cases same
        exact ⟨different, built⟩
    · rcases bind_eq_ok.mp ended with ⟨_, _, same⟩
      cases same

/-- A stale request is refused with a receipt. -/
theorem compareUnderLock_of_stale (formatted : LineSafe storageFormat.bytes)
    (target : actualPrior.targetBinding = request.targetBinding)
    (different : actualPrior.identity ≠ request.expectedSnapshot) :
    ∃ receipt, compareUnderLock request actualPrior storageFormat = .ok (.inl receipt) ∧
      receipt.outcome = .staleExpectedState := by
  have passed : validateStorageFormat storageFormat.bytes = .ok () :=
    requireLineSafe_iff.mpr formatted
  obtain ⟨receipt, built, outcome⟩ : ∃ receipt, StatePublicationReceipt.staleExpectedState
      request actualPrior storageFormat noEvidence.toStdVector = .ok receipt ∧
      receipt.outcome = .staleExpectedState :=
    ⟨_, (StatePublicationReceipt.staleExpectedState_of_stale target different).trans
      (StatePublicationReceipt.make_of_sorted (requireLineSafe_iff.mpr formatted) _ _ _ _ _), rfl⟩
  refine ⟨receipt, ?_, outcome⟩
  refine bind_eq_ok.mpr ⟨(), passed, ?_⟩
  rw [if_neg (not_not.mpr target), if_pos different, built]
  rfl

end Compare

/-! ## After `publish` -/

/-- A receipt says what the backend reported, about the prior state and the
snapshot that was handed to it. -/
structure Reports (receipt : StatePublicationReceipt sha256)
    (request : StatePublicationRequest sha256) (storageFormat : StdString)
    (actualPrior resultingSnapshot : Snapshot sha256) (result : StatePublicationBackendResult) :
    Prop where
  cites : receipt.Cites request actualPrior
  storageFormat : receipt.storageFormat = storageFormat
  outcome : receipt.outcome = result.outcome
  atomicity : toByte receipt.atomicityBoundary = result.atomicityBoundary
  resulting : receipt.resultingSnapshot =
    if result.resultingSnapshotEstablished then some resultingSnapshot.identity else none
  evidence : receipt.subordinateEvidence = result.subordinateEvidence

section Conclude

variable {request : StatePublicationRequest sha256} {actualPrior resultingSnapshot : Snapshot sha256}
  {storageFormat : StdString} {result : StatePublicationBackendResult}

theorem requireBoundary_iff {atomicity : UInt8} :
    requireBoundary atomicity = .ok () ↔
      atomicity ≠ toByte StateStorageAtomicityBoundary.none :=
  check_eq_ok

/-- A receipt made with the fields of a backend result reports it. -/
theorem reports_of_make {receipt : StatePublicationReceipt sha256}
    {durability : StatePublicationDurability}
    (built : StatePublicationReceipt.make request actualPrior storageFormat result.outcome
      durability result.atomicityBoundary
      (if result.resultingSnapshotEstablished then some resultingSnapshot.identity else none)
      result.subordinateEvidence.toStdVector = .ok receipt) :
    Reports receipt request storageFormat actualPrior resultingSnapshot result := by
  obtain ⟨cites, format, outcome, _, boundary, resulting, arranged⟩ :=
    StatePublicationReceipt.make_ok built
  have evidence : receipt.subordinateEvidence = result.subordinateEvidence :=
    SortedVector.toList_inj (receipt.subordinateEvidence.sorted.ext
      result.subordinateEvidence.sorted fun _ => arranged.mem_iff)
  exact ⟨cites, format, outcome, boundary.symm, resulting, evidence⟩

/-- What the switch comes down to: the factory of the reported outcome passes
every check, and hands the reported fields to `make`. -/
theorem receiptOf_eq_make (current : Current request actualPrior)
    (projected : projectPublicationRequest request actualPrior = .ok resultingSnapshot) :
    ∃ durability, receiptOf request storageFormat actualPrior resultingSnapshot result =
      StatePublicationReceipt.make request actualPrior storageFormat result.outcome durability
        result.atomicityBoundary
        (if result.resultingSnapshotEstablished then some resultingSnapshot.identity else none)
        result.subordinateEvidence.toStdVector := by
  rcases result with ⟨outcome, boundary, established, evidence, shape⟩
  cases outcome with
  | published =>
      rcases shape with ⟨bounded, rfl⟩
      exact ⟨.confirmed, StatePublicationReceipt.citing_of_current current
        (requireBoundary_iff.mp bounded) projected⟩
  | staleExpectedState => exact shape.elim
  | requestRejected =>
      rcases shape with ⟨rfl, rfl⟩
      exact ⟨.notAttempted, StatePublicationReceipt.unpublished_of_current current⟩
  | failedBeforePublication =>
      rcases shape with ⟨rfl, rfl⟩
      exact ⟨.notAttempted, StatePublicationReceipt.unpublished_of_current current⟩
  | publishedDurabilityUnconfirmed =>
      rcases shape with ⟨bounded, rfl⟩
      exact ⟨.unconfirmed, StatePublicationReceipt.citing_of_current current
        (requireBoundary_iff.mp bounded) projected⟩
  | indeterminate =>
      refine ⟨.indeterminate, StatePublicationReceipt.indeterminate_of_current current
        (requireBoundary_iff.mp shape) ?_⟩
      intro identity cited
      cases established with
      | false => cases cited
      | true =>
          cases cited
          exact ⟨resultingSnapshot, projected, rfl⟩

/-- Every receipt behind `publish` reports the backend's result. -/
theorem receiptOf_ok {receipt : StatePublicationReceipt sha256}
    (current : Current request actualPrior)
    (projected : projectPublicationRequest request actualPrior = .ok resultingSnapshot)
    (built : receiptOf request storageFormat actualPrior resultingSnapshot result =
      .ok receipt) :
    Reports receipt request storageFormat actualPrior resultingSnapshot result := by
  obtain ⟨durability, made⟩ := receiptOf_eq_make current projected
  exact reports_of_make (made ▸ built)

/-- Behind `publish` a receipt is always built, if the backend's boundary is one
of the declared ones. -/
theorem receiptOf_total (publishable : Publishable request actualPrior storageFormat)
    (projected : projectPublicationRequest request actualPrior = .ok resultingSnapshot)
    {boundary : StateStorageAtomicityBoundary}
    (declared : result.atomicityBoundary = toByte boundary) :
    ∃ receipt, receiptOf request storageFormat actualPrior resultingSnapshot result =
      .ok receipt := by
  obtain ⟨durability, made⟩ := receiptOf_eq_make publishable.current projected
  rw [declared, StatePublicationReceipt.make_of_sorted
    (requireLineSafe_iff.mpr publishable.formatted)] at made
  exact ⟨_, made⟩

end Conclude

/-! ## The whole call -/

namespace CanonicalStore

variable {store : CanonicalStore sha256} {request : StatePublicationRequest sha256}
  {transaction : CanonicalPublicationTransaction sha256}

/-- A call without a transaction fails before it hands anything over. -/
theorem run_unavailable
    (unavailable : ∀ transaction, store.beginPublication ≠ .ok (some transaction)) :
    store.handed request = [] ∧ ∃ failure, store.outcome request = .error failure := by
  unfold handed outcome compareAndPublish
  cases begun : store.beginPublication with
  | error failure => exact ⟨rfl, failure, rfl⟩
  | ok found =>
      cases found with
      | none => exact ⟨rfl, _, rfl⟩
      | some transaction => exact absurd begun (unavailable transaction)

/-- A call with a transaction, by what it finds under the lock. -/
theorem run_transaction (begun : store.beginPublication = .ok (some transaction)) :
    (compareAndPublish store request).run.run [] =
      match compareUnderLock request transaction.current transaction.storageFormat with
      | .error failure => (.error failure, [])
      | .ok (.inl receipt) => (.ok receipt, [])
      | .ok (.inr resultingSnapshot) =>
          (transaction.publish resultingSnapshot >>=
            receiptOf request transaction.storageFormat transaction.current resultingSnapshot,
            [resultingSnapshot]) := by
  unfold compareAndPublish
  rw [begun]
  change (publishUnderLock transaction request).run.run [] = _
  unfold publishUnderLock
  cases compareUnderLock request transaction.current transaction.storageFormat with
  | error failure => rfl
  | ok compared =>
      cases compared with
      | inl receipt => rfl
      | inr resultingSnapshot =>
          change (transaction.invokePublish resultingSnapshot >>= fun result =>
              (receiptOf request transaction.storageFormat transaction.current resultingSnapshot
                result : StoreCall sha256 _)).run.run [] =
            (transaction.publish resultingSnapshot >>=
              receiptOf request transaction.storageFormat transaction.current resultingSnapshot,
              [resultingSnapshot])
          unfold CanonicalPublicationTransaction.invokePublish
          cases transaction.publish resultingSnapshot with
          | error failure => rfl
          | ok result => rfl

/-- A publishable state reaches `publish` with the projection. -/
theorem run_publishable {resultingSnapshot : Snapshot sha256}
    (begun : store.beginPublication = .ok (some transaction))
    (publishable : Publishable request transaction.current transaction.storageFormat)
    (projected : projectPublicationRequest request transaction.current =
      .ok resultingSnapshot) :
    store.handed request = [resultingSnapshot] ∧
      store.outcome request = transaction.publish resultingSnapshot >>=
        receiptOf request transaction.storageFormat transaction.current resultingSnapshot := by
  unfold handed outcome
  rw [run_transaction begun, compareUnderLock_eq_inr.mpr ⟨publishable, projected⟩]
  exact ⟨rfl, rfl⟩

/-- A call hands over nothing, or the projection onto a publishable state. -/
theorem handed_cases (store : CanonicalStore sha256) (request : StatePublicationRequest sha256) :
    store.handed request = [] ∨
      ∃ transaction resultingSnapshot, store.beginPublication = .ok (some transaction) ∧
        Publishable request transaction.current transaction.storageFormat ∧
        projectPublicationRequest request transaction.current = .ok resultingSnapshot ∧
        store.handed request = [resultingSnapshot] := by
  by_cases available : ∃ transaction, store.beginPublication = .ok (some transaction)
  · rcases available with ⟨transaction, begun⟩
    cases compared : compareUnderLock request transaction.current transaction.storageFormat with
    | error failure =>
        left
        rw [handed, run_transaction begun, compared]
    | ok found =>
        cases found with
        | inl receipt =>
            left
            rw [handed, run_transaction begun, compared]
        | inr resultingSnapshot =>
            right
            have ready := compareUnderLock_eq_inr.mp compared
            exact ⟨transaction, resultingSnapshot, begun, ready.1, ready.2,
              (run_publishable begun ready.1 ready.2).1⟩
  · left
    exact (run_unavailable fun transaction begun => available ⟨transaction, begun⟩).1

/-- A stale request ends with a stale receipt and reaches no `publish`. -/
theorem run_stale (begun : store.beginPublication = .ok (some transaction))
    (formatted : LineSafe transaction.storageFormat.bytes)
    (target : transaction.current.targetBinding = request.targetBinding)
    (different : transaction.current.identity ≠ request.expectedSnapshot) :
    store.handed request = [] ∧
      ∃ receipt, store.outcome request = .ok receipt ∧ receipt.outcome = .staleExpectedState := by
  obtain ⟨receipt, compared, stale⟩ := compareUnderLock_of_stale formatted target different
  unfold handed outcome
  rw [run_transaction begun, compared]
  exact ⟨rfl, receipt, rfl, stale⟩

/-- `compare_and_publish` is safe over every backend: it publishes at most once,
exactly when the state under the lock is the expected one in a nameable format,
and only the projection of its request. Once the backend has answered, the call
returns a receipt that reports the answer. -/
theorem compareAndPublish_safe (store : CanonicalStore sha256)
    (request : StatePublicationRequest sha256)
    (authority : ∀ transaction, store.beginPublication = .ok (some transaction) →
      transaction.current.identity = request.expectedSnapshot →
      ∃ expected deltas evidence,
        StatePublicationRequest.make expected deltas evidence = .ok request ∧
        transaction.current = expected)
    (distinct : ∀ transaction, store.beginPublication = .ok (some transaction) →
      Snapshot.DistinctIdentities (transaction.current.packages ++ request.proposedPackages)) :
    (store.handed request).length ≤ 1 ∧
    (store.handed request ≠ [] ↔
      ∃ transaction, store.beginPublication = .ok (some transaction) ∧
        LineSafe transaction.storageFormat.bytes ∧
        transaction.current.targetBinding = request.targetBinding ∧
        transaction.current.identity = request.expectedSnapshot) ∧
    ∀ transaction, store.beginPublication = .ok (some transaction) →
      ∀ resultingSnapshot ∈ store.handed request,
        projectPublicationRequest request transaction.current = .ok resultingSnapshot ∧
        ∀ result boundary, transaction.publish resultingSnapshot = .ok result →
          result.atomicityBoundary = toByte (boundary : StateStorageAtomicityBoundary) →
          ∃ receipt, store.outcome request = .ok receipt ∧
            receipt.outcome = result.outcome ∧ receipt.atomicityBoundary = boundary ∧
            receipt.subordinateEvidence = result.subordinateEvidence ∧
            receipt.actualPriorSnapshot = transaction.current.identity ∧
            receipt.resultingSnapshot = if result.resultingSnapshotEstablished then
              some resultingSnapshot.identity else none := by
  refine ⟨?_, ⟨?_, ?_⟩, ?_⟩
  · rcases handed_cases store request with none | ⟨_, _, _, _, _, single⟩
    · rw [none]
      exact Nat.zero_le 1
    · rw [single]
      exact Nat.le_refl 1
  · intro some
    rcases handed_cases store request with none | ⟨transaction, _, begun, publishable, _⟩
    · exact absurd none some
    · exact ⟨transaction, begun, publishable.formatted, publishable.current.target,
        publishable.current.identity⟩
  · intro ⟨transaction, begun, formatted, target, same⟩
    obtain ⟨expected, deltas, evidence, built, here⟩ := authority transaction begun same
    obtain ⟨result, projected, _⟩ := project_madeAgainst
      (here ▸ (StatePublicationRequest.make_ok built).1) (distinct transaction begun)
    rw [(run_publishable begun ⟨formatted, target, same⟩ projected).1]
    exact List.cons_ne_nil _ _
  · intro transaction begun resultingSnapshot member
    rcases handed_cases store request with none | ⟨other, _, again, publishable, projected, single⟩
    · rw [none] at member
      exact absurd member List.not_mem_nil
    · rw [begun] at again
      cases again
      rw [single] at member
      cases List.mem_singleton.mp member
      refine ⟨projected, ?_⟩
      intro result boundary answered declared
      obtain ⟨receipt, built⟩ := receiptOf_total publishable projected declared
      have reports := receiptOf_ok publishable.current projected built
      refine ⟨receipt, ?_, reports.outcome, ByteEnum.toByte_inj (reports.atomicity.trans declared),
        reports.evidence, reports.cites.actual, reports.resulting⟩
      rw [(run_publishable begun publishable projected).2, answered]
      exact built

/-- A store whose backend selects a new generation of the empty state. -/
def sample : CanonicalStore Sha256.hash where
  beginPublication := .ok (some
    { current := Snapshot.empty Fixture.binding
      storageFormat := Fixture.storageFormat
      publish := fun _ => .ok .generationSelected })

theorem compareAndPublish_safe_install :
    ∃ (request : StatePublicationRequest Sha256.hash) (resultingSnapshot : Snapshot Sha256.hash)
      (receipt : StatePublicationReceipt Sha256.hash),
      sample.handed request = [resultingSnapshot] ∧
      projectPublicationRequest request (Snapshot.empty Fixture.binding) =
        .ok resultingSnapshot ∧
      sample.outcome request = .ok receipt ∧ receipt.outcome = .published ∧
      receipt.resultingSnapshot = some resultingSnapshot.identity := by
  obtain ⟨request, built, _, separate⟩ :=
    StatePublicationRequest.make_installing Fixture.package
  have made := (StatePublicationRequest.make_ok built).1
  obtain ⟨once, handsOver, reports⟩ := compareAndPublish_safe sample request
    (by
      intro transaction begun _
      cases begun
      exact ⟨_, _, _, built, rfl⟩)
    (by
      intro transaction begun
      cases begun
      exact separate)
  have some := handsOver.mpr ⟨_, rfl, Fixture.lineSafe_storageFormat, made.targetBinding.symm,
    made.expectedSnapshot.symm⟩
  obtain ⟨resultingSnapshot, single⟩ := List.length_eq_one_iff.mp
    (Nat.le_antisymm once (List.length_pos_of_ne_nil some))
  obtain ⟨projected, answers⟩ := reports _ rfl resultingSnapshot
    (single ▸ List.mem_singleton_self _)
  obtain ⟨receipt, returned, outcome, _, _, _, resulting⟩ :=
    answers .generationSelected .immutableGenerationSelection rfl rfl
  exact ⟨request, resultingSnapshot, receipt, single, projected, returned, outcome, resulting⟩

end CanonicalStore

end Pkgstate
