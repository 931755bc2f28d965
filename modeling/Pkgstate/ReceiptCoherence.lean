import Pkgstate.CanonicalStore
import Pkgstate.PublicationReceiptCodec

/-!
# Where receipts come from

A receipt is returned by a factory, by `compare_and_publish` or by the decoder.
The store and the decoder both end in a factory (`builtFrom_of_produced`), so one
table of outcomes, `Coherent`, holds of every receipt, and `Consistency` says what
follows from it for a reader of the receipt.
-/

namespace Pkgstate

open Wire Cpp Keyed

variable {sha256 : Sha256}

/-! ## The three producers -/

/-- A receipt that was obtained for this request and this prior state. -/
inductive Produced (request : StatePublicationRequest sha256) (actualPrior : Snapshot sha256)
    (receipt : StatePublicationReceipt sha256) : Prop
  | factory : BuiltFrom request actualPrior receipt → Produced request actualPrior receipt
  | store (store : CanonicalStore sha256) (transaction : CanonicalPublicationTransaction sha256) :
    store.beginPublication = .ok (some transaction) → transaction.current = actualPrior →
    store.outcome request = .ok receipt → Produced request actualPrior receipt
  | decoder (bytes : Bytes) :
    decodeStatePublicationReceipt bytes request actualPrior = .ok receipt →
    Produced request actualPrior receipt

section Produced

variable {request : StatePublicationRequest sha256} {actualPrior : Snapshot sha256}
  {receipt : StatePublicationReceipt sha256}

/-- The store's switch ends in the factory of the reported outcome. -/
theorem builtFrom_of_receiptOf {storageFormat : StdString} {resultingSnapshot : Snapshot sha256}
    {result : StatePublicationBackendResult}
    (built : receiptOf request storageFormat actualPrior resultingSnapshot result =
      .ok receipt) : BuiltFrom request actualPrior receipt := by
  unfold receiptOf at built
  split at built
  · exact .published _ _ _ _ built
  · exact .requestRejected _ _ built
  · exact .failedBeforePublication _ _ built
  · exact .publishedButDurabilityUnconfirmed _ _ _ _ built
  · exact .indeterminate _ _ _ _ built
  · cases built

theorem builtFrom_of_outcome {store : CanonicalStore sha256}
    {transaction : CanonicalPublicationTransaction sha256}
    (begun : store.beginPublication = .ok (some transaction))
    (returned : store.outcome request = .ok receipt) :
    BuiltFrom request transaction.current receipt := by
  rw [CanonicalStore.outcome, CanonicalStore.run_transaction begun] at returned
  split at returned
  · cases returned
  · next stale compared =>
      cases returned
      exact .staleExpectedState _ _ (compareUnderLock_eq_inl compared).2
  · rcases bind_eq_ok.mp returned with ⟨result, _, built⟩
    exact builtFrom_of_receiptOf built

/-- Every receipt comes out of a factory. -/
theorem builtFrom_of_produced (produced : Produced request actualPrior receipt) :
    BuiltFrom request actualPrior receipt := by
  cases produced with
  | factory built => exact built
  | store store transaction begun here returned => exact here ▸ builtFrom_of_outcome begun returned
  | decoder bytes decoded => exact (decodeStatePublicationReceipt_ok decoded).1

end Produced

/-! ## What a receipt says -/

/-- The durability that belongs to an outcome. -/
def StatePublicationOutcome.durability : StatePublicationOutcome → StatePublicationDurability
  | .published => .confirmed
  | .staleExpectedState | .requestRejected | .failedBeforePublication => .notAttempted
  | .publishedDurabilityUnconfirmed => .unconfirmed
  | .indeterminate => .indeterminate

/-- Nothing was published. -/
def StatePublicationOutcome.Unpublished (outcome : StatePublicationOutcome) : Prop :=
  outcome = .staleExpectedState ∨ outcome = .requestRejected ∨ outcome = .failedBeforePublication

/-- The new state was published. -/
def StatePublicationOutcome.Changed (outcome : StatePublicationOutcome) : Prop :=
  outcome = .published ∨ outcome = .publishedDurabilityUnconfirmed

/-- The fields of a receipt agree with one another and with its authorities. -/
structure Consistency (request : StatePublicationRequest sha256) (actualPrior : Snapshot sha256)
    (receipt : StatePublicationReceipt sha256) : Prop where
  cites : receipt.Cites request actualPrior
  stale : receipt.expectedPriorSnapshot ≠ receipt.actualPriorSnapshot ↔
    receipt.outcome = .staleExpectedState
  durability : receipt.durability = receipt.outcome.durability
  boundary : receipt.atomicityBoundary = .none ↔ receipt.outcome.Unpublished
  present : receipt.outcome.Changed → receipt.resultingSnapshot ≠ none
  absent : receipt.outcome.Unpublished → receipt.resultingSnapshot = none
  result : ∀ identity, receipt.resultingSnapshot = some identity →
    ∃ result, projectPublicationRequest request actualPrior = .ok result ∧
      identity = result.identity
  target : receipt.targetBinding = request.targetBinding ∧
    receipt.targetBinding = actualPrior.targetBinding
  evidence : SortedBy id receipt.subordinateEvidence.toList

section Table

variable {request : StatePublicationRequest sha256} {actualPrior : Snapshot sha256}
  {outcome : StatePublicationOutcome} {durability : StatePublicationDurability}
  {boundary : StateStorageAtomicityBoundary} {resulting : Option InstalledStateSnapshotIdentity}

theorem Coherent.stale_iff
    (coherent : Coherent request actualPrior outcome durability boundary resulting) :
    request.expectedSnapshot ≠ actualPrior.identity ↔ outcome = .staleExpectedState := by
  have fresh (current : Current request actualPrior) {outcome : StatePublicationOutcome}
      (other : outcome ≠ .staleExpectedState) :
      request.expectedSnapshot ≠ actualPrior.identity ↔ outcome = .staleExpectedState :=
    iff_of_false (not_not.mpr current.identity.symm) other
  cases coherent with
  | staleExpectedState _ different => exact iff_of_true (Ne.symm different) rfl
  | published current _ _ => exact fresh current nofun
  | requestRejected current => exact fresh current nofun
  | failedBeforePublication current => exact fresh current nofun
  | publishedDurabilityUnconfirmed current _ _ => exact fresh current nofun
  | indeterminate current _ _ => exact fresh current nofun

theorem Coherent.durability_eq
    (coherent : Coherent request actualPrior outcome durability boundary resulting) :
    durability = outcome.durability := by
  cases coherent <;> rfl

theorem Coherent.boundary_iff
    (coherent : Coherent request actualPrior outcome durability boundary resulting) :
    boundary = .none ↔ outcome.Unpublished := by
  unfold StatePublicationOutcome.Unpublished
  cases coherent with
  | published _ declared _ => simp [declared]
  | staleExpectedState _ _ => simp
  | requestRejected _ => simp
  | failedBeforePublication _ => simp
  | publishedDurabilityUnconfirmed _ declared _ => simp [declared]
  | indeterminate _ declared _ => simp [declared]

theorem Coherent.resulting_of_changed
    (coherent : Coherent request actualPrior outcome durability boundary resulting)
    (changed : outcome.Changed) : resulting ≠ none := by
  rcases changed with rfl | rfl
  · cases coherent with
    | published _ _ _ => exact Option.some_ne_none _
  · cases coherent with
    | publishedDurabilityUnconfirmed _ _ _ => exact Option.some_ne_none _

theorem Coherent.resulting_of_unpublished
    (coherent : Coherent request actualPrior outcome durability boundary resulting)
    (unpublished : outcome.Unpublished) : resulting = none := by
  have unbounded := coherent.boundary_iff.mpr unpublished
  cases coherent with
  | staleExpectedState _ _ => rfl
  | requestRejected _ => rfl
  | failedBeforePublication _ => rfl
  | published _ declared _ => exact absurd unbounded declared
  | publishedDurabilityUnconfirmed _ declared _ => exact absurd unbounded declared
  | indeterminate _ declared _ => exact absurd unbounded declared

end Table

/-- Every publication receipt is coherent, whether a factory, the store over any
backend, or the decoder over any bytes returned it. -/
theorem receipt_consistent {request : StatePublicationRequest sha256}
    {actualPrior : Snapshot sha256} {receipt : StatePublicationReceipt sha256}
    (produced : Produced request actualPrior receipt) :
    Consistency request actualPrior receipt := by
  obtain ⟨cites, coherent⟩ :=
    StatePublicationReceipt.coherent_of_builtFrom (builtFrom_of_produced produced)
  constructor
  · exact cites
  · rw [cites.expected, cites.actual]
    exact coherent.stale_iff
  · exact coherent.durability_eq
  · exact coherent.boundary_iff
  · exact coherent.resulting_of_changed
  · exact coherent.resulting_of_unpublished
  · intro identity cited
    rw [cited] at coherent
    exact coherent.resulting
  · exact ⟨cites.target, cites.target.trans coherent.target.symm⟩
  · exact receipt.subordinateEvidence.sorted

theorem receipt_consistent_install :
    ∃ (request : StatePublicationRequest Sha256.hash)
      (receipt : StatePublicationReceipt Sha256.hash),
      CanonicalStore.sample.outcome request = .ok receipt ∧ receipt.outcome = .published ∧
      receipt.durability = .confirmed ∧ receipt.resultingSnapshot ≠ none := by
  obtain ⟨request, built, _, separate⟩ :=
    StatePublicationRequest.make_installing Fixture.package
  have made := (StatePublicationRequest.make_ok built).1
  obtain ⟨resultingSnapshot, projected, _⟩ := project_madeAgainst made separate
  let transaction : CanonicalPublicationTransaction Sha256.hash :=
    { current := Snapshot.empty Fixture.binding
      storageFormat := Fixture.storageFormat
      publish := fun _ => .ok .generationSelected }
  have begun : CanonicalStore.sample.beginPublication = .ok (some transaction) := rfl
  have publishable : Publishable request transaction.current transaction.storageFormat :=
    made.publishable Fixture.lineSafe_storageFormat
  have declared : StatePublicationBackendResult.generationSelected.atomicityBoundary =
      toByte StateStorageAtomicityBoundary.immutableGenerationSelection := rfl
  obtain ⟨receipt, returned⟩ := receiptOf_total publishable projected declared
  have outcome := (receiptOf_ok publishable.current projected returned).outcome
  have called : CanonicalStore.sample.outcome request = .ok receipt :=
    (CanonicalStore.run_publishable begun publishable projected).2.trans returned
  have consistent := receipt_consistent
    (.store CanonicalStore.sample transaction begun rfl called)
  refine ⟨request, receipt, called, outcome, ?_, consistent.present (Or.inl outcome)⟩
  rw [consistent.durability, outcome]
  rfl

end Pkgstate
