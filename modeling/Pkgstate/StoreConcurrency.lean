import Pkgstate.Base.Completion
import Pkgstate.CanonicalStore
import Pkgstate.StateIdentity

/-!
# Concurrent publication

Any number of calls of `compare_and_publish` on one store, interleaved step by
step. The store is a locked update: what a call does with the state it reads is
`compareUnderLock`, what it does with the backend's answer is `receiptOf`, and
`publish` changes durable state as `canonical_store.h` documents for each
answer. `storeProtocol_outcome` connects one call of the protocol with
`compareAndPublish`.
-/

namespace Pkgstate

open Wire Cpp Keyed LockedUpdate

/-- What an answer of `publish` says about durable state. A `publish` that throws
says nothing. -/
def publishEffect : Except Failure StatePublicationBackendResult → Effect
  | .error _ => .unknown
  | .ok result =>
      match result.outcome with
      | .published | .publishedDurabilityUnconfirmed => .applied
      | .requestRejected | .failedBeforePublication => .untouched
      | .indeterminate => if result.resultingSnapshotEstablished then .applied else .unknown
      | .staleExpectedState => .unknown

/-- Where a call goes from its comparison: to its end, or on to `publish`. -/
def planned {sha256 : Sha256} :
    Except Failure (StatePublicationReceipt sha256 ⊕ Snapshot sha256) →
      Except Failure (StatePublicationReceipt sha256) ⊕ Snapshot sha256
  | .error failure => .inl (.error failure)
  | .ok (.inl receipt) => .inl (.ok receipt)
  | .ok (.inr resultingSnapshot) => .inr resultingSnapshot

/-- `compare_and_publish` as a locked update: a call sees the storage format of
its transaction with the lock. -/
def storeProtocol (sha256 : Sha256) : Protocol (StatePublicationRequest sha256) StdString
    (Snapshot sha256) (Except Failure StatePublicationBackendResult)
    (Except Failure (StatePublicationReceipt sha256)) where
  unavailable result := ∃ failure, result = .error failure
  plan request storageFormat actualPrior :=
    planned (compareUnderLock request actualPrior storageFormat)
  effect := publishEffect
  conclude request storageFormat actualPrior resultingSnapshot answer :=
    answer >>= receiptOf request storageFormat actualPrior resultingSnapshot

variable {sha256 : Sha256}

/-- One undisturbed call of the protocol is `compare_and_publish`. -/
theorem storeProtocol_outcome {store : CanonicalStore sha256}
    {request : StatePublicationRequest sha256}
    {transaction : CanonicalPublicationTransaction sha256}
    (begun : store.beginPublication = .ok (some transaction)) :
    store.outcome request =
      match (storeProtocol sha256).plan request transaction.storageFormat transaction.current with
      | .inl result => result
      | .inr resultingSnapshot => (storeProtocol sha256).conclude request
          transaction.storageFormat transaction.current resultingSnapshot
          (transaction.publish resultingSnapshot) := by
  unfold CanonicalStore.outcome
  rw [CanonicalStore.run_transaction begun]
  change _ = match planned (compareUnderLock request transaction.current
    transaction.storageFormat) with
    | .inl result => result
    | .inr resultingSnapshot => transaction.publish resultingSnapshot >>=
        receiptOf request transaction.storageFormat transaction.current resultingSnapshot
  cases compareUnderLock request transaction.current transaction.storageFormat with
  | error failure => rfl
  | ok compared => cases compared <;> rfl

theorem plan_eq_inr {request : StatePublicationRequest sha256} {storageFormat : StdString}
    {actualPrior resultingSnapshot : Snapshot sha256} :
    (storeProtocol sha256).plan request storageFormat actualPrior = .inr resultingSnapshot ↔
      Publishable request actualPrior storageFormat ∧
        projectPublicationRequest request actualPrior = .ok resultingSnapshot := by
  rw [← compareUnderLock_eq_inr]
  change planned (compareUnderLock request actualPrior storageFormat) = _ ↔ _
  cases compareUnderLock request actualPrior storageFormat with
  | error failure => simp [planned]
  | ok compared => cases compared <;> simp [planned]

/-- A call can plan exactly what its request projects. -/
theorem exists_plan_iff {request : StatePublicationRequest sha256}
    {before after : Snapshot sha256} :
    (∃ storageFormat, (storeProtocol sha256).plan request storageFormat before = .inr after) ↔
      projectPublicationRequest request before = .ok after := by
  constructor
  · intro ⟨storageFormat, planned⟩
    exact (plan_eq_inr.mp planned).2
  · intro projected
    have publishable : Publishable request before Fixture.storageFormat :=
      (madeAgainst_of_project projected).publishable Fixture.lineSafe_storageFormat
    exact ⟨_, plan_eq_inr.mpr ⟨publishable, projected⟩⟩

/-- A call that declines with a receipt found another state than the expected one. -/
theorem plan_eq_inl {request : StatePublicationRequest sha256} {storageFormat : StdString}
    {actualPrior : Snapshot sha256} {receipt : StatePublicationReceipt sha256}
    (declined : (storeProtocol sha256).plan request storageFormat actualPrior =
      .inl (.ok receipt)) :
    actualPrior.identity ≠ request.expectedSnapshot ∧
      receipt.outcome = .staleExpectedState ∧ receipt.resultingSnapshot = none := by
  change planned (compareUnderLock request actualPrior storageFormat) = _ at declined
  cases compared : compareUnderLock request actualPrior storageFormat with
  | error failure =>
      rw [compared] at declined
      cases declined
  | ok found =>
      rw [compared] at declined
      cases found with
      | inr resultingSnapshot => cases declined
      | inl stale =>
          cases declined
          obtain ⟨different, built⟩ := compareUnderLock_eq_inl compared
          obtain ⟨_, made⟩ := StatePublicationReceipt.staleExpectedState_ok built
          obtain ⟨_, _, outcome, _, _, resulting, _⟩ := StatePublicationReceipt.make_ok made
          exact ⟨different, outcome, resulting⟩

/-- The outcomes whose receipt says that the state was left alone. -/
def StatePublicationOutcome.unchanged : StatePublicationOutcome → Prop
  | .staleExpectedState | .requestRejected | .failedBeforePublication => True
  | .published | .publishedDurabilityUnconfirmed | .indeterminate => False

/-- What a receipt reports fixes what its answer did. -/
theorem publishEffect_of_reports {request : StatePublicationRequest sha256}
    {storageFormat : StdString} {actualPrior resultingSnapshot : Snapshot sha256}
    {result : StatePublicationBackendResult} {receipt : StatePublicationReceipt sha256}
    (reports : Reports receipt request storageFormat actualPrior resultingSnapshot result) :
    (receipt.resultingSnapshot ≠ none → publishEffect (.ok result) = .applied ∧
        receipt.resultingSnapshot = some resultingSnapshot.identity) ∧
      (receipt.outcome = .published ∨ receipt.outcome = .publishedDurabilityUnconfirmed →
        receipt.resultingSnapshot ≠ none) ∧
      (receipt.outcome.unchanged → publishEffect (.ok result) = .untouched) := by
  rw [reports.resulting, reports.outcome]
  rcases result with ⟨outcome, boundary, established, evidence, shape⟩
  cases outcome with
  | published | publishedDurabilityUnconfirmed =>
      cases shape.2
      refine ⟨?_, ?_, ?_⟩
      · intro _
        exact ⟨rfl, rfl⟩
      · intro _ none
        cases none
      · intro unchanged
        exact unchanged.elim
  | requestRejected | failedBeforePublication =>
      cases shape.2
      refine ⟨?_, ?_, ?_⟩
      · intro some
        exact absurd rfl some
      · intro outcome
        rcases outcome with impossible | impossible <;> cases impossible
      · intro _
        rfl
  | indeterminate =>
      refine ⟨?_, ?_, ?_⟩
      · intro some
        cases established with
        | false => exact absurd rfl some
        | true => exact ⟨rfl, rfl⟩
      · intro outcome
        rcases outcome with impossible | impossible <;> cases impossible
      · intro unchanged
        exact unchanged.elim
  | staleExpectedState => exact shape.elim

/-! ## A run of two calls -/

/-- Alone in a store, a call that finds the state it expects publishes, and its receipt
reports that the backend selected the new generation. -/
theorem exists_published {ι : Type} [DecidableEq ι] {request : ι → StatePublicationRequest sha256}
    {initial next : Snapshot sha256} {call : ι} {storageFormat : StdString}
    (publishable : Publishable (request call) initial storageFormat)
    (projected : projectPublicationRequest (request call) initial = .ok next) :
    ∃ receipt system, Reachable (storeProtocol sha256) request initial system ∧
      system.durable = next ∧ system.holder = none ∧
      system.changes = [⟨call, initial, next⟩] ∧
      system.phase = Function.update (fun _ => .idle) call (.returned (.ok receipt)) ∧
      Reports receipt (request call) storageFormat initial next .generationSelected := by
  have selects : StatePublicationBackendResult.generationSelected.atomicityBoundary =
      toByte StateStorageAtomicityBoundary.immutableGenerationSelection := rfl
  obtain ⟨receipt, concluded⟩ := receiptOf_total publishable projected selects
  have reports := receiptOf_ok publishable.current projected concluded
  have begun : Reachable (storeProtocol sha256) request initial (.initial initial) := .initial
  have applied : (storeProtocol sha256).effect (.ok .generationSelected) ≠ .untouched :=
    Effect.noConfusion
  obtain ⟨system, reached, durable, released, changes, phases⟩ := begun.complete
    (show (System.initial _).phase call = .idle from rfl) rfl
    (plan_eq_inr.mpr ⟨publishable, projected⟩) applied
  have returned : (storeProtocol sha256).conclude (request call) storageFormat initial next
      (.ok .generationSelected) = .ok receipt := concluded
  exact ⟨receipt, system, reached, durable, released, changes, returned ▸ phases, reports⟩

/-- Two calls with one request: the first publishes, and the second, which has not
begun when the first returns, is stale. -/
structure Rivals (request : StatePublicationRequest Sha256.hash)
    (middle done : System Bool StdString (Snapshot Sha256.hash)
      (Except Failure StatePublicationBackendResult)
      (Except Failure (StatePublicationReceipt Sha256.hash)))
    (published stale : StatePublicationReceipt Sha256.hash) : Prop where
  built : StatePublicationRequest.make (Snapshot.empty Fixture.binding)
    (.singleton (.installing Fixture.package)) (some Fixture.transaction) = .ok request
  projected : projectPublicationRequest request (Snapshot.empty Fixture.binding) =
    .ok Fixture.installed
  first : Reachable (storeProtocol Sha256.hash) (fun _ => request)
    (Snapshot.empty Fixture.binding) middle
  durable : middle.durable = Fixture.installed
  changes : middle.changes = [⟨true, Snapshot.empty Fixture.binding, Fixture.installed⟩]
  idle : middle.phase false = .idle
  later : Later (storeProtocol Sha256.hash) (fun _ => request) middle done
  free : done.holder = none
  kept : done.durable = Fixture.installed
  recorded : done.changes = middle.changes
  ended : done.phase true = .returned (.ok published)
  outcome : published.outcome = .published
  resulting : published.resultingSnapshot = some Fixture.installed.identity
  late : done.phase false = .returned (.ok stale)
  refused : stale.outcome = .staleExpectedState

theorem exists_rivals : ∃ request middle done published stale,
    Rivals request middle done published stale := by
  obtain ⟨request, built, proposes, distinct⟩ :=
    StatePublicationRequest.make_installing Fixture.package
  have made := (StatePublicationRequest.make_ok built).1
  obtain ⟨next, projected, _⟩ := project_madeAgainst made distinct
  have same : next = Fixture.installed :=
    eq_of_project_empty projected fun _ => proposes ▸ Iff.rfl
  subst same
  have publishable :
      Publishable request (Snapshot.empty Fixture.binding) Fixture.storageFormat :=
    made.publishable Fixture.lineSafe_storageFormat
  -- The first call reads the empty state, publishes and is told so.
  let requests : Bool → StatePublicationRequest Sha256.hash := fun _ => request
  obtain ⟨published, middle, first, durable, released, changes, phases, reports⟩ :=
    exists_published (show Publishable (requests true) _ _ from publishable) projected
  have idle : middle.phase false = .idle := by
    rw [phases]
    rfl
  -- The second finds another state than the expected one.
  have target : middle.durable.targetBinding = request.targetBinding := by
    rw [durable, made.targetBinding]
    rfl
  have different : middle.durable.identity ≠ request.expectedSnapshot := by
    rw [durable, made.expectedSnapshot]
    exact project_identity_ne projected Fixture.collisionFree_installed
  obtain ⟨stale, compared, refused⟩ :=
    compareUnderLock_of_stale publishable.formatted target different
  have declines : (storeProtocol Sha256.hash).plan request Fixture.storageFormat middle.durable =
      .inl (.ok stale) := by
    change planned (compareUnderLock request middle.durable Fixture.storageFormat) = _
    rw [compared]
    rfl
  obtain ⟨done, later, kept, free, recorded, ended⟩ : ∃ done,
      Later (storeProtocol Sha256.hash) (fun _ => request) middle done ∧
      done.durable = middle.durable ∧ done.holder = none ∧ done.changes = middle.changes ∧
      done.phase = Function.update middle.phase false (.returned (.ok stale)) :=
    exists_declined idle released declines
  have concludes : done.phase true = .returned (.ok published) := by
    rw [ended, phases]
    rfl
  have late : done.phase false = .returned (.ok stale) := by
    rw [ended]
    exact Function.update_self ..
  exact ⟨request, middle, done, published, stale,
    { built, projected, first, durable, changes, idle, later, free, recorded, late, refused
      kept := kept.trans durable
      ended := concludes
      outcome := reports.outcome
      resulting := reports.resulting }⟩

/-! ## No lost update -/

section Runs

variable {ι : Type} {request : ι → StatePublicationRequest sha256}

/-- A call that returned a receipt: a receipt that cites a result stands for one
recorded change, and one that says nothing was published for none. -/
theorem Settled.receipt {changes : List (Change ι (Snapshot sha256))} {call : ι}
    {receipt : StatePublicationReceipt sha256}
    (settled : Settled (storeProtocol sha256) request changes call (.ok receipt)) :
    (receipt.resultingSnapshot ≠ none → ∃ change ∈ changes, change.call = call ∧
        receipt.actualPriorSnapshot = change.before.identity ∧
        receipt.resultingSnapshot = some change.after.identity) ∧
      (receipt.outcome = .published ∨ receipt.outcome = .publishedDurabilityUnconfirmed →
        receipt.resultingSnapshot ≠ none) ∧
      (receipt.outcome.unchanged → ∀ change ∈ changes, change.call ≠ call) := by
  cases settled with
  | refused unavailable silent =>
      rcases unavailable with ⟨failure, impossible⟩
      cases impossible
  | declined storageFormat actualPrior declined silent =>
      obtain ⟨_, outcome, resulting⟩ := plan_eq_inl declined
      refine ⟨?_, ?_, ?_⟩
      · intro some
        exact absurd resulting some
      · intro published
        rw [outcome] at published
        rcases published with impossible | impossible <;> cases impossible
      · intro _
        exact silent
  | concluded storageFormat actualPrior resultingSnapshot answer planned concluded recorded =>
      obtain ⟨publishable, projected⟩ := plan_eq_inr.mp planned
      rcases bind_eq_ok.mp concluded with ⟨result, rfl, built⟩
      have reports := receiptOf_ok publishable.current projected built
      obtain ⟨cited, confirmed, unchanged⟩ := publishEffect_of_reports reports
      refine ⟨?_, confirmed, ?_⟩
      · intro some
        obtain ⟨applied, identity⟩ := cited some
        exact ⟨_, recorded.applied applied, rfl, reports.cites.actual, identity⟩
      · intro outcome
        exact recorded.untouched (unchanged outcome)

/-- No lost update. Whatever the interleaving of the calls and the answers of the
backend, durable state only moves by recorded changes, one after the other from
the initial state. Each is the projection of one call's request onto the state
that the request expects, and no call has two. A receipt with a resulting
snapshot stands for the change from its prior state to that result, and a stale,
rejected or failed one for no change. -/
theorem compareAndPublish_noLostUpdate [DecidableEq ι]
    {initial : Snapshot sha256}
    {system : System ι StdString (Snapshot sha256)
      (Except Failure StatePublicationBackendResult)
      (Except Failure (StatePublicationReceipt sha256))}
    (reached : Reachable (storeProtocol sha256) request initial system) :
    Chain initial system.changes system.durable ∧
    (system.changes.map Change.call).Nodup ∧
    (∀ change ∈ system.changes,
      change.before.identity = (request change.call).expectedSnapshot ∧
      projectPublicationRequest (request change.call) change.before = .ok change.after) ∧
    (∀ next, Step (storeProtocol sha256) request system next →
      next.durable ≠ system.durable → ∃ change, next.changes = system.changes ++ [change] ∧
        change.before = system.durable ∧ change.after = next.durable) ∧
    ∀ call receipt, system.phase call = .returned (.ok receipt) →
      (receipt.outcome = .published ∨ receipt.outcome = .publishedDurabilityUnconfirmed ∨
          receipt.outcome = .indeterminate ∧ receipt.resultingSnapshot ≠ none →
        ∃ change ∈ system.changes, change.call = call ∧
          receipt.actualPriorSnapshot = change.before.identity ∧
          receipt.resultingSnapshot = some change.after.identity) ∧
      (receipt.outcome = .staleExpectedState ∨ receipt.outcome = .requestRejected ∨
          receipt.outcome = .failedBeforePublication →
        ∀ change ∈ system.changes, change.call ≠ call) := by
  have invariant := reached.invariant
  refine ⟨invariant.chain, invariant.once, ?_, ?_, ?_⟩
  · intro change member
    obtain ⟨storageFormat, ready⟩ := invariant.planned change member
    obtain ⟨publishable, projected⟩ := plan_eq_inr.mp ready
    exact ⟨publishable.current.identity, projected⟩
  · intro next step altered
    exact step.recorded altered
  · intro call receipt returned
    have settled := invariant.holds call
    rw [returned] at settled
    obtain ⟨cited, confirmed, unchanged⟩ := Settled.receipt settled
    refine ⟨?_, ?_⟩
    · intro outcome
      rcases outcome with published | unconfirmed | ⟨_, some⟩
      · exact cited (confirmed (Or.inl published))
      · exact cited (confirmed (Or.inr unconfirmed))
      · exact cited some
    · intro outcome
      apply unchanged
      rcases outcome with same | same | same
      all_goals
        rw [same]
        trivial

end Runs

/-- Of two calls, one has the only change, which its receipt stands for. -/
theorem compareAndPublish_noLostUpdate_rivals :
    ∃ (request : StatePublicationRequest Sha256.hash)
      (system : System Bool StdString (Snapshot Sha256.hash)
        (Except Failure StatePublicationBackendResult)
        (Except Failure (StatePublicationReceipt Sha256.hash)))
      (published stale : StatePublicationReceipt Sha256.hash),
      Reachable (storeProtocol Sha256.hash) (fun _ => request) (Snapshot.empty Fixture.binding)
        system ∧
      system.phase true = .returned (.ok published) ∧
      system.phase false = .returned (.ok stale) ∧
      Chain (Snapshot.empty Fixture.binding) system.changes Fixture.installed ∧
      (∃ change ∈ system.changes, change.call = true ∧
        published.actualPriorSnapshot = change.before.identity ∧
        published.resultingSnapshot = some change.after.identity) ∧
      ∀ change ∈ system.changes, change.call ≠ false := by
  obtain ⟨request, middle, done, published, stale, rivals⟩ := exists_rivals
  have reached := rivals.first.later rivals.later
  obtain ⟨chain, _, _, _, receipts⟩ := compareAndPublish_noLostUpdate reached
  exact ⟨request, done, published, stale, reached, rivals.ended, rivals.late,
    rivals.kept ▸ chain, (receipts true published rivals.ended).1 (Or.inl rivals.outcome),
    (receipts false stale rivals.late).2 (Or.inl rivals.refused)⟩

end Pkgstate
