import Pkgstate.Base.Linearization
import Pkgstate.StoreConcurrency

/-!
# Concurrent publication is linearizable

`CallAlone` is one call of `compare_and_publish` from the state it finds to the
state it leaves, with nothing in between. Every run of the store is explained by
such calls in one order that real time agrees with
(`compareAndPublish_linearizable`).
-/

namespace Pkgstate

open Wire Cpp Keyed LockedUpdate

variable {sha256 : Sha256}

/-! ## One call on its own -/

/-- The state behind a call, by what it handed to `publish` and the answer. -/
inductive Leaves (transaction : CanonicalPublicationTransaction sha256) :
    List (Snapshot sha256) → Snapshot sha256 → Prop
  | nothing : Leaves transaction [] transaction.current
  | published {resultingSnapshot : Snapshot sha256} :
      publishEffect (transaction.publish resultingSnapshot) ≠ .untouched →
      Leaves transaction [resultingSnapshot] resultingSnapshot
  | missed {resultingSnapshot : Snapshot sha256} :
      publishEffect (transaction.publish resultingSnapshot) ≠ .applied →
      Leaves transaction [resultingSnapshot] transaction.current

/-- A call of `compare_and_publish` on a store that holds `before`, with what it
returns and the state it leaves. -/
inductive CallAlone (request : StatePublicationRequest sha256) (before : Snapshot sha256) :
    Except Failure (StatePublicationReceipt sha256) → Snapshot sha256 → Prop
  | unavailable (store : CanonicalStore sha256) :
      (∀ transaction, store.beginPublication ≠ .ok (some transaction)) →
      CallAlone request before (store.outcome request) before
  | begun (store : CanonicalStore sha256) (transaction : CanonicalPublicationTransaction sha256)
      {after : Snapshot sha256} : store.beginPublication = .ok (some transaction) →
      transaction.current = before → Leaves transaction (store.handed request) after →
      CallAlone request before (store.outcome request) after

/-- A call that declines with a receipt ended its comparison with it. -/
theorem planned_eq_inl_ok {receipt : StatePublicationReceipt sha256}
    {compared : Except Failure (StatePublicationReceipt sha256 ⊕ Snapshot sha256)} :
    planned compared = .inl (.ok receipt) ↔ compared = .ok (.inl receipt) := by
  cases compared with
  | error failure => exact ⟨nofun, nofun⟩
  | ok found =>
      cases found with
      | inl stale => exact ⟨fun same => by cases same; rfl, fun same => by cases same; rfl⟩
      | inr resultingSnapshot => exact ⟨nofun, nofun⟩

/-- What a call with a transaction hands over is what it plans. -/
theorem storeProtocol_handed {store : CanonicalStore sha256}
    {request : StatePublicationRequest sha256}
    {transaction : CanonicalPublicationTransaction sha256}
    (begun : store.beginPublication = .ok (some transaction)) :
    store.handed request =
      match (storeProtocol sha256).plan request transaction.storageFormat transaction.current with
      | .inl _ => []
      | .inr resultingSnapshot => [resultingSnapshot] := by
  unfold CanonicalStore.handed
  rw [CanonicalStore.run_transaction begun]
  change _ = match planned (compareUnderLock request transaction.current
    transaction.storageFormat) with
    | .inl _ => []
    | .inr resultingSnapshot => [resultingSnapshot]
  cases compareUnderLock request transaction.current transaction.storageFormat with
  | error failure => rfl
  | ok compared => cases compared <;> rfl

/-- The transaction that shows one state in one format and gives one answer. -/
def CanonicalPublicationTransaction.answering (current : Snapshot sha256)
    (storageFormat : StdString) (answer : Except Failure StatePublicationBackendResult) :
    CanonicalPublicationTransaction sha256 where
  current
  storageFormat
  publish := fun _ => answer

section Plan

variable {request : StatePublicationRequest sha256} {before after : Snapshot sha256}
  {storageFormat : StdString} {answer : Except Failure StatePublicationBackendResult}

theorem CallAlone.of_declined {result : Except Failure (StatePublicationReceipt sha256)}
    (plan : (storeProtocol sha256).plan request storageFormat before = .inl result) :
    CallAlone request before result before := by
  let transaction : CanonicalPublicationTransaction sha256 :=
    .answering before storageFormat (.error .outOfRange)
  let store : CanonicalStore sha256 := ⟨.ok (some transaction)⟩
  have begun : store.beginPublication = .ok (some transaction) := rfl
  have planned : (storeProtocol sha256).plan request transaction.storageFormat
      transaction.current = .inl result := plan
  have handed : store.handed request = [] := by
    rw [storeProtocol_handed begun, planned]
  have outcome : store.outcome request = result := by
    rw [storeProtocol_outcome begun, planned]
  exact outcome ▸ .begun _ transaction begun rfl (handed ▸ .nothing)

theorem CallAlone.of_proposed {resultingSnapshot : Snapshot sha256}
    (plan : (storeProtocol sha256).plan request storageFormat before = .inr resultingSnapshot)
    (leaves : Leaves (.answering before storageFormat answer) [resultingSnapshot] after) :
    CallAlone request before ((storeProtocol sha256).conclude request storageFormat before
      resultingSnapshot answer) after := by
  let transaction : CanonicalPublicationTransaction sha256 :=
    .answering before storageFormat answer
  let store : CanonicalStore sha256 := ⟨.ok (some transaction)⟩
  have begun : store.beginPublication = .ok (some transaction) := rfl
  have planned : (storeProtocol sha256).plan request transaction.storageFormat
      transaction.current = .inr resultingSnapshot := plan
  have handed : store.handed request = [resultingSnapshot] := by
    rw [storeProtocol_handed begun, planned]
  have outcome : store.outcome request = (storeProtocol sha256).conclude request storageFormat
      before resultingSnapshot answer := by
    rw [storeProtocol_outcome begun, planned]
    rfl
  exact outcome ▸ .begun _ transaction begun rfl (handed ▸ leaves)

end Plan

/-- An indivisible call of the protocol is a call of `compare_and_publish`. -/
theorem CallAlone.of_atomic {ι : Type} {request : ι → StatePublicationRequest sha256} {call : ι}
    {before after : Snapshot sha256} {result : Except Failure (StatePublicationReceipt sha256)}
    (ran : Atomic (storeProtocol sha256) request call before result after) :
    CallAlone (request call) before result after := by
  cases ran with
  | refused unavailable =>
      obtain ⟨failure, rfl⟩ := unavailable
      exact .unavailable ⟨.error failure⟩ nofun
  | declined storageFormat plan => exact .of_declined plan
  | applied storageFormat answer plan effect => exact .of_proposed plan (.published effect)
  | missed storageFormat answer plan effect => exact .of_proposed plan (.missed effect)

/-! ## Calls that interleave -/

/-- Concurrent publication is linearizable. Every run of the store, whatever the
interleaving and the backend's answers, has one order of its calls in which each
call is a whole call of `compare_and_publish` on the state that the one before it
left: the calls have the results of the run and leave its durable state. At each
moment of the run the calls that have returned are in a front part of the order that
leaves the durable state of that moment, and the calls that have not begun come
behind it. -/
theorem compareAndPublish_linearizable {ι : Type} [DecidableEq ι]
    {request : ι → StatePublicationRequest sha256} {initial : Snapshot sha256} {steps : Nat}
    {run : Nat → System ι StdString (Snapshot sha256)
      (Except Failure StatePublicationBackendResult)
      (Except Failure (StatePublicationReceipt sha256))}
    (ran : Run (storeProtocol sha256) request initial steps run) :
    ∃ log : List (ι × Except Failure (StatePublicationReceipt sha256)),
      (log.map Prod.fst).Nodup ∧
      Serial (fun call => CallAlone (request call)) initial log (run steps).durable ∧
      (∀ call result, (run steps).phase call = .returned result → (call, result) ∈ log) ∧
      ∀ moment ≤ steps, ∃ front back, log = front ++ back ∧
        Serial (fun call => CallAlone (request call)) initial front (run moment).durable ∧
        (∀ call result, (run moment).phase call = .returned result → (call, result) ∈ front) ∧
        ∀ call, (run moment).phase call = .idle → call ∉ front.map Prod.fst := by
  exact ran.simulate id id (fun _ => True) trivial fun call before result after _ ran =>
    ⟨trivial, .of_atomic ran⟩

/-- Two calls in one order, of which one publishes and the other is stale. -/
theorem compareAndPublish_linearizable_rivals :
    ∃ (request : StatePublicationRequest Sha256.hash) (steps : Nat)
      (run : Nat → System Bool StdString (Snapshot Sha256.hash)
        (Except Failure StatePublicationBackendResult)
        (Except Failure (StatePublicationReceipt Sha256.hash)))
      (published stale : StatePublicationReceipt Sha256.hash)
      (log : List (Bool × Except Failure (StatePublicationReceipt Sha256.hash))),
      Run (storeProtocol Sha256.hash) (fun _ => request) (Snapshot.empty Fixture.binding) steps
        run ∧
      published.outcome = .published ∧ stale.outcome = .staleExpectedState ∧
      Serial (fun _ => CallAlone request) (Snapshot.empty Fixture.binding) log
        Fixture.installed ∧
      (true, .ok published) ∈ log ∧ (false, .ok stale) ∈ log := by
  obtain ⟨request, middle, done, published, stale, rivals⟩ := exists_rivals
  obtain ⟨steps, run, ran, rfl⟩ := (rivals.first.later rivals.later).exists_run
  obtain ⟨log, _, serial, results, _⟩ := compareAndPublish_linearizable ran
  exact ⟨request, steps, run, published, stale, log, ran, rivals.outcome, rivals.refused,
    rivals.kept ▸ serial, results true _ rivals.ended, results false _ rivals.late⟩

end Pkgstate
