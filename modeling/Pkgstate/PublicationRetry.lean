import Pkgstate.StoreConcurrency

/-!
# Retrying a publication

What a request projects differs from what it projects onto, and so do their
identities (`project_identity_ne`). Once a request is published, its expected state
is gone, and the same request can only be refused as stale until something else is
published.
-/

namespace Pkgstate

open Wire Cpp Keyed LockedUpdate

variable {sha256 : Sha256}

/-- A call that finds another state than the expected one hands nothing over. -/
theorem CanonicalStore.handed_of_stale {store : CanonicalStore sha256}
    {request : StatePublicationRequest sha256}
    {transaction : CanonicalPublicationTransaction sha256}
    (begun : store.beginPublication = .ok (some transaction))
    (different : transaction.current.identity ≠ request.expectedSnapshot) :
    store.handed request = [] := by
  rcases handed_cases store request with none | ⟨other, _, again, publishable, _⟩
  · exact none
  · rw [begun] at again
    cases again
    exact absurd publishable.current.identity different

section Runs

variable {ι : Type} [DecidableEq ι] {requests : ι → StatePublicationRequest sha256}
  {initial : Snapshot sha256}
  {system : System ι StdString (Snapshot sha256) (Except Failure StatePublicationBackendResult)
    (Except Failure (StatePublicationReceipt sha256))}

/-- After a change, the durable state has the target of the published request and
is not the state that the request expects. -/
theorem durable_stale {earlier : List (Change ι (Snapshot sha256))}
    {change : Change ι (Snapshot sha256)}
    (reached : Reachable (storeProtocol sha256) requests initial system)
    (last : system.changes = earlier ++ [change])
    (free : CollisionFree sha256 (change.before.records ++ change.after.records)) :
    system.durable.targetBinding = (requests change.call).targetBinding ∧
      system.durable.identity ≠ (requests change.call).expectedSnapshot := by
  have invariant := reached.invariant
  have chain := invariant.chain
  rw [last] at chain
  obtain ⟨storageFormat, planned⟩ := invariant.planned change
    (last ▸ List.mem_append_right _ (List.mem_singleton_self _))
  obtain ⟨publishable, projected⟩ := plan_eq_inr.mp planned
  rw [← chain.last]
  refine ⟨(project_lookups projected).1.trans publishable.current.target, ?_⟩
  rw [← publishable.current.identity]
  exact project_identity_ne projected free

/-- A call that begins on another state than the one its request expects never gets
to `publish` before a change, and any receipt it returns is stale. -/
theorem later_stale {again : ι}
    {later : System ι StdString (Snapshot sha256)
      (Except Failure StatePublicationBackendResult)
      (Except Failure (StatePublicationReceipt sha256))}
    (target : system.durable.targetBinding = (requests again).targetBinding)
    (different : system.durable.identity ≠ (requests again).expectedSnapshot)
    (idle : system.phase again = .idle)
    (run : Later (storeProtocol sha256) requests system later)
    (quiet : later.changes = system.changes) :
    (∀ storageFormat prior next, later.phase again ≠ .planned storageFormat prior next) ∧
    (∀ storageFormat prior next report,
      later.phase again ≠ .attempted storageFormat prior next report) ∧
    (∀ storageFormat prior, later.phase again = .read storageFormat prior →
      LineSafe storageFormat.bytes → ∃ receipt,
        (storeProtocol sha256).plan (requests again) storageFormat prior = .inl (.ok receipt)) ∧
    ∀ receipt, later.phase again = .returned (.ok receipt) →
      receipt.outcome = .staleExpectedState := by
  have declines (storageFormat : StdString) (final : Snapshot sha256) :
      (storeProtocol sha256).plan (requests again) storageFormat system.durable ≠ .inr final := by
    intro planned
    exact different (plan_eq_inr.mp planned).1.current.identity
  have declining := (declining_of_later run idle declines quiet).2
  refine ⟨?_, ?_, ?_, ?_⟩
  · intro storageFormat prior next planned
    rw [planned] at declining
    exact declining
  · intro storageFormat prior next report attempted
    rw [attempted] at declining
    exact declining
  · intro storageFormat prior read formatted
    rw [read] at declining
    cases declining
    obtain ⟨receipt, compared, _⟩ := compareUnderLock_of_stale formatted target different
    refine ⟨receipt, ?_⟩
    change planned (compareUnderLock (requests again) system.durable storageFormat) = _
    rw [compared]
    rfl
  · intro receipt returned
    rw [returned] at declining
    rcases declining with ⟨failure, impossible⟩ | ⟨storageFormat, declined⟩
    · cases impossible
    · exact (plan_eq_inl declined).2.1

/-- A publication is never a no-op, so a blind retry is always refused. The
projection of a request has another identity than the snapshot the request was
made against. In every run, once a call with the request has changed the state,
`compare_and_publish` with it on that state reaches no `publish` and gives a
stale receipt; and a call with it that begins there never gets to `publish`
before another change, and any receipt it returns is stale. -/
theorem publication_neverNoop {expected : Snapshot sha256}
    {deltas : StdVector (PackageStateDelta sha256)}
    {transactionEvidence : Option TransactionEvidenceIdentity}
    {request : StatePublicationRequest sha256}
    (built : StatePublicationRequest.make expected deltas transactionEvidence = .ok request)
    (free : CollisionFree sha256
      (expected.records ++ request.proposedPackages.flatMap InstalledPackage.records)) :
    (∃ result, projectPublicationRequest request expected = .ok result ∧
      (CollisionFree sha256 (expected.records ++ result.records) →
        result.identity ≠ expected.identity)) ∧
    ∀ {ι : Type} [DecidableEq ι] (requests : ι → StatePublicationRequest sha256)
      (initial : Snapshot sha256)
      (system : System ι StdString (Snapshot sha256)
        (Except Failure StatePublicationBackendResult)
        (Except Failure (StatePublicationReceipt sha256)))
      (earlier : List (Change ι (Snapshot sha256))) (change : Change ι (Snapshot sha256)),
      Reachable (storeProtocol sha256) requests initial system →
      system.changes = earlier ++ [change] → requests change.call = request →
      CollisionFree sha256 (change.before.records ++ change.after.records) →
      (∀ (store : CanonicalStore sha256) (transaction : CanonicalPublicationTransaction sha256),
        store.beginPublication = .ok (some transaction) →
        transaction.current = system.durable →
        store.handed request = [] ∧
        (LineSafe transaction.storageFormat.bytes → ∃ receipt,
          store.outcome request = .ok receipt ∧ receipt.outcome = .staleExpectedState)) ∧
      ∀ again later, requests again = request → system.phase again = .idle →
        Later (storeProtocol sha256) requests system later → later.changes = system.changes →
        (∀ storageFormat prior next, later.phase again ≠ .planned storageFormat prior next) ∧
        (∀ storageFormat prior next report,
          later.phase again ≠ .attempted storageFormat prior next report) ∧
        (∀ storageFormat prior, later.phase again = .read storageFormat prior →
          LineSafe storageFormat.bytes → ∃ receipt,
            (storeProtocol sha256).plan request storageFormat prior = .inl (.ok receipt)) ∧
        ∀ receipt, later.phase again = .returned (.ok receipt) →
          receipt.outcome = .staleExpectedState := by
  refine ⟨?_, ?_⟩
  · have hashed : ∀ package ∈ expected.packages ++ request.proposedPackages,
        package.records ⊆
          expected.records ++ request.proposedPackages.flatMap InstalledPackage.records := by
      intro package member record inPackage
      rcases List.mem_append.mp member with old | new
      · exact List.mem_append_left _ (Snapshot.packages_mem_records old inPackage)
      · exact List.mem_append_right _ (List.mem_flatMap.mpr ⟨package, new, inPackage⟩)
    obtain ⟨result, projected, _⟩ := project_madeAgainst
      (StatePublicationRequest.make_ok built).1
      (Snapshot.distinctIdentities_of_collisionFree free hashed)
    exact ⟨result, projected, project_identity_ne projected⟩
  · intro ι _ requests initial system earlier change reached last same unique
    obtain ⟨target, different⟩ := durable_stale reached last unique
    rw [same] at target different
    refine ⟨?_, ?_⟩
    · intro store transaction begun here
      rw [← here] at target different
      refine ⟨CanonicalStore.handed_of_stale begun different, ?_⟩
      intro formatted
      exact (CanonicalStore.run_stale begun formatted target different).2
    · intro again later retries idle run quiet
      rw [← retries] at target different
      have stale := later_stale target different idle run quiet
      rwa [retries] at stale

end Runs

/-- The second of two calls with one request is a retry: it returns a stale receipt, as
does a call that has the store for itself. -/
theorem publication_neverNoop_rivals :
    ∃ (request : StatePublicationRequest Sha256.hash)
      (middle done : System Bool StdString (Snapshot Sha256.hash)
        (Except Failure StatePublicationBackendResult)
        (Except Failure (StatePublicationReceipt Sha256.hash)))
      (store : CanonicalStore Sha256.hash) (stale alone : StatePublicationReceipt Sha256.hash),
      projectPublicationRequest request (Snapshot.empty Fixture.binding) =
        .ok Fixture.installed ∧
      Fixture.installed.identity ≠ (Snapshot.empty Fixture.binding).identity ∧
      Reachable (storeProtocol Sha256.hash) (fun _ => request) (Snapshot.empty Fixture.binding)
        middle ∧
      middle.changes = [⟨true, Snapshot.empty Fixture.binding, Fixture.installed⟩] ∧
      Later (storeProtocol Sha256.hash) (fun _ => request) middle done ∧
      done.phase false = .returned (.ok stale) ∧ stale.outcome = .staleExpectedState ∧
      store.handed request = [] ∧ store.outcome request = .ok alone ∧
      alone.outcome = .staleExpectedState := by
  obtain ⟨request, middle, done, _, stale, rivals⟩ := exists_rivals
  have proposed : request.proposedPackages.Perm [Fixture.package] :=
    StatePublicationRequest.proposedPackages_perm rivals.built
  have sample := Fixture.collisionFree_installed
  have free : CollisionFree Sha256.hash ((Snapshot.empty Fixture.binding).records ++
      request.proposedPackages.flatMap InstalledPackage.records) := by
    apply sample.mono
    rw [List.perm_singleton.mp proposed]
    refine List.append_subset.mpr ⟨List.subset_append_left _ _, ?_⟩
    refine List.Subset.trans ?_ (List.subset_append_right _ _)
    rw [List.flatMap_singleton]
    have member : Fixture.package ∈ Fixture.installed.packages := List.mem_singleton_self _
    exact Snapshot.packages_mem_records member
  obtain ⟨⟨result, projected, differs⟩, retries⟩ := publication_neverNoop rivals.built free
  cases projected.symm.trans rivals.projected
  obtain ⟨undisturbed, interleaved⟩ := retries _ _ middle [] _ rivals.first rivals.changes rfl
    sample
  let transaction : CanonicalPublicationTransaction Sha256.hash :=
    { storageFormat := Fixture.storageFormat
      current := Fixture.installed
      publish := fun _ => .ok .generationSelected }
  obtain ⟨nothing, answered⟩ := undisturbed ⟨.ok (some transaction)⟩ transaction rfl
    rivals.durable.symm
  obtain ⟨alone, outcome, refused⟩ := answered Fixture.lineSafe_storageFormat
  obtain ⟨_, _, _, receipts⟩ := interleaved false done rfl rivals.idle rivals.later
    rivals.recorded
  exact ⟨request, middle, done, _, stale, alone, rivals.projected, differs sample, rivals.first,
    rivals.changes, rivals.later, rivals.late, receipts stale rivals.late, nothing, outcome,
    refused⟩

end Pkgstate
