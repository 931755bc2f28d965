import Pkgstate.StoreAudit

/-!
# What a store is

A store is a register that holds a map from package names to packages, and a call of
`compare_and_publish` is an attempt to set it: the request says which map it expects
and which it would make of it. `store_refines_register` is the refinement: hashes,
receipts, the lock and the interleaving of the calls are gone, and what a caller is told
is all that is left of its receipt.
-/

namespace Pkgstate

open Wire Cpp Keyed LockedUpdate

variable {sha256 : Sha256} {ι : Type} {request : ι → StatePublicationRequest sha256}
  {expected : ι → Snapshot sha256} {initial : Snapshot sha256}

/-- What a result tells its caller about the register. -/
def told : Except Failure (StatePublicationReceipt sha256) → Verdict
  | .error _ => .unknown
  | .ok receipt =>
      match receipt.outcome with
      | .staleExpectedState => .stale
      | .requestRejected | .failedBeforePublication => .missed
      | .published | .publishedDurabilityUnconfirmed => .applied
      | .indeterminate => if receipt.resultingSnapshot = none then .unknown else .applied

/-- The attempt that a request stands for. -/
def attempt (request : StatePublicationRequest sha256) (expected : Snapshot sha256) :
    (StdString → Option (InstalledPackage sha256)) → Verdict →
      (StdString → Option (InstalledPackage sha256)) → Prop :=
  Attempt expected.findPackage (editMap request.deltas.toList expected.findPackage)

/-- The states that the calls can come to, told from their requests. -/
inductive Version (request : ι → StatePublicationRequest sha256) (expected : ι → Snapshot sha256)
    (initial : Snapshot sha256) : Snapshot sha256 → Prop
  | initial : Version request expected initial initial
  | published {call : ι} {state : Snapshot sha256} :
      projectPublicationRequest (request call) (expected call) = .ok state →
      Version request expected initial state

/-- The requests of the calls are made against snapshots of the store's target, and no
hashed records of those and of the states that they lead to collide. -/
structure Versioned (request : ι → StatePublicationRequest sha256)
    (expected : ι → Snapshot sha256) (initial : Snapshot sha256) : Prop where
  made (call : ι) : (request call).MadeAgainst (expected call)
  target (call : ι) : (expected call).targetBinding = initial.targetBinding
  free {state : Snapshot sha256} (call : ι) : Version request expected initial state →
    CollisionFree sha256 (state.records ++ (expected call).records)

section Step

variable {call : ι} {before after : Snapshot sha256}

/-- A receipt that cites a result does not tell that nothing was published. -/
theorem changed_of_atomic {receipt : StatePublicationReceipt sha256}
    (ran : Atomic (storeProtocol sha256) request call before (.ok receipt) after)
    (cites : receipt.resultingSnapshot ≠ none) : ¬ receipt.outcome.unchanged := by
  generalize returned : (Except.ok receipt : Except Failure _) = result at ran
  have concluded {storageFormat : StdString} {resultingSnapshot : Snapshot sha256}
      {answer : Except Failure StatePublicationBackendResult}
      (plan : (storeProtocol sha256).plan (request call) storageFormat before =
        .inr resultingSnapshot)
      (ended : (storeProtocol sha256).conclude (request call) storageFormat before
        resultingSnapshot answer = .ok receipt) : ¬ receipt.outcome.unchanged := by
    obtain ⟨publishable, projected⟩ := plan_eq_inr.mp plan
    rcases bind_eq_ok.mp ended with ⟨result, rfl, built⟩
    obtain ⟨applied, _, untouched⟩ :=
      publishEffect_of_reports (receiptOf_ok publishable.current projected built)
    intro unchanged
    have effect := (applied cites).1.symm.trans (untouched unchanged)
    cases effect
  cases ran with
  | refused unavailable =>
      rcases unavailable with ⟨failure, rfl⟩
      cases returned
  | declined storageFormat plan =>
      rw [← returned] at plan
      exact absurd (plan_eq_inl plan).2.2 cites
  | applied storageFormat answer plan effect => exact concluded plan returned.symm
  | missed storageFormat answer plan effect => exact concluded plan returned.symm

namespace Versioned

/-- Every state is one of the store's target. -/
theorem target_eq (versioned : Versioned request expected initial) {state : Snapshot sha256}
    (version : Version request expected initial state) :
    state.targetBinding = initial.targetBinding := by
  cases version with
  | initial => rfl
  | published projected => exact (project_lookups projected).1.trans (versioned.target _)

/-- A request that finds the identity it expects finds the snapshot it was made against. -/
theorem eq_expected (versioned : Versioned request expected initial)
    (version : Version request expected initial before)
    (current : before.identity = (request call).expectedSnapshot) : before = expected call :=
  Snapshot.eq_of_identity_eq (versioned.free call version) (List.subset_append_left _ _)
    (List.subset_append_right _ _) (current.trans (versioned.made call).expectedSnapshot)

/-- One call is one attempt. -/
theorem attempt_of_atomic (versioned : Versioned request expected initial)
    {result : Except Failure (StatePublicationReceipt sha256)}
    (version : Version request expected initial before)
    (ran : Atomic (storeProtocol sha256) request call before result after) :
    Version request expected initial after ∧
      attempt (request call) (expected call) before.findPackage (told result)
        after.findPackage := by
  have found (current : before.identity = (request call).expectedSnapshot) :
      before.findPackage = (expected call).findPackage := by
    rw [versioned.eq_expected version current]
  have made {next : Snapshot sha256}
      (current : before.identity = (request call).expectedSnapshot)
      (projected : projectPublicationRequest (request call) before = .ok next) :
      next.findPackage =
        editMap (request call).deltas.toList (expected call).findPackage := by
    rw [(project_lookups projected).2, found current]
  constructor
  · rcases atomic_moves ran with rfl | ⟨current, projected⟩
    · exact version
    · exact .published (versioned.eq_expected version current ▸ projected)
  · cases result with
    | error failure =>
        rcases atomic_moves ran with rfl | ⟨current, projected⟩
        · exact .lost
        · exact made current projected ▸ .unseen (found current)
    | ok receipt =>
        rcases (tells_of_atomic ran).2 with ⟨stale, different, _, rfl⟩ |
          ⟨kept, current, _, rfl⟩ | ⟨fresh, current, projected, resulting⟩ |
          ⟨next, unclear, current, projected, nothing, moved⟩
        · simp only [told, stale]
          refine .stale fun same => different ?_
          have equal := Snapshot.ext_findPackage
            ((versioned.target_eq version).trans (versioned.target call).symm) same
          rw [equal, (versioned.made call).expectedSnapshot]
        · rcases kept with outcome | outcome
          all_goals
            simp only [told, outcome]
            exact .missed (found current)
        · have cites : receipt.resultingSnapshot ≠ none := by simp [resulting]
          have changed := changed_of_atomic ran cites
          have applied : told (.ok receipt) = .applied := by
            cases outcome : receipt.outcome <;>
              simp_all [told, StatePublicationOutcome.unchanged]
          rw [applied, made current projected]
          exact .applied (found current)
        · simp only [told, unclear, nothing, if_true]
          rcases moved with rfl | rfl
          · exact .lost
          · exact made current projected ▸ .unseen (found current)

end Versioned

end Step

/-- A store refines a register that is compared and set. Every run of calls, each with a
request that was made against a snapshot of the store's target, has one order of the
calls in which each is one attempt on a map from names to packages: it expects the map of
its snapshot and would leave that map with the edits of its deltas. The verdicts are what
the results tell, the maps are those of the durable states, at every moment of the run,
and real time agrees with the order. -/
theorem store_refines_register [DecidableEq ι] {steps : Nat}
    {run : Nat → System ι StdString (Snapshot sha256)
      (Except Failure StatePublicationBackendResult)
      (Except Failure (StatePublicationReceipt sha256))}
    (versioned : Versioned request expected initial)
    (ran : Run (storeProtocol sha256) request initial steps run) :
    ∃ log : List (ι × Verdict), (log.map Prod.fst).Nodup ∧
      Serial (fun call => attempt (request call) (expected call)) initial.findPackage log
        (run steps).durable.findPackage ∧
      (∀ call result, (run steps).phase call = .returned result → (call, told result) ∈ log) ∧
      ∀ moment ≤ steps, ∃ front back, log = front ++ back ∧
        Serial (fun call => attempt (request call) (expected call)) initial.findPackage front
          (run moment).durable.findPackage ∧
        (∀ call result, (run moment).phase call = .returned result →
          (call, told result) ∈ front) ∧
        ∀ call, (run moment).phase call = .idle → call ∉ front.map Prod.fst :=
  ran.simulate Snapshot.findPackage told (Version request expected initial) .initial
    fun _ _ _ _ => versioned.attempt_of_atomic

/-- Two calls that install one package: one sets the register, and the other is stale. -/
theorem store_refines_register_rivals :
    ∃ (request : StatePublicationRequest Sha256.hash) (log : List (Bool × Verdict)),
      Serial (fun _ : Bool => attempt request (Snapshot.empty Fixture.binding))
        (Snapshot.empty Fixture.binding).findPackage log Fixture.installed.findPackage ∧
      (true, .applied) ∈ log ∧ (false, .stale) ∈ log := by
  obtain ⟨request, _, system, published, stale, rivals⟩ := exists_rivals
  have sample := Fixture.collisionFree_installed
  have versioned : Versioned (fun _ : Bool => request)
      (fun _ => Snapshot.empty Fixture.binding) (Snapshot.empty Fixture.binding) := by
    refine ⟨fun _ => madeAgainst_of_project rivals.projected, fun _ => rfl, ?_⟩
    rintro state _ (_ | projected)
    · exact sample.mono (by simp)
    · cases rivals.projected.symm.trans projected
      exact sample.mono (by simp)
  obtain ⟨steps, run, ran, rfl⟩ := (rivals.first.later rivals.later).exists_run
  obtain ⟨log, _, serial, results, _⟩ := store_refines_register versioned ran
  have applied := results true _ rivals.ended
  have late := results false _ rivals.late
  simp only [told, rivals.outcome] at applied
  simp only [told, rivals.refused] at late
  exact ⟨request, log, rivals.kept ▸ serial, applied, late⟩

end Pkgstate
