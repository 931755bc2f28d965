import Pkgstate.Base.Completion
import Pkgstate.PublicationRetry
import Pkgstate.PublicationUndo
import Pkgstate.StoreLinearization

/-!
# What the receipts of a run tell

`Tells` is what one receipt says about its call, when the calls are taken one at a
time. From it: the receipts of a run are its whole history
(`receipts_auditTrail`), and where a receipt leaves open whether its call
published, the state itself decides (`reread_decides`).
-/

namespace Pkgstate

open Wire Cpp Keyed LockedUpdate

variable {sha256 : Sha256} {ι : Type} {request : ι → StatePublicationRequest sha256}
  {initial : Snapshot sha256}
  {system : System ι StdString (Snapshot sha256) (Except Failure StatePublicationBackendResult)
    (Except Failure (StatePublicationReceipt sha256))}

/-! ## One receipt -/

/-- What the receipt of a call says about the states before and behind it. -/
inductive Tells (request : StatePublicationRequest sha256) (before after : Snapshot sha256)
    (receipt : StatePublicationReceipt sha256) : Prop
  | stale : receipt.outcome = .staleExpectedState →
      before.identity ≠ request.expectedSnapshot → receipt.resultingSnapshot = none →
      after = before → Tells request before after receipt
  | kept : receipt.outcome = .requestRejected ∨ receipt.outcome = .failedBeforePublication →
      before.identity = request.expectedSnapshot → receipt.resultingSnapshot = none →
      after = before → Tells request before after receipt
  | published : receipt.outcome ≠ .staleExpectedState →
      before.identity = request.expectedSnapshot →
      projectPublicationRequest request before = .ok after →
      receipt.resultingSnapshot = some after.identity → Tells request before after receipt
  | unknown (resultingSnapshot : Snapshot sha256) : receipt.outcome = .indeterminate →
      before.identity = request.expectedSnapshot →
      projectPublicationRequest request before = .ok resultingSnapshot →
      receipt.resultingSnapshot = none → after = before ∨ after = resultingSnapshot →
      Tells request before after receipt

/-- A stale receipt cites the state that the call found. -/
theorem plan_eq_inl_prior {request : StatePublicationRequest sha256} {storageFormat : StdString}
    {actualPrior : Snapshot sha256} {receipt : StatePublicationReceipt sha256}
    (declined : (storeProtocol sha256).plan request storageFormat actualPrior =
      .inl (.ok receipt)) : receipt.actualPriorSnapshot = actualPrior.identity := by
  obtain ⟨_, stale⟩ := compareUnderLock_eq_inl (planned_eq_inl_ok.mp declined)
  obtain ⟨_, made⟩ := StatePublicationReceipt.staleExpectedState_ok stale
  exact (StatePublicationReceipt.make_ok made).1.actual

/-- What a backend result does to the state, as its receipt tells it. -/
theorem tells_of_reports {request : StatePublicationRequest sha256} {storageFormat : StdString}
    {before after resultingSnapshot : Snapshot sha256} {result : StatePublicationBackendResult}
    {receipt : StatePublicationReceipt sha256}
    (publishable : Publishable request before storageFormat)
    (projected : projectPublicationRequest request before = .ok resultingSnapshot)
    (reports : Reports receipt request storageFormat before resultingSnapshot result)
    (effect : after = resultingSnapshot ∧ publishEffect (.ok result) ≠ .untouched ∨
      after = before ∧ publishEffect (.ok result) ≠ .applied) :
    Tells request before after receipt := by
  have same := publishable.current.identity
  have outcome := reports.outcome
  have resulting := reports.resulting
  rcases result with ⟨reported, boundary, established, evidence, shape⟩
  cases reported with
  | published | publishedDurabilityUnconfirmed =>
      cases shape.2
      rcases effect with ⟨rfl, _⟩ | ⟨_, missed⟩
      · exact .published (outcome ▸ nofun) same projected resulting
      · exact absurd rfl missed
  | requestRejected =>
      cases shape.2
      rcases effect with ⟨_, applied⟩ | ⟨rfl, _⟩
      · exact absurd rfl applied
      · exact .kept (Or.inl outcome) same resulting rfl
  | failedBeforePublication =>
      cases shape.2
      rcases effect with ⟨_, applied⟩ | ⟨rfl, _⟩
      · exact absurd rfl applied
      · exact .kept (Or.inr outcome) same resulting rfl
  | indeterminate =>
      cases established with
      | true =>
          rcases effect with ⟨rfl, _⟩ | ⟨_, missed⟩
          · exact .published (outcome ▸ nofun) same projected resulting
          · exact absurd rfl missed
      | false =>
          refine .unknown resultingSnapshot outcome same projected resulting ?_
          rcases effect with ⟨applied, _⟩ | ⟨missed, _⟩
          · exact Or.inr applied
          · exact Or.inl missed
  | staleExpectedState => exact shape.elim

/-- A call that returned a receipt did what the receipt tells. -/
theorem tells_of_atomic {call : ι} {before after : Snapshot sha256}
    {receipt : StatePublicationReceipt sha256}
    (ran : Atomic (storeProtocol sha256) request call before (.ok receipt) after) :
    receipt.actualPriorSnapshot = before.identity ∧
      Tells (request call) before after receipt := by
  generalize returned : (Except.ok receipt : Except Failure _) = result at ran
  have concluded {storageFormat : StdString} {resultingSnapshot after : Snapshot sha256}
      {answer : Except Failure StatePublicationBackendResult}
      (plan : (storeProtocol sha256).plan (request call) storageFormat before =
        .inr resultingSnapshot)
      (ended : (storeProtocol sha256).conclude (request call) storageFormat before
        resultingSnapshot answer = .ok receipt)
      (effect : after = resultingSnapshot ∧ publishEffect answer ≠ .untouched ∨
        after = before ∧ publishEffect answer ≠ .applied) :
      receipt.actualPriorSnapshot = before.identity ∧
        Tells (request call) before after receipt := by
    obtain ⟨publishable, projected⟩ := plan_eq_inr.mp plan
    rcases bind_eq_ok.mp ended with ⟨result, rfl, built⟩
    have reports := receiptOf_ok publishable.current projected built
    exact ⟨reports.cites.actual, tells_of_reports publishable projected reports effect⟩
  cases ran with
  | refused unavailable =>
      rcases unavailable with ⟨failure, rfl⟩
      cases returned
  | declined storageFormat plan =>
      rw [← returned] at plan
      obtain ⟨different, outcome, resulting⟩ := plan_eq_inl plan
      exact ⟨plan_eq_inl_prior plan, .stale outcome different resulting rfl⟩
  | applied storageFormat answer plan effect =>
      exact concluded plan returned.symm (Or.inl ⟨rfl, effect⟩)
  | missed storageFormat answer plan effect =>
      exact concluded plan returned.symm (Or.inr ⟨rfl, effect⟩)

/-- A call leaves the state alone or moves the expected state to its projection. -/
theorem atomic_moves {call : ι} {before after : Snapshot sha256}
    {result : Except Failure (StatePublicationReceipt sha256)}
    (ran : Atomic (storeProtocol sha256) request call before result after) :
    after = before ∨ before.identity = (request call).expectedSnapshot ∧
      projectPublicationRequest (request call) before = .ok after := by
  cases ran with
  | refused | declined | missed => exact Or.inl rfl
  | applied storageFormat answer plan effect =>
      obtain ⟨publishable, projected⟩ := plan_eq_inr.mp plan
      exact Or.inr ⟨publishable.current.identity, projected⟩

/-! ## All receipts of a run -/

/-- The receipt that says that its call established a new state. -/
def establishing :
    Except Failure (StatePublicationReceipt sha256) → Option (StatePublicationReceipt sha256)
  | .error _ => none
  | .ok receipt => if receipt.resultingSnapshot = none then none else some receipt

theorem establishing_eq_some {result : Except Failure (StatePublicationReceipt sha256)}
    {receipt : StatePublicationReceipt sha256} :
    establishing result = some receipt ↔
      result = .ok receipt ∧ receipt.resultingSnapshot ≠ none := by
  unfold establishing
  cases result with
  | error failure => exact ⟨nofun, nofun⟩
  | ok other =>
      change (if other.resultingSnapshot = none then none else some other) = some receipt ↔ _
      by_cases nothing : other.resultingSnapshot = none
      · rw [if_pos nothing]
        refine ⟨nofun, ?_⟩
        rintro ⟨⟨⟩, some⟩
        exact absurd nothing some
      · rw [if_neg nothing, Option.some_inj, Except.ok.injEq]
        refine ⟨fun same => ⟨same, same ▸ nothing⟩, And.left⟩

/-- An entry of an audit trail: the receipt links the state that its request expects
to the state that the request projects onto it. -/
structure Establishes (request : StatePublicationRequest sha256) (before : Snapshot sha256)
    (receipt : StatePublicationReceipt sha256) (after : Snapshot sha256) : Prop where
  prior : receipt.actualPriorSnapshot = before.identity
  expected : before.identity = request.expectedSnapshot
  projected : projectPublicationRequest request before = .ok after
  resulting : receipt.resultingSnapshot = some after.identity

/-- The receipts of a run are its whole history. When no call is under way and every
call that returned has a receipt that leaves nothing open, the receipts that cite a
result can be put in an order in which each is the projection of its request from the
state that the one before it cites, from the initial to the durable state. -/
theorem receipts_auditTrail [DecidableEq ι]
    (reached : Reachable (storeProtocol sha256) request initial system)
    (free : system.holder = none)
    (answered : ∀ call result, system.phase call = .returned result →
      ∃ receipt, result = .ok receipt ∧
        (receipt.outcome = .indeterminate → receipt.resultingSnapshot ≠ none)) :
    ∃ trail : List (ι × StatePublicationReceipt sha256),
      (trail.map Prod.fst).Nodup ∧
      (∀ call receipt, (call, receipt) ∈ trail ↔
        system.phase call = .returned (.ok receipt) ∧ receipt.resultingSnapshot ≠ none) ∧
      Serial (fun call => Establishes (request call)) initial trail system.durable := by
  obtain ⟨log, linear⟩ := reached.linearizes
  have returned {call : ι} {result : Except Failure (StatePublicationReceipt sha256)} :
      (call, result) ∈ log ↔ system.phase call = .returned result :=
    linear.mem_iff_returned reached.invariant free
  refine ⟨log.filterMap fun entry => (establishing entry.2).map (Prod.mk entry.1), ?_, ?_, ?_⟩
  · exact linear.once.sublist (map_fst_filterMap_sublist _ log)
  · intro call receipt
    rw [List.mem_filterMap]
    constructor
    · intro ⟨⟨other, result⟩, member, picked⟩
      obtain ⟨kept, chosen, same⟩ := Option.map_eq_some_iff.mp picked
      cases same
      obtain ⟨rfl, cites⟩ := establishing_eq_some.mp chosen
      exact ⟨returned.mp member, cites⟩
    · intro ⟨ended, cites⟩
      refine ⟨_, returned.mpr ended, ?_⟩
      rw [establishing_eq_some.mpr ⟨rfl, cites⟩, Option.map_some]
  · apply linear.serial.filterMap
    intro call before result after member ran
    obtain ⟨receipt, rfl, settled⟩ := answered call result (returned.mp member)
    obtain ⟨prior, tells⟩ := tells_of_atomic ran
    rcases tells with ⟨_, _, nothing, same⟩ | ⟨_, _, nothing, same⟩ |
      ⟨_, expected, projected, resulting⟩ | ⟨_, unclear, _, _, nothing, _⟩
    · exact Or.inr ⟨if_pos nothing, same⟩
    · exact Or.inr ⟨if_pos nothing, same⟩
    · refine Or.inl ⟨receipt, ?_, prior, expected, projected, resulting⟩
      rw [establishing_eq_some, resulting]
      exact ⟨rfl, nofun⟩
    · exact absurd nothing (settled unclear)

theorem receipts_auditTrail_rivals :
    ∃ (request : StatePublicationRequest Sha256.hash)
      (trail : List (Bool × StatePublicationReceipt Sha256.hash))
      (receipt : StatePublicationReceipt Sha256.hash),
      (true, receipt) ∈ trail ∧ receipt.outcome = .published ∧
      Serial (fun _ => Establishes request) (Snapshot.empty Fixture.binding) trail
        Fixture.installed := by
  obtain ⟨request, _, system, published, stale, rivals⟩ := exists_rivals
  have answered : ∀ call result, system.phase call = .returned result →
      ∃ receipt, result = .ok receipt ∧
        (receipt.outcome = .indeterminate → receipt.resultingSnapshot ≠ none) := by
    intro call result returned
    cases call with
    | true =>
        cases rivals.ended.symm.trans returned
        exact ⟨published, rfl, rivals.outcome ▸ nofun⟩
    | false =>
        cases rivals.late.symm.trans returned
        exact ⟨stale, rfl, rivals.refused ▸ nofun⟩
  obtain ⟨trail, _, entries, serial⟩ :=
    receipts_auditTrail (rivals.first.later rivals.later) rivals.free answered
  have cites : published.resultingSnapshot ≠ none := rivals.resulting ▸ nofun
  exact ⟨request, trail, published, (entries true published).mpr ⟨rivals.ended, cites⟩,
    rivals.outcome, rivals.kept ▸ serial⟩

/-! ## What a receipt leaves open -/

/-- While only one call changes the state, either it changes nothing or the state is
what its request projects. -/
theorem alone_cases [DecidableEq ι] {call : ι}
    {later : System ι StdString (Snapshot sha256)
      (Except Failure StatePublicationBackendResult)
      (Except Failure (StatePublicationReceipt sha256))}
    (reached : Reachable (storeProtocol sha256) request initial system)
    (idle : system.phase call = .idle)
    (run : Later (storeProtocol sha256) request system later)
    (alone : ∀ more, later.changes = system.changes ++ more → ∀ change ∈ more,
      change.call = call) :
    Silent later.changes call ∧ later.durable = system.durable ∨
      (∃ change ∈ later.changes, change.call = call) ∧
        projectPublicationRequest (request call) system.durable = .ok later.durable := by
  have invariant := (reached.later run).invariant
  have silent : Silent system.changes call := reached.invariant.held idle
  obtain ⟨more, grown⟩ := changes_grow run
  have mine := alone more grown.symm
  have chain := invariant.chain
  rw [← grown] at chain
  have tail := chain.drop reached.invariant.chain
  cases more with
  | nil =>
      rw [List.append_nil] at grown
      exact Or.inl ⟨grown ▸ silent, tail.symm⟩
  | cons change rest =>
      -- A second change would be the same call's.
      have only : rest = [] := by
        cases rest with
        | nil => rfl
        | cons second others =>
            have distinct := invariant.once
            rw [← grown, List.map_append] at distinct
            have pair := (List.nodup_append.mp distinct).2.1
            rw [List.map_cons, List.map_cons, mine change List.mem_cons_self,
              mine second (List.mem_cons_of_mem _ List.mem_cons_self)] at pair
            exact absurd List.mem_cons_self (List.nodup_cons.mp pair).1
      subst only
      obtain ⟨before, after⟩ := tail
      have member : change ∈ later.changes :=
        grown ▸ List.mem_append_right _ (List.mem_singleton_self change)
      obtain ⟨storageFormat, planned⟩ := invariant.planned change member
      have projected := (plan_eq_inr.mp planned).2
      rw [mine change List.mem_cons_self, before, show change.after = later.durable from after]
        at projected
      exact Or.inr ⟨⟨change, member, mine change List.mem_cons_self⟩, projected⟩

/-- A reread decides. Whatever a call returned or threw, and whether it has returned
at all: as long as no other call has changed the state that it began on, which is the
one its request expects, the identity of the durable state tells whether the call has
published. -/
theorem reread_decides [DecidableEq ι] {call : ι}
    {later : System ι StdString (Snapshot sha256)
      (Except Failure StatePublicationBackendResult)
      (Except Failure (StatePublicationReceipt sha256))}
    (reached : Reachable (storeProtocol sha256) request initial system)
    (idle : system.phase call = .idle)
    (current : system.durable.identity = (request call).expectedSnapshot)
    (free : ∀ next, projectPublicationRequest (request call) system.durable = .ok next →
      CollisionFree sha256 (system.durable.records ++ next.records))
    (run : Later (storeProtocol sha256) request system later)
    (alone : ∀ more, later.changes = system.changes ++ more → ∀ change ∈ more,
      change.call = call) :
    ((∀ change ∈ later.changes, change.call ≠ call) ↔
      later.durable.identity = (request call).expectedSnapshot) ∧
    ((∃ change ∈ later.changes, change.call = call) ↔
      ∃ next, projectPublicationRequest (request call) system.durable = .ok next ∧
        later.durable.identity = next.identity) := by
  have differs {next : Snapshot sha256}
      (projected : projectPublicationRequest (request call) system.durable = .ok next) :
      next.identity ≠ system.durable.identity :=
    project_identity_ne projected (free next projected)
  rw [← current]
  rcases alone_cases reached idle run alone with ⟨silent, same⟩ | ⟨published, projected⟩
  · refine ⟨iff_of_true silent (congrArg Snapshot.identity same), iff_of_false ?_ ?_⟩
    · intro ⟨change, member, mine⟩
      exact silent change member mine
    · intro ⟨next, projected, identity⟩
      rw [same] at identity
      exact differs projected identity.symm
  · refine ⟨iff_of_false ?_ (differs projected), iff_of_true published ⟨_, projected, rfl⟩⟩
    intro silent
    obtain ⟨change, member, mine⟩ := published
    exact silent change member mine

theorem reread_decides_rivals :
    ∃ (request : StatePublicationRequest Sha256.hash)
      (system : System Bool StdString (Snapshot Sha256.hash)
        (Except Failure StatePublicationBackendResult)
        (Except Failure (StatePublicationReceipt Sha256.hash))),
      Reachable (storeProtocol Sha256.hash) (fun _ => request) (Snapshot.empty Fixture.binding)
        system ∧
      ((∀ change ∈ system.changes, change.call ≠ true) ↔
        system.durable.identity = request.expectedSnapshot) := by
  obtain ⟨request, _, system, _, _, rivals⟩ := exists_rivals
  have reached := rivals.first.later rivals.later
  have expects := (StatePublicationRequest.make_ok rivals.built).1.expectedSnapshot
  have fresh : Reachable (storeProtocol Sha256.hash) (fun _ : Bool => request)
      (Snapshot.empty Fixture.binding) (.initial (Snapshot.empty Fixture.binding)) :=
    .initial
  have idle : (System.initial (Snapshot.empty Fixture.binding) : System Bool StdString _
      (Except Failure StatePublicationBackendResult)
      (Except Failure (StatePublicationReceipt Sha256.hash))).phase true = .idle := rfl
  refine ⟨request, system, reached, (reread_decides fresh idle expects.symm ?_
    reached.later_initial ?_).1⟩
  · intro next projected
    cases rivals.projected.symm.trans projected
    exact Fixture.collisionFree_installed
  · intro more grown change member
    have recorded : system.changes = more := grown
    rw [← recorded, rivals.recorded, rivals.changes] at member
    rw [List.mem_singleton.mp member]

end Pkgstate
