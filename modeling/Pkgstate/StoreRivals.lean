import Pkgstate.ReceiptCoherence
import Pkgstate.StoreAudit

/-!
# Rivals

Calls whose requests all expect the same state. The first that publishes wins: the
state is then another than the one that the others expect, and stays that way.
`Contest` is how the contest stands while the calls take their places in the order
of `Base.Linearization`.
-/

namespace Pkgstate

open Wire Cpp Keyed LockedUpdate

variable {sha256 : Sha256} {ι : Type} {request : ι → StatePublicationRequest sha256}
  {initial : Snapshot sha256}

/-- How a contest stands. Before a call has published, no receipt is stale and none
confirms a publication; afterwards every stale receipt cites the winner's result. -/
inductive Contest (request : ι → StatePublicationRequest sha256) (initial : Snapshot sha256)
    (log : List (ι × Except Failure (StatePublicationReceipt sha256)))
    (last : Snapshot sha256) : Prop
  | undecided : last = initial →
      (∀ call receipt, (call, .ok receipt) ∈ log →
        receipt.outcome ≠ .staleExpectedState ∧ ¬ receipt.outcome.Changed) →
      Contest request initial log last
  | decided (winner : ι) (result : Except Failure (StatePublicationReceipt sha256)) :
      (winner, result) ∈ log → projectPublicationRequest (request winner) initial = .ok last →
      (∀ receipt, result = .ok receipt → receipt.outcome ≠ .staleExpectedState ∧
        (receipt.outcome.Changed → receipt.resultingSnapshot = some last.identity)) →
      (∀ call receipt, (call, .ok receipt) ∈ log → call ≠ winner →
        ¬ receipt.outcome.Changed ∧
        (receipt.outcome = .staleExpectedState →
          receipt.actualPriorSnapshot = last.identity)) →
      Contest request initial log last

section Contest

variable (rivals : ∀ call, (request call).expectedSnapshot = initial.identity)
  (free : ∀ call next, projectPublicationRequest (request call) initial = .ok next →
    CollisionFree sha256 (initial.records ++ next.records))

include rivals in
/-- A call on the contested state publishes, or says neither that it is stale nor that
it has published. -/
theorem contest_opening {call : ι} {after : Snapshot sha256}
    {result : Except Failure (StatePublicationReceipt sha256)}
    (ran : Atomic (storeProtocol sha256) request call initial result after) :
    (∀ receipt, result = .ok receipt → receipt.outcome ≠ .staleExpectedState ∧
      (receipt.outcome.Changed → receipt.resultingSnapshot = some after.identity)) ∧
    (after = initial → ∀ receipt, result = .ok receipt → ¬ receipt.outcome.Changed) := by
  have changed {receipt : StatePublicationReceipt sha256}
      (other : receipt.outcome ≠ .published) (another :
        receipt.outcome ≠ .publishedDurabilityUnconfirmed) : ¬ receipt.outcome.Changed :=
    fun changed => changed.elim other another
  constructor
  · rintro receipt rfl
    rcases (tells_of_atomic ran).2 with ⟨_, different, _⟩ | ⟨kept, _⟩ |
      ⟨fresh, _, _, resulting⟩ | ⟨_, unclear, _⟩
    · exact absurd (rivals call).symm different
    · refine ⟨?_, fun published => absurd published (changed ?_ ?_)⟩
      all_goals rcases kept with outcome | outcome <;> rw [outcome] <;> nofun
    · exact ⟨fresh, fun _ => resulting⟩
    · refine ⟨unclear ▸ nofun, fun published => absurd published (changed ?_ ?_)⟩
      all_goals rw [unclear]; nofun
  · rintro rfl receipt rfl
    rcases (tells_of_atomic ran).2 with ⟨_, different, _⟩ | ⟨kept, _⟩ |
      ⟨_, _, projected, _⟩ | ⟨_, unclear, _⟩
    · exact absurd (rivals call).symm different
    · apply changed
      all_goals rcases kept with outcome | outcome <;> rw [outcome] <;> nofun
    · exact absurd rfl (project_ne projected)
    · apply changed <;> rw [unclear] <;> nofun

/-- On another state every call leaves it alone and, at most, says that it is stale. -/
theorem contest_over {call : ι} {last after : Snapshot sha256}
    {result : Except Failure (StatePublicationReceipt sha256)}
    (different : last.identity ≠ (request call).expectedSnapshot)
    (ran : Atomic (storeProtocol sha256) request call last result after) :
    after = last ∧ ∀ receipt, result = .ok receipt →
      ¬ receipt.outcome.Changed ∧ receipt.actualPriorSnapshot = last.identity := by
  constructor
  · rcases atomic_moves ran with same | ⟨expected, _⟩
    · exact same
    · exact absurd expected different
  · rintro receipt rfl
    obtain ⟨prior, tells⟩ := tells_of_atomic ran
    rcases tells with ⟨stale, _⟩ | ⟨_, expected, _⟩ | ⟨_, expected, _⟩ | ⟨_, _, expected, _⟩
    · refine ⟨?_, prior⟩
      rw [stale]
      intro changed
      rcases changed with impossible | impossible <;> cases impossible
    all_goals exact absurd expected different

include rivals free in
/-- The contest is undecided or decided after any number of calls. -/
theorem contest_of_serial {log : List (ι × Except Failure (StatePublicationReceipt sha256))}
    {last : Snapshot sha256}
    (serial : Serial (Atomic (storeProtocol sha256) request) initial log last) :
    Contest request initial log last := by
  induction serial with
  | nil => exact .undecided rfl fun call receipt member => absurd member List.not_mem_nil
  | @concat log last next call result _ ran ih =>
      have cases_mem {other : ι} {receipt : StatePublicationReceipt sha256}
          (member : (other, .ok receipt) ∈ log ++ [(call, result)]) :
          (other, .ok receipt) ∈ log ∨ other = call ∧ result = .ok receipt := by
        rcases List.mem_append.mp member with old | new
        · exact Or.inl old
        · cases List.mem_singleton.mp new
          exact Or.inr ⟨rfl, rfl⟩
      have last_mem : (call, result) ∈ log ++ [(call, result)] :=
        List.mem_append_right _ (List.mem_singleton_self _)
      rcases ih with ⟨rfl, nobody⟩ | ⟨winner, prize, won, projected, told, others⟩
      · obtain ⟨said, quiet⟩ := contest_opening rivals ran
        rcases atomic_moves ran with rfl | ⟨_, projected⟩
        · refine .undecided rfl fun other receipt member => ?_
          rcases cases_mem member with old | ⟨_, here⟩
          · exact nobody other receipt old
          · exact ⟨(said receipt here).1, quiet rfl receipt here⟩
        · refine .decided call result last_mem projected said fun other receipt member apart => ?_
          rcases cases_mem member with old | ⟨here, _⟩
          · obtain ⟨fresh, unchanged⟩ := nobody other receipt old
            exact ⟨unchanged, fun stale => absurd stale fresh⟩
          · exact absurd here apart
      · have different : last.identity ≠ (request call).expectedSnapshot := by
          rw [rivals call]
          exact project_identity_ne projected (free winner last projected)
        obtain ⟨rfl, said⟩ := contest_over different ran
        refine .decided winner prize (List.mem_append_left _ won) projected told
          fun other receipt member apart => ?_
        rcases cases_mem member with old | ⟨_, here⟩
        · exact others other receipt old apart
        · exact ⟨(said receipt here).1, fun _ => (said receipt here).2⟩

end Contest

/-! ## The end of the contest -/

section Runs

variable [DecidableEq ι]
  {system : System ι StdString (Snapshot sha256) (Except Failure StatePublicationBackendResult)
    (Except Failure (StatePublicationReceipt sha256))}

/-- The contested state is left at most once. -/
theorem length_changes_le_one
    (rivals : ∀ call, (request call).expectedSnapshot = initial.identity)
    (free : ∀ call next, projectPublicationRequest (request call) initial = .ok next →
      CollisionFree sha256 (initial.records ++ next.records))
    (reached : Reachable (storeProtocol sha256) request initial system) :
    system.changes.length ≤ 1 := by
  have invariant := reached.invariant
  have chain := invariant.chain
  have planned := invariant.planned
  cases changes : system.changes with
  | nil => exact Nat.zero_le 1
  | cons first rest =>
      cases rest with
      | nil => exact Nat.le_refl 1
      | cons second others =>
          rw [changes] at chain planned
          obtain ⟨start, next, _⟩ := chain
          obtain ⟨_, firstPlan⟩ := planned first List.mem_cons_self
          obtain ⟨_, secondPlan⟩ := planned second (List.mem_cons_of_mem _ List.mem_cons_self)
          have projected := (plan_eq_inr.mp firstPlan).2
          have expected := (plan_eq_inr.mp secondPlan).1.current.identity
          rw [start] at projected
          rw [rivals, next] at expected
          exact absurd expected (project_identity_ne projected (free _ _ projected))

/-- One of the rivals wins. In every run of finitely many calls whose requests all
expect the initial state, there are at most six steps for each call and at most one
change. A run that cannot go on and whose receipts are published or stale has exactly
one published receipt: the durable state is the projection of the winner's request
and is what its receipt cites, and every other call is told that it is stale and cites
that state. -/
theorem rivals_oneWinner [Fintype ι] [Nonempty ι] {steps : Nat}
    {run : Nat → System ι StdString (Snapshot sha256)
      (Except Failure StatePublicationBackendResult)
      (Except Failure (StatePublicationReceipt sha256))}
    (rivals : ∀ call, (request call).expectedSnapshot = initial.identity)
    (free : ∀ call next, projectPublicationRequest (request call) initial = .ok next →
      CollisionFree sha256 (initial.records ++ next.records))
    (ran : Run (storeProtocol sha256) request initial steps run) :
    steps ≤ 6 * Fintype.card ι ∧ (run steps).changes.length ≤ 1 ∧
    ((∀ next, ¬ Step (storeProtocol sha256) request (run steps) next) →
      (∀ call result, (run steps).phase call = .returned result → ∃ receipt,
        result = .ok receipt ∧
          (receipt.outcome.Changed ∨ receipt.outcome = .staleExpectedState)) →
      ∃ winner receipt, (run steps).phase winner = .returned (.ok receipt) ∧
        receipt.outcome.Changed ∧
        receipt.resultingSnapshot = some (run steps).durable.identity ∧
        projectPublicationRequest (request winner) initial = .ok (run steps).durable ∧
        ∀ other, other ≠ winner → ∃ stale,
          (run steps).phase other = .returned (.ok stale) ∧
          stale.outcome = .staleExpectedState ∧
          stale.actualPriorSnapshot = (run steps).durable.identity) := by
  have reached := ran.reachable
  refine ⟨ran.length_le, length_changes_le_one rivals free reached, ?_⟩
  intro stuck answered
  have : Nonempty StdString := ⟨⟨[], by decide⟩⟩
  have : Nonempty (Except Failure StatePublicationBackendResult) := ⟨.error .outOfRange⟩
  obtain ⟨unlocked, returns⟩ := reached.returned_of_stuck stuck
  obtain ⟨log, linear⟩ := reached.linearizes
  have entry {call : ι} {receipt : StatePublicationReceipt sha256}
      (returned : (run steps).phase call = .returned (.ok receipt)) :
      (call, .ok receipt) ∈ log := linear.mem_of_returned returned
  have receipts (call : ι) : ∃ receipt, (run steps).phase call = .returned (.ok receipt) ∧
      (receipt.outcome.Changed ∨ receipt.outcome = .staleExpectedState) := by
    obtain ⟨result, returned⟩ := returns call
    obtain ⟨receipt, rfl, told⟩ := answered call result returned
    exact ⟨receipt, returned, told⟩
  rcases contest_of_serial rivals free linear.serial with ⟨_, nobody⟩ |
    ⟨winner, prize, won, projected, told, others⟩
  · -- Any call at all has a receipt that an undecided contest does not give.
    obtain ⟨call⟩ := ‹Nonempty ι›
    obtain ⟨receipt, returned, changed | stale⟩ := receipts call
    · exact absurd changed (nobody call receipt (entry returned)).2
    · exact absurd stale (nobody call receipt (entry returned)).1
  · have ended := (linear.mem_iff_returned reached.invariant unlocked).mp won
    obtain ⟨receipt, rfl, kinds⟩ := answered winner prize ended
    obtain ⟨fresh, cites⟩ := told receipt rfl
    have changed := kinds.resolve_right fresh
    refine ⟨winner, receipt, ended, changed, cites changed, projected, ?_⟩
    intro other apart
    obtain ⟨stale, returned, outcome⟩ := receipts other
    obtain ⟨unchanged, prior⟩ := others other stale (entry returned) apart
    have late := outcome.resolve_left unchanged
    exact ⟨stale, returned, late, prior late⟩

end Runs

theorem rivals_oneWinner_install :
    ∃ (request : StatePublicationRequest Sha256.hash) (steps : Nat)
      (run : Nat → System Bool StdString (Snapshot Sha256.hash)
        (Except Failure StatePublicationBackendResult)
        (Except Failure (StatePublicationReceipt Sha256.hash))),
      Run (storeProtocol Sha256.hash) (fun _ => request) (Snapshot.empty Fixture.binding) steps
        run ∧
      steps ≤ 12 ∧
      ∃ winner receipt, (run steps).phase winner = .returned (.ok receipt) ∧
        receipt.outcome.Changed := by
  obtain ⟨request, _, system, published, stale, rivals⟩ := exists_rivals
  have expects := (StatePublicationRequest.make_ok rivals.built).1.expectedSnapshot
  have free : ∀ next, projectPublicationRequest request (Snapshot.empty Fixture.binding) =
      .ok next → CollisionFree Sha256.hash
        ((Snapshot.empty Fixture.binding).records ++ next.records) := by
    intro next projected
    cases rivals.projected.symm.trans projected
    exact Fixture.collisionFree_installed
  obtain ⟨steps, run, ran, rfl⟩ := (rivals.first.later rivals.later).exists_run
  obtain ⟨short, _, won⟩ := rivals_oneWinner (fun _ => expects) (fun _ => free) ran
  have returns (call : Bool) : ∃ receipt, (run steps).phase call = .returned (.ok receipt) ∧
      (receipt.outcome.Changed ∨ receipt.outcome = .staleExpectedState) := by
    cases call with
    | true => exact ⟨published, rivals.ended, Or.inl (Or.inl rivals.outcome)⟩
    | false => exact ⟨stale, rivals.late, Or.inr rivals.refused⟩
  obtain ⟨winner, receipt, returned, changed, _⟩ := won
    (fun next => not_step_of_returned fun call => (returns call).imp' _ fun receipt => And.left)
    (fun call result returned => by
      obtain ⟨receipt, ended, kind⟩ := returns call
      cases ended.symm.trans returned
      exact ⟨receipt, rfl, kind⟩)
  exact ⟨request, steps, run, ran, short, winner, receipt, returned, changed⟩

end Pkgstate
