import Pkgstate.Base.Completion
import Pkgstate.PublicationDiff
import Pkgstate.StoreConcurrency

/-!
# Sequences of publications

Publications one after the other. Those with one transaction evidence can be replaced
by a single request (`publications_squash`); with one package at a time, the way from
one snapshot to another has one step for each name on which they differ, and no
shorter (`publications_shortest`); and every snapshot of a target can be reached in a
store from every other (`store_reaches_iff`).
-/

namespace Pkgstate

open Wire Cpp Keyed LockedUpdate

variable {sha256 : Sha256}

/-- Requests projected one after the other, each onto what the one before it gave. -/
def projectAll (current : Snapshot sha256) :
    List (StatePublicationRequest sha256) → Except Failure (Snapshot sha256)
  | [] => .ok current
  | request :: rest => do
      let next ← projectPublicationRequest request current
      projectAll next rest

theorem projectAll_cons {current next last : Snapshot sha256}
    {request : StatePublicationRequest sha256} {rest : List (StatePublicationRequest sha256)}
    (projected : projectPublicationRequest request current = .ok next)
    (ran : projectAll next rest = .ok last) : projectAll current (request :: rest) = .ok last :=
  bind_eq_ok.mpr ⟨next, projected, ran⟩

/-- What each projection of a sequence keeps, the whole sequence keeps. -/
theorem projectAll_keeps (holds : Snapshot sha256 → Prop) {first last : Snapshot sha256}
    {requests : List (StatePublicationRequest sha256)}
    (ran : projectAll first requests = .ok last) (start : holds first)
    (step : ∀ request ∈ requests, ∀ before after, holds before →
      projectPublicationRequest request before = .ok after → holds after) : holds last := by
  induction requests generalizing first with
  | nil =>
      cases ran
      exact start
  | cons request rest ih =>
      obtain ⟨next, projected, ran⟩ := bind_eq_ok.mp ran
      apply ih ran
      · exact step request List.mem_cons_self first next start projected
      · intro other later
        exact step other (List.mem_cons_of_mem _ later)

section Sequences

variable {first last : Snapshot sha256} {requests : List (StatePublicationRequest sha256)}

theorem projectAll_target (ran : projectAll first requests = .ok last) :
    last.targetBinding = first.targetBinding := by
  apply projectAll_keeps (fun state => state.targetBinding = first.targetBinding) ran rfl
  intro request _ before after kept projected
  exact (project_lookups projected).1.trans kept

/-- A name that no request of a sequence mentions keeps what it holds. -/
theorem projectAll_untouched {name : StdString} (ran : projectAll first requests = .ok last)
    (untouched : ∀ request ∈ requests, ∀ delta ∈ request.deltas.toList,
      delta.packageName ≠ name) : last.findPackage name = first.findPackage name := by
  apply projectAll_keeps (fun state => state.findPackage name = first.findPackage name) ran rfl
  intro request member before after kept projected
  rw [(project_lookups projected).2, editMap_of_not_mem (untouched request member), kept]

/-- A package that a sequence brings in retains the transaction evidence of the
requests. -/
theorem projectAll_retains {transactionEvidence : Option TransactionEvidenceIdentity}
    (ran : projectAll first requests = .ok last)
    (evidence : ∀ request ∈ requests, request.transactionEvidence = transactionEvidence) :
    ∀ package ∈ last.packages, package ∉ first.packages →
      package.receipt.transactionEvidence = transactionEvidence := by
  apply projectAll_keeps (fun state => ∀ package ∈ state.packages,
    package ∉ first.packages → package.receipt.transactionEvidence = transactionEvidence) ran
  · intro package member fresh
    exact absurd member fresh
  · intro request inRequests before after kept projected package member fresh
    rcases (mem_packages_of_project projected).mp member with ⟨old, _⟩ | proposed
    · exact kept package old fresh
    · obtain ⟨delta, inDeltas, proposes⟩ := List.mem_filterMap.mp proposed
      rw [request.evidence delta inDeltas package proposes, evidence request inRequests]

/-- A sequence of publications under one transaction evidence, with however many
requests about the same packages, can be replaced by one request under that evidence,
unless it leads back to where it began. -/
theorem publications_squash {transaction : TransactionEvidenceIdentity}
    (ran : projectAll first requests = .ok last)
    (evidence : ∀ request ∈ requests, request.transactionEvidence = some transaction)
    (distinct : Snapshot.DistinctIdentities (first.packages ++ last.packages))
    (few : (changedNames first last).length < 2 ^ 64) :
    last = first ∨ ∃ deltas request,
      StatePublicationRequest.make first deltas (some transaction) = .ok request ∧
      projectPublicationRequest request first = .ok last := by
  have target := (projectAll_target ran).symm
  by_cases same : changedNames first last = []
  · exact Or.inl ((changedNames_eq_nil target).mp same).symm
  · right
    apply exists_leading distinct target same few
    · intro _
      exact nofun
    · exact projectAll_retains ran evidence

/-- The names on which two ends of a sequence differ are named on the way. -/
theorem length_changedNames_le_deltas (ran : projectAll first requests = .ok last) :
    (changedNames first last).length ≤
      (requests.flatMap fun request => request.deltas.toList).length := by
  let deltas := requests.flatMap fun request => request.deltas.toList
  have named : changedNames first last ⊆ deltas.map PackageStateDelta.packageName := by
    intro name changed
    by_contra missing
    apply mem_changedNames.mp changed
    apply (projectAll_untouched ran _).symm
    intro request inRequests delta member here
    have listed : delta ∈ deltas := List.mem_flatMap.mpr ⟨request, inRequests, member⟩
    exact missing (List.mem_map.mpr ⟨delta, listed, here⟩)
  have bounded := ((nodup_changedNames first last).subperm named).length_le
  rwa [List.length_map] at bounded

theorem length_flatMap_deltas
    (singles : ∀ request ∈ requests, request.deltas.toList.length = 1) :
    (requests.flatMap fun request => request.deltas.toList).length = requests.length := by
  rw [List.length_flatMap, List.map_congr_left singles, List.map_const', List.sum_replicate]
  exact Nat.mul_one _

end Sequences

theorem Fixture.distinctIdentities_pair : Snapshot.DistinctIdentities
    (installedPair.packages ++ (Snapshot.empty binding).packages) :=
  distinctIdentities (List.append_subset.mpr ⟨numberedPackages_subset, List.nil_subset _⟩)

theorem Fixture.length_changedNames_pair :
    (changedNames installedPair (Snapshot.empty binding)).length = 2 := by
  decide +kernel

/-- Both packages of the samples are removed one after the other, or at once. -/
theorem publications_squash_removals :
    ∃ (transaction : TransactionEvidenceIdentity)
      (requests : List (StatePublicationRequest Sha256.hash))
      (deltas : StdVector (PackageStateDelta Sha256.hash))
      (request : StatePublicationRequest Sha256.hash), requests.length = 2 ∧
      projectAll Fixture.installedPair requests = .ok (Snapshot.empty Fixture.binding) ∧
      StatePublicationRequest.make Fixture.installedPair deltas (some transaction) = .ok request ∧
      projectPublicationRequest request Fixture.installedPair =
        .ok (Snapshot.empty Fixture.binding) := by
  have fewer : (Snapshot.empty Fixture.binding).packages ⊆ Fixture.installed.packages :=
    List.nil_subset _
  have shorter {before after : Snapshot Sha256.hash}
      (length : before.packages.length ≠ after.packages.length) : before ≠ after := by
    rintro rfl
    exact length rfl
  obtain ⟨_, first, firstBuilt, firstProjected⟩ := exists_removing (Fixture.identity 100)
    (Fixture.distinctIdentities Fixture.numberedPackages_subset)
    (show Fixture.installedPair.targetBinding = Fixture.installed.targetBinding from rfl)
    Fixture.installed_subset (shorter (by decide)) (by decide)
  obtain ⟨_, second, secondBuilt, secondProjected⟩ := exists_removing (Fixture.identity 100)
    (Fixture.distinctIdentities Fixture.installed_samples)
    (show Fixture.installed.targetBinding = (Snapshot.empty Fixture.binding).targetBinding from rfl)
    fewer (shorter (by decide)) (by decide)
  have ran : projectAll Fixture.installedPair [first, second] =
      .ok (Snapshot.empty Fixture.binding) :=
    projectAll_cons firstProjected (projectAll_cons secondProjected rfl)
  have evidence : ∀ request ∈ [first, second],
      request.transactionEvidence = some (Fixture.identity 100) := by
    rw [List.forall_mem_cons, List.forall_mem_singleton]
    exact ⟨(StatePublicationRequest.make_ok firstBuilt).2.2,
      (StatePublicationRequest.make_ok secondBuilt).2.2⟩
  have few : (changedNames Fixture.installedPair (Snapshot.empty Fixture.binding)).length <
      2 ^ 64 :=
    Fixture.length_changedNames_pair ▸ (by decide)
  rcases publications_squash ran evidence Fixture.distinctIdentities_pair few with
    same | ⟨deltas, request, built, projected⟩
  · exact absurd same.symm (shorter (by decide))
  · exact ⟨_, _, deltas, request, rfl, ran, built, projected⟩

/-! ## One package at a time -/

/-- Names on which a snapshot differs from another can be published one after the other:
each publication settles its name and leaves the others as they were. -/
theorem exists_sequence {involved : List (InstalledPackage sha256)}
    (distinct : Snapshot.DistinctIdentities involved) {last : Snapshot sha256}
    (lastHeld : ∀ package ∈ last.packages, package ∈ involved) {names : List StdString}
    (nodup : names.Nodup) {current : Snapshot sha256}
    (held : ∀ package ∈ current.packages, package ∈ involved)
    (target : current.targetBinding = last.targetBinding)
    (differ : ∀ name, current.findPackage name ≠ last.findPackage name ↔ name ∈ names) :
    ∃ requests, (∀ request ∈ requests, request.deltas.toList.length = 1) ∧
      projectAll current requests = .ok last ∧ requests.length = names.length := by
  induction names generalizing current with
  | nil =>
      have same : current = last := by
        apply Snapshot.ext_findPackage target
        funext name
        by_contra changed
        exact List.not_mem_nil ((differ name).mp changed)
      exact ⟨[], fun request member => absurd member List.not_mem_nil, congrArg _ same, rfl⟩
  | cons name rest ih =>
      obtain ⟨absent, restNodup⟩ := List.nodup_cons.mp nodup
      have both : ∀ package ∈ current.packages ++ last.packages, package ∈ involved := by
        intro package member
        rcases List.mem_append.mp member with old | new
        · exact held package old
        · exact lastHeld package new
      obtain ⟨delta, _, rfl, between⟩ := deltaBetween_ok (.fromSha256 (.replicate 32 0))
        (.fromSha256 (.replicate 32 0)) (distinct.mono both) ((differ name).mpr List.mem_cons_self)
      obtain ⟨transactionEvidence, retains⟩ : ∃ transactionEvidence,
          RetainsEvidence transactionEvidence delta := by
        refine ⟨delta.proposedPackage.bind fun proposed => proposed.receipt.transactionEvidence, ?_⟩
        intro proposed proposes
        rw [proposes]
        rfl
      have proposedHeld : ∀ package ∈ current.packages ++ delta.proposedPackage.toList,
          package ∈ involved := by
        intro package member
        rcases List.mem_append.mp member with old | new
        · exact held package old
        · have found := between.proposes.symm.trans (Option.mem_toList.mp new)
          exact lastHeld package (Snapshot.findPackage_eq_some.mp found).1
      obtain ⟨request, next, built, projected, nextTarget, lookups⟩ :=
        project_singleton (between.admits target) retains (distinct.mono proposedHeld)
      have single := StatePublicationRequest.deltas_singleton built
      have nextHeld : ∀ package ∈ next.packages, package ∈ involved := by
        intro package member
        apply proposedHeld
        rcases (mem_packages_of_project projected).mp member with ⟨old, _⟩ | proposed
        · exact List.mem_append_left _ old
        · obtain ⟨other, inDeltas, proposes⟩ := List.mem_filterMap.mp proposed
          cases List.mem_singleton.mp (single ▸ inDeltas)
          exact List.mem_append_right _ (Option.mem_toList.mpr proposes)
      have nextDiffer : ∀ other,
          next.findPackage other ≠ last.findPackage other ↔ other ∈ rest := by
        intro other
        rw [lookups]
        by_cases settled : other = delta.packageName
        · subst settled
          rw [Function.update_self, between.proposes]
          exact iff_of_false (not_not.mpr rfl) absent
        · rw [Function.update_of_ne settled, differ, List.mem_cons, or_iff_right settled]
      obtain ⟨requests, singles, ran, length⟩ :=
        ih restNodup nextHeld (nextTarget.trans target) nextDiffer
      refine ⟨request :: requests, ?_, projectAll_cons projected ran, congrArg Nat.succ length⟩
      exact List.forall_mem_cons.mpr ⟨single ▸ rfl, singles⟩

theorem exists_shortest {first last : Snapshot sha256}
    (target : first.targetBinding = last.targetBinding)
    (distinct : Snapshot.DistinctIdentities (first.packages ++ last.packages)) :
    ∃ requests, (∀ request ∈ requests, request.deltas.toList.length = 1) ∧
      projectAll first requests = .ok last ∧
      requests.length = (changedNames first last).length := by
  apply exists_sequence distinct _ (nodup_changedNames first last) _ target
  · intro name
    exact mem_changedNames.symm
  · exact fun package member => List.mem_append_right _ member
  · exact fun package member => List.mem_append_left _ member

/-- However the packages are spread over requests, the way from one snapshot to another
takes at least one delta for each name on which they differ; and with one package at a
time, that many requests are enough. -/
theorem publications_shortest {first last : Snapshot sha256}
    (target : first.targetBinding = last.targetBinding)
    (distinct : Snapshot.DistinctIdentities (first.packages ++ last.packages)) :
    (∀ requests, projectAll first requests = .ok last → (changedNames first last).length ≤
      (requests.flatMap fun request => request.deltas.toList).length) ∧
    ∃ requests, (∀ request ∈ requests, request.deltas.toList.length = 1) ∧
      projectAll first requests = .ok last ∧
      requests.length = (changedNames first last).length :=
  ⟨fun _ ran => length_changedNames_le_deltas ran, exists_shortest target distinct⟩

/-- From both packages of the samples to none, two requests are enough, and every way there
has two deltas. -/
theorem publications_shortest_removals :
    (∀ requests, projectAll Fixture.installedPair requests = .ok (Snapshot.empty Fixture.binding) →
      2 ≤ (requests.flatMap fun request => request.deltas.toList).length) ∧
    ∃ requests, projectAll Fixture.installedPair requests = .ok (Snapshot.empty Fixture.binding) ∧
      requests.length = 2 := by
  have target : Fixture.installedPair.targetBinding =
      (Snapshot.empty Fixture.binding).targetBinding := rfl
  obtain ⟨least, requests, _, ran, length⟩ :=
    publications_shortest target Fixture.distinctIdentities_pair
  rw [Fixture.length_changedNames_pair] at least length
  exact ⟨least, requests, ran, length⟩

/-! ## In a store -/

section Histories

variable {ι : Type} {request : ι → StatePublicationRequest sha256} {first last : Snapshot sha256}

/-- The histories of a store, over all its runs, are the chains of projections from its
first state: each change projects the request of its call onto the state the change
before it left, and no call has two changes. Every such chain is the history of a run. -/
theorem store_histories [DecidableEq ι] {changes : List (Change ι (Snapshot sha256))} :
    (∃ system, Reachable (storeProtocol sha256) request first system ∧
        system.changes = changes ∧ system.durable = last) ↔
      Chain first changes last ∧ (changes.map Change.call).Nodup ∧
      ∀ change ∈ changes,
        projectPublicationRequest (request change.call) change.before = .ok change.after := by
  have applies : ∃ report, (storeProtocol sha256).effect report ≠ .untouched :=
    ⟨.ok .generationSelected, Effect.noConfusion⟩
  rw [reachable_changes_iff applies]
  simp only [exists_plan_iff]

theorem projectAll_of_chain {changes : List (Change ι (Snapshot sha256))}
    (chain : Chain first changes last)
    (projects : ∀ change ∈ changes,
      projectPublicationRequest (request change.call) change.before = .ok change.after) :
    projectAll first (changes.map fun change => request change.call) = .ok last := by
  induction changes generalizing first with
  | nil => exact congrArg Except.ok chain
  | cons change rest ih =>
      obtain ⟨starts, chain⟩ := chain
      obtain ⟨here, later⟩ := List.forall_mem_cons.mp projects
      exact projectAll_cons (starts ▸ here) (ih chain later)

theorem chain_of_projectAll {calls : List ι}
    (ran : projectAll first (calls.map request) = .ok last) :
    ∃ changes : List (Change ι (Snapshot sha256)), Chain first changes last ∧
      changes.map Change.call = calls ∧
      ∀ change ∈ changes,
        projectPublicationRequest (request change.call) change.before = .ok change.after := by
  induction calls generalizing first with
  | nil =>
      cases ran
      exact ⟨[], rfl, rfl, fun change member => absurd member List.not_mem_nil⟩
  | cons call rest ih =>
      obtain ⟨next, projected, ran⟩ := bind_eq_ok.mp ran
      obtain ⟨changes, chain, calls, projects⟩ := ih ran
      refine ⟨⟨call, first, next⟩ :: changes, ⟨rfl, chain⟩, congrArg _ calls, ?_⟩
      exact List.forall_mem_cons.mpr ⟨projected, projects⟩

/-- With at most so many calls, each about one package, and whatever order they and the
answers of the backend take, a store can come from one state to another exactly if these
have one target and differ in no more names than there are calls. -/
theorem store_reaches_iff {count : Nat}
    (distinct : Snapshot.DistinctIdentities (first.packages ++ last.packages)) :
    (∃ calls ≤ count, ∃ (request : Fin calls → StatePublicationRequest sha256)
        (system : System (Fin calls) StdString (Snapshot sha256)
          (Except Failure StatePublicationBackendResult)
          (Except Failure (StatePublicationReceipt sha256))),
        (∀ call, (request call).deltas.toList.length = 1) ∧
        Reachable (storeProtocol sha256) request first system ∧ system.durable = last) ↔
      first.targetBinding = last.targetBinding ∧ (changedNames first last).length ≤ count := by
  constructor
  · rintro ⟨calls, bound, request, system, singles, reached, rfl⟩
    have invariant := reached.invariant
    have ran := projectAll_of_chain invariant.chain fun change member =>
      exists_plan_iff.mp (invariant.planned change member)
    refine ⟨(projectAll_target ran).symm, ?_⟩
    have named := length_changedNames_le_deltas ran
    have single : ∀ other ∈ system.changes.map fun change => request change.call,
        other.deltas.toList.length = 1 := by
      intro _ member
      obtain ⟨change, _, rfl⟩ := List.mem_map.mp member
      exact singles change.call
    rw [length_flatMap_deltas single, List.length_map] at named
    have few := invariant.once.length_le_card
    rw [List.length_map, Fintype.card_fin] at few
    exact named.trans (few.trans bound)
  · intro ⟨target, bound⟩
    obtain ⟨requests, singles, ran, length⟩ := exists_shortest target distinct
    have listed : (List.finRange requests.length).map requests.get = requests :=
      List.ofFn_eq_map.symm.trans (List.ofFn_get requests)
    rw [← listed] at ran
    obtain ⟨changes, chain, calls, projects⟩ := chain_of_projectAll ran
    have applies : ∃ report, (storeProtocol sha256).effect report ≠ .untouched :=
      ⟨.ok .generationSelected, Effect.noConfusion⟩
    obtain ⟨system, reached, _, durable⟩ := (reachable_changes_iff applies).mpr
      ⟨chain, calls ▸ List.nodup_finRange _, fun change member =>
        exists_plan_iff.mpr (projects change member)⟩
    exact ⟨requests.length, length ▸ bound, requests.get, system,
      fun call => singles _ (List.get_mem ..), reached, durable⟩

end Histories

/-- One call cannot remove both packages of the samples, but two can. -/
theorem store_reaches_iff_removals :
    (¬ ∃ calls ≤ 1, ∃ (request : Fin calls → StatePublicationRequest Sha256.hash) (system : _),
        (∀ call, (request call).deltas.toList.length = 1) ∧
        Reachable (storeProtocol Sha256.hash) request Fixture.installedPair system ∧
        system.durable = Snapshot.empty Fixture.binding) ∧
    ∃ calls ≤ 2, ∃ (request : Fin calls → StatePublicationRequest Sha256.hash) (system : _),
      (∀ call, (request call).deltas.toList.length = 1) ∧
      Reachable (storeProtocol Sha256.hash) request Fixture.installedPair system ∧
      system.durable = Snapshot.empty Fixture.binding := by
  rw [store_reaches_iff Fixture.distinctIdentities_pair,
    store_reaches_iff Fixture.distinctIdentities_pair, Fixture.length_changedNames_pair]
  exact ⟨fun one => absurd one.2 (by decide), rfl, Nat.le_refl 2⟩

end Pkgstate
