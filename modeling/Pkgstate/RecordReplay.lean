import Pkgstate.Base.Observed
import Pkgstate.CodecLimits
import Pkgstate.PublicationPaths
import Pkgstate.ReceiptCoherence
import Pkgstate.StoreLinearization

/-!
# Replaying durable records

From the bytes of a generation and of a request record, the functions of the library
give the bytes of the next generation (`replayRecord`). Sequences of records replay
exactly if a run of a store has their requests as its history (`replay_iff`). So the
generation that a store began with and the records of its changes are enough for a
reader to have its durable state and to decode every receipt it handed out
(`store_replays`).
-/

namespace Pkgstate

open Wire Cpp Keyed LockedUpdate

variable {sha256 : Sha256}

/-- The generation behind a request record: the generation is decoded, the record is
decoded against it, the request is projected onto it, and the result is encoded. -/
def replayRecord (sha256 : Sha256) (generation record : Bytes) : Except Failure Bytes := do
  let current ← decodeGenerationSnapshot sha256 generation
  let request ← decodeStatePublicationRequest record current
  let next ← projectPublicationRequest request current
  pure (encodeGenerationSnapshot next)

/-- Records replayed one after the other. -/
def replay (sha256 : Sha256) (generation : Bytes) : List Bytes → Except Failure Bytes
  | [] => .ok generation
  | record :: rest => do
      let next ← replayRecord sha256 generation record
      replay sha256 next rest

/-- The record of a request that the decoder can read. -/
structure Records (record : Bytes) (request : StatePublicationRequest sha256) : Prop where
  encoded : encodeStatePublicationRequest request = .ok record
  few : request.deltas.toList.length ≤ maximumCollectionCount

/-- A projection adds no more packages than its request has deltas. -/
theorem length_le_of_project {request : StatePublicationRequest sha256}
    {current next : Snapshot sha256}
    (projected : projectPublicationRequest request current = .ok next) :
    next.packages.length ≤ current.packages.length + request.deltas.toList.length := by
  have listed : next.packages ⊆ current.packages ++ request.proposedPackages := by
    intro package member
    rcases (mem_packages_of_project projected).mp member with ⟨old, _⟩ | proposed
    · exact List.mem_append_left _ old
    · exact List.mem_append_right _ proposed
  have once : next.packages.Nodup := (nodup_map_key next.sorted).of_map
  have counted := (once.subperm listed).length_le
  rw [List.length_append] at counted
  have proposed : request.proposedPackages.length ≤ request.deltas.toList.length :=
    List.length_filterMap_le _ _
  omega

theorem length_le_of_projectAll {first last : Snapshot sha256} {records : List Bytes}
    {requests : List (StatePublicationRequest sha256)}
    (recorded : List.Forall₂ Records records requests)
    (ran : projectAll first requests = .ok last) :
    last.packages.length ≤ first.packages.length + records.length * 1048576 := by
  induction recorded generalizing first with
  | nil =>
      cases ran
      exact Nat.le_add_right _ _
  | @cons record request records requests written _ ih =>
      obtain ⟨next, projected, ran⟩ := bind_eq_ok.mp ran
      have here := length_le_of_project projected
      have later := ih ran
      have limited := written.few
      rw [maximumCollectionCount] at limited
      rw [List.length_cons]
      omega

/-- A record replays exactly if the state of the generation is one that its request
projects onto. -/
theorem replayRecord_iff {current : Snapshot sha256} {record generation : Bytes}
    (bound : current.packages.length < 2 ^ 64) :
    replayRecord sha256 (encodeGenerationSnapshot current) record = .ok generation ↔
      ∃ request next, Records record request ∧
        projectPublicationRequest request current = .ok next ∧
        encodeGenerationSnapshot next = generation := by
  unfold replayRecord
  rw [decodeGenerationSnapshot_encode current bound]
  change (decodeStatePublicationRequest record current >>= _) = _ ↔ _
  rw [bind_eq_ok]
  constructor
  · rintro ⟨request, decoded, rest⟩
    rcases bind_eq_ok.mp rest with ⟨next, projected, returned⟩
    obtain ⟨⟨deltas, transaction, built⟩, encoded⟩ := decodeStatePublicationRequest_ok decoded
    refine ⟨request, next, ⟨encoded, ?_⟩, projected, Except.ok.inj returned⟩
    by_contra many
    have made := (StatePublicationRequest.make_ok built).1
    have refused := decodeStatePublicationRequest_of_many made (Nat.lt_of_not_le many) encoded
    rw [decoded] at refused
    cases refused
  · rintro ⟨request, next, records, projected, rfl⟩
    have decoded := decodeStatePublicationRequest_encode (madeAgainst_of_project projected)
      records.few records.encoded
    exact ⟨request, decoded, bind_eq_ok.mpr ⟨next, projected, rfl⟩⟩

/-- Replaying records is projecting their requests, while the packages fit into a
vector. -/
theorem replay_eq_ok {first : Snapshot sha256} {records : List Bytes} {generation : Bytes}
    (few : first.packages.length + records.length * 1048576 < 2 ^ 64) :
    replay sha256 (encodeGenerationSnapshot first) records = .ok generation ↔
      ∃ requests last, List.Forall₂ Records records requests ∧
        projectAll first requests = .ok last ∧ encodeGenerationSnapshot last = generation := by
  induction records generalizing first with
  | nil =>
      constructor
      · intro ran
        exact ⟨[], first, .nil, rfl, Except.ok.inj ran⟩
      · rintro ⟨requests, last, recorded, ran, rfl⟩
        cases recorded
        cases ran
        rfl
  | cons record rest ih =>
      have bound : first.packages.length < 2 ^ 64 := by omega
      have shorter {request : StatePublicationRequest sha256} {next : Snapshot sha256}
          (records : Records record request)
          (projected : projectPublicationRequest request first = .ok next) :
          next.packages.length + rest.length * 1048576 < 2 ^ 64 := by
        have grown := length_le_of_project projected
        have limited := records.few
        rw [List.length_cons] at few
        rw [maximumCollectionCount] at limited
        omega
      change (replayRecord sha256 _ record >>= _) = _ ↔ _
      rw [bind_eq_ok]
      constructor
      · rintro ⟨encoded, ran, rest⟩
        obtain ⟨request, next, records, projected, rfl⟩ := (replayRecord_iff bound).mp ran
        obtain ⟨requests, last, recorded, all, ends⟩ := (ih (shorter records projected)).mp rest
        exact ⟨request :: requests, last, .cons records recorded, projectAll_cons projected all,
          ends⟩
      · rintro ⟨requests, last, recorded, ran, ends⟩
        cases recorded with
        | cons records others =>
            obtain ⟨next, projected, all⟩ := bind_eq_ok.mp ran
            exact ⟨_, (replayRecord_iff bound).mpr ⟨_, next, records, projected, rfl⟩,
              (ih (shorter records projected)).mpr ⟨_, last, others, all, ends⟩⟩

/-- A run of one call that removes both packages of the samples, with the records of its
request and its receipt. -/
theorem reachable_recorded :
    ∃ (first : Snapshot Sha256.hash) (request : StatePublicationRequest Sha256.hash)
      (record bytes : Bytes) (receipt : StatePublicationReceipt Sha256.hash)
      (system : System (Fin 1) StdString (Snapshot Sha256.hash)
        (Except Failure StatePublicationBackendResult)
        (Except Failure (StatePublicationReceipt Sha256.hash))),
      first.packages.length = 2 ∧ Records record request ∧
      Reachable (storeProtocol Sha256.hash) (fun _ => request) first system ∧
      system.changes.map Change.call = [0] ∧ system.phase 0 = .returned (.ok receipt) ∧
      encodeStatePublicationReceipt receipt = .ok bytes := by
  let packages : StdVector (InstalledPackage Sha256.hash) :=
    ⟨numberedPackages Fixture.binding 2, by rw [length_numberedPackages]; decide⟩
  obtain ⟨first, request, record, made, built, count, encoded⟩ := removals_encoded Fixture.binding
    (Fixture.identity 100) (show packages.toList = _ from rfl) Nat.zero_lt_two (by decide)
  obtain ⟨against, arranged, _⟩ := StatePublicationRequest.make_ok built
  have installed := (Snapshot.make_ok made).2
  have nothing : request.proposedPackages = [] := by
    apply List.filterMap_eq_nil_iff.mpr
    intro delta member
    obtain ⟨package, _, rfl⟩ := List.mem_map.mp (arranged.mem_iff.mp member)
    rfl
  have distinct : Snapshot.DistinctIdentities (first.packages ++ request.proposedPackages) := by
    rw [nothing, List.append_nil]
    exact Fixture.distinctIdentities
      (List.Subset.trans installed.subset Fixture.numberedPackages_subset)
  obtain ⟨last, projected, _⟩ := project_madeAgainst against distinct
  have publishable : Publishable request first Fixture.storageFormat :=
    against.publishable Fixture.lineSafe_storageFormat
  let requests : Fin 1 → StatePublicationRequest Sha256.hash := fun _ => request
  obtain ⟨receipt, system, reached, _, _, changes, phases, reports⟩ :=
    exists_published (show Publishable (requests 0) _ _ from publishable) projected
  obtain ⟨bytes, written⟩ := encodeStatePublicationReceipt_ok receipt
    (by rw [reports.storageFormat, reports.evidence]; decide)
  have returned : system.phase 0 = .returned (.ok receipt) := by
    rw [phases, Function.update_self]
  refine ⟨first, request, record, bytes, receipt, system, ?_, ⟨encoded, ?_⟩, reached,
    changes ▸ rfl, returned, written⟩
  · rw [installed.length_eq]
    exact length_numberedPackages Fixture.binding 2
  · rw [count]
    decide

/-- Records replay exactly if they are a history: from the generation of a snapshot, and
while the packages fit into a vector, records are accepted if and only if some run of a
store that begins there publishes their requests in that order. They replay to the
generation of its durable state. -/
theorem replay_iff {first : Snapshot sha256} {records : List Bytes} {generation : Bytes}
    (few : first.packages.length + records.length * 1048576 < 2 ^ 64) :
    replay sha256 (encodeGenerationSnapshot first) records = .ok generation ↔
      ∃ (request : Fin records.length → StatePublicationRequest sha256)
        (system : System (Fin records.length) StdString (Snapshot sha256)
          (Except Failure StatePublicationBackendResult)
          (Except Failure (StatePublicationReceipt sha256))),
        (∀ place, Records (records.get place) (request place)) ∧
        Reachable (storeProtocol sha256) request first system ∧
        system.changes.map Change.call = List.finRange records.length ∧
        encodeGenerationSnapshot system.durable = generation := by
  rw [replay_eq_ok few]
  constructor
  · rintro ⟨requests, last, recorded, ran, rfl⟩
    obtain ⟨length, pairs⟩ := List.forall₂_iff_get.mp recorded
    let request (place : Fin records.length) : StatePublicationRequest sha256 :=
      requests.get (place.cast length)
    have all : (List.finRange records.length).map request = requests := by
      apply List.ext_get
      · rw [List.length_map, List.length_finRange, length]
      · intro place _ _
        simp [request]
    obtain ⟨changes, chain, calls, projects⟩ := chain_of_projectAll (all.symm ▸ ran)
    have applies : ∃ report, (storeProtocol sha256).effect report ≠ .untouched :=
      ⟨.ok .generationSelected, Effect.noConfusion⟩
    obtain ⟨system, reached, rfl, rfl⟩ := (reachable_changes_iff applies).mpr
      ⟨chain, calls ▸ List.nodup_finRange _, fun change member =>
        exists_plan_iff.mpr (projects change member)⟩
    exact ⟨request, system, fun place => pairs place place.2 (length ▸ place.2), reached, calls,
      rfl⟩
  · rintro ⟨request, system, recorded, reached, calls, rfl⟩
    have invariant := reached.invariant
    have ran := projectAll_of_chain invariant.chain fun change member =>
      exists_plan_iff.mp (invariant.planned change member)
    refine ⟨_, system.durable, ?_, ran, rfl⟩
    have mapped : (system.changes.map fun change => request change.call) =
        (List.finRange records.length).map request := by
      rw [← calls, List.map_map]
      rfl
    rw [mapped]
    refine List.forall₂_iff_get.mpr ⟨?_, fun place lt _ => ?_⟩
    · rw [List.length_map, List.length_finRange]
    · simpa using recorded ⟨place, lt⟩

/-- The record of the sample run replays to the generation it leaves. -/
theorem replay_iff_removals :
    ∃ (first last : Snapshot Sha256.hash) (record : Bytes), first.packages.length = 2 ∧
      replay Sha256.hash (encodeGenerationSnapshot first) [record] =
        .ok (encodeGenerationSnapshot last) := by
  obtain ⟨first, request, record, _, _, system, two, recorded, reached, calls, _⟩ :=
    reachable_recorded
  have few : first.packages.length + [record].length * 1048576 < 2 ^ 64 := by
    rw [two, List.length_singleton]
    decide
  refine ⟨first, system.durable, record, two, (replay_iff few).mpr ?_⟩
  exact ⟨fun _ => request, system, fun place => by rwa [Fin.eq_zero place], reached, calls, rfl⟩

/-! ## What a store leaves -/

theorem builtFrom_of_answers {request : StatePublicationRequest sha256}
    {prior : Snapshot sha256} {receipt : StatePublicationReceipt sha256}
    (answers : Answers (storeProtocol sha256) request prior (.ok receipt)) :
    BuiltFrom request prior receipt := by
  cases answers with
  | declined storageFormat plan =>
      exact .staleExpectedState _ _ (compareUnderLock_eq_inl (planned_eq_inl_ok.mp plan)).2
  | concluded storageFormat answer plan concluded =>
      rcases bind_eq_ok.mp concluded with ⟨result, _, built⟩
      exact builtFrom_of_receiptOf built

/-- Only records that the decoder reads replay. -/
theorem records_of_replay {first last : Snapshot sha256} {records : List Bytes}
    {requests : List (StatePublicationRequest sha256)} {generation : Bytes}
    (encoded : List.Forall₂ (fun record request =>
      encodeStatePublicationRequest request = .ok record) records requests)
    (ran : projectAll first requests = .ok last)
    (few : first.packages.length + records.length * 1048576 < 2 ^ 64)
    (replayed : replay sha256 (encodeGenerationSnapshot first) records = .ok generation) :
    List.Forall₂ Records records requests := by
  induction encoded generalizing first with
  | nil => exact .nil
  | @cons record request rest requests written _ ih =>
      rw [List.length_cons] at few
      obtain ⟨next, projected, ran⟩ := bind_eq_ok.mp ran
      obtain ⟨_, step, replayed⟩ := bind_eq_ok.mp replayed
      obtain ⟨decoded, _, readable, applied, rfl⟩ := (replayRecord_iff (by omega)).mp step
      have made := madeAgainst_of_project projected
      have read := decodeStatePublicationRequest_encode (madeAgainst_of_project applied)
        readable.few readable.encoded
      have limited : request.deltas.toList.length ≤ maximumCollectionCount := by
        by_contra many
        rw [decodeStatePublicationRequest_of_many made (Nat.lt_of_not_le many) written] at read
        cases read
      -- The record is that of one request, so both project to one state.
      rw [decodeStatePublicationRequest_encode made limited written] at read
      cases read
      rw [projected] at applied
      cases applied
      have grown := length_le_of_project projected
      have bound : next.packages.length + rest.length * 1048576 < 2 ^ 64 := by
        rw [maximumCollectionCount] at limited
        omega
      exact .cons ⟨written, limited⟩ (ih ran bound replayed)

/-- The records of a chain of projections replay to the generation of its last state,
which can be read again. -/
theorem replay_of_chain {ι : Type} {request : ι → StatePublicationRequest sha256}
    {first last : Snapshot sha256} {changes : List (Change ι (Snapshot sha256))}
    {records : List Bytes} (chain : Chain first changes last)
    (projects : ∀ change ∈ changes,
      projectPublicationRequest (request change.call) change.before = .ok change.after)
    (recorded : List.Forall₂ (fun record change => Records record (request change.call)) records
      changes)
    (few : first.packages.length + records.length * 1048576 < 2 ^ 64) :
    replay sha256 (encodeGenerationSnapshot first) records =
        .ok (encodeGenerationSnapshot last) ∧
      decodeGenerationSnapshot sha256 (encodeGenerationSnapshot last) = .ok last := by
  have ran := projectAll_of_chain chain projects
  have mapped := List.forall₂_map_right_iff.mpr recorded
  have bound := (length_le_of_projectAll mapped ran).trans_lt few
  exact ⟨(replay_eq_ok few).mpr ⟨_, last, mapped, ran, rfl⟩,
    decodeGenerationSnapshot_encode last bound⟩

/-- The generation that a store began with and the records of its changes tell its whole
history, whatever the interleaving of the calls and the answers of the backend, as long
as the packages fit into a vector. They replay to the generation of the durable state
exactly if no request has more deltas than the decoder admits. And then, for the encoded
receipt of every call, some of the first records replay to a generation whose snapshot,
with the request, is what the receipt decodes against. -/
theorem store_replays {ι : Type} [DecidableEq ι] {request : ι → StatePublicationRequest sha256}
    {initial : Snapshot sha256}
    {system : System ι StdString (Snapshot sha256) (Except Failure StatePublicationBackendResult)
      (Except Failure (StatePublicationReceipt sha256))}
    (reached : Reachable (storeProtocol sha256) request initial system) {records : List Bytes}
    (encoded : List.Forall₂ (fun record change =>
      encodeStatePublicationRequest (request change.call) = .ok record) records system.changes)
    (few : initial.packages.length + records.length * 1048576 < 2 ^ 64) :
    (replay sha256 (encodeGenerationSnapshot initial) records =
        .ok (encodeGenerationSnapshot system.durable) ↔
      ∀ change ∈ system.changes, (request change.call).deltas.toList.length ≤ 1048576) ∧
    ((∀ change ∈ system.changes, (request change.call).deltas.toList.length ≤ 1048576) →
      ∀ call receipt bytes, system.phase call = .returned (.ok receipt) →
        encodeStatePublicationReceipt receipt = .ok bytes →
        ∃ front generation prior, front <+: records ∧
          replay sha256 (encodeGenerationSnapshot initial) front = .ok generation ∧
          decodeGenerationSnapshot sha256 generation = .ok prior ∧
          decodeStatePublicationReceipt bytes (request call) prior = .ok receipt) := by
  have invariant := reached.invariant
  have projects : ∀ change ∈ system.changes,
      projectPublicationRequest (request change.call) change.before = .ok change.after :=
    fun change member => exists_plan_iff.mp (invariant.planned change member)
  have recorded (limited : ∀ change ∈ system.changes,
      (request change.call).deltas.toList.length ≤ 1048576) :
      List.Forall₂ (fun record change => Records record (request change.call)) records
        system.changes :=
    ((List.forall₂_and_left _ _).mpr ⟨limited, encoded.flip⟩).flip.imp
      fun _ _ both => ⟨both.2, both.1⟩
  refine ⟨⟨?_, ?_⟩, ?_⟩
  · intro replayed change member
    have ran := projectAll_of_chain invariant.chain projects
    have readable := List.forall₂_map_right_iff.mp
      (records_of_replay (List.forall₂_map_right_iff.mpr encoded) ran few replayed)
    have limits := readable.flip.imp fun _ _ records => And.intro records.few records.encoded
    exact ((List.forall₂_and_left _ _).mp limits).1 change member
  · intro limited
    exact (replay_of_chain invariant.chain projects (recorded limited) few).1
  · intro limited call receipt bytes returned written
    have available : ¬ (storeProtocol sha256).unavailable (.ok receipt) := by
      rintro ⟨failure, impossible⟩
      cases impossible
    obtain ⟨prior, ⟨front, cut, chain⟩, answers⟩ := reached.answered returned available
    -- The changes up to the prior state have the first records.
    have part := List.forall₂_take front.length (recorded limited)
    rw [← List.prefix_iff_eq_take.mp cut] at part
    have shorter : initial.packages.length + (records.take front.length).length * 1048576 <
        2 ^ 64 := by
      have length := List.length_take_le' front.length records
      exact (Nat.add_le_add_left (Nat.mul_le_mul_right _ length) _).trans_lt few
    obtain ⟨replayed, decoded⟩ := replay_of_chain chain
      (fun change member => projects change (cut.subset member)) part shorter
    exact ⟨_, _, prior, List.take_prefix _ _, replayed, decoded,
      decodeStatePublicationReceipt_encode (builtFrom_of_answers answers) written⟩

theorem store_replays_removals :
    ∃ (first last prior : Snapshot Sha256.hash) (request : StatePublicationRequest Sha256.hash)
      (record bytes : Bytes) (receipt : StatePublicationReceipt Sha256.hash),
      first.packages.length = 2 ∧
      replay Sha256.hash (encodeGenerationSnapshot first) [record] =
        .ok (encodeGenerationSnapshot last) ∧
      decodeStatePublicationReceipt bytes request prior = .ok receipt := by
  obtain ⟨first, request, record, bytes, receipt, system, two, written, reached, calls, returned,
    encoded⟩ := reachable_recorded
  have few : first.packages.length + [record].length * 1048576 < 2 ^ 64 := by
    rw [two, List.length_singleton]
    decide
  have recorded : List.Forall₂ (fun record (_ : Change (Fin 1) _) =>
      encodeStatePublicationRequest request = .ok record) [record] system.changes := by
    obtain ⟨change, single, _⟩ := List.map_eq_singleton_iff.mp calls
    rw [single]
    exact .cons written.encoded .nil
  obtain ⟨all, receipts⟩ := store_replays reached recorded few
  obtain ⟨_, _, prior, _, _, _, decoded⟩ :=
    receipts (fun _ _ => written.few) 0 receipt bytes returned encoded
  exact ⟨first, system.durable, prior, request, record, bytes, receipt, two,
    all.mpr fun _ _ => written.few, decoded⟩

end Pkgstate
