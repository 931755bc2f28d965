import Pkgstate.Fixtures
import Pkgstate.PublicationCodec
import Pkgstate.PublicationRequest

/-!
# The publication request codec

`encode_state_publication_request` and `decode_state_publication_request`. Each
proposed package travels as a generation snapshot of its own, and the decoder
rebuilds the request against the expected snapshot it is given. No delta is ever
refused by the encoder, so a request's encoding is its body with a checksum, if
it fits (`encodeStatePublicationRequest_eq`).
-/

namespace Pkgstate

open Wire Cpp Keyed

variable {sha256 : Sha256}

/-- `request_magic`. -/
def requestMagic : Bytes := ascii "ZLSPRQST"

/-- `state_publication_request_encoding_version`. -/
def statePublicationRequestEncodingVersion : UInt16 := 1

/-- `maximum_state_publication_request_encoding_size`. -/
def maximumStatePublicationRequestEncodingSize : Nat := 1024 * 1024 * 1024

/-! ## Writing -/

/-- `encode_proposed_package`. -/
def encodeProposedPackage (package : InstalledPackage sha256) : Except Failure Bytes := do
  let proposed ← Snapshot.make package.targetBinding [package]
  pure (encodeGenerationSnapshot proposed)

/-- `require_request_shape`. -/
def requireRequestShape (delta : PackageStateDelta sha256) : Except Failure Unit :=
  match delta.kind with
  | .install =>
      if delta.expectedPackage.isSome || !delta.proposedPackage.isSome then
        .error (codecError .invalidValue (ascii "invalid installation delta shape"))
      else .ok ()
  | .replace =>
      if !delta.expectedPackage.isSome || !delta.proposedPackage.isSome then
        .error (codecError .invalidValue (ascii "invalid replacement delta shape"))
      else .ok ()
  | .remove =>
      if !delta.expectedPackage.isSome || delta.proposedPackage.isSome then
        .error (codecError .invalidValue (ascii "invalid removal delta shape"))
      else .ok ()

/-- The body of the proposed package, if there is one. -/
def encodeProposed : Option (InstalledPackage sha256) → Except Failure (Option Bytes)
  | none => .ok none
  | some package => do
      let body ← encodeProposedPackage package
      pure (some body)

/-- The body of the loop over the deltas. -/
def encodeDelta (delta : PackageStateDelta sha256) : Except Failure Bytes := do
  requireRequestShape delta
  let proposed ← encodeProposed delta.proposedPackage
  pure ([toByte delta.kind] ++ stringBytes delta.packageName.bytes ++
    storedDigest delta.operationPlan ++ storedDigest delta.applicationEvidence ++
    optionalBytes (fun expected : InstalledPackageIdentity => storedDigest expected)
      delta.expectedPackage ++
    optionalBytes stringBytes proposed)

/-- The loop over the deltas. -/
def encodeDeltas : List (PackageStateDelta sha256) → Except Failure Bytes
  | [] => .ok []
  | delta :: rest => do
      let first ← encodeDelta delta
      let others ← encodeDeltas rest
      pure (first ++ others)

/-- `encode_state_publication_request`. -/
def encodeStatePublicationRequest (request : StatePublicationRequest sha256) :
    Except Failure Bytes := do
  let deltas ← encodeDeltas request.deltas.toList
  appendChecksum sha256
    (requestMagic ++ u16Bytes statePublicationRequestEncodingVersion ++
      storedDigest request.identity ++ storedDigest request.expectedSnapshot ++
      storedDigest request.targetBinding.identity ++
      u64Bytes request.deltas.toList.length.toUInt64 ++ deltas ++
      optionalBytes (fun evidence : TransactionEvidenceIdentity => storedDigest evidence)
        request.transactionEvidence)
    maximumStatePublicationRequestEncodingSize

/-! ## Reading -/

/-- `decode_proposed_package`. -/
def decodeProposedPackage (sha256 : Sha256) (bytes : Bytes)
    (expectedBinding : StateTargetBinding sha256) (expectedName : StdString) :
    Except Failure (InstalledPackage sha256) := do
  let proposed ← decodeGenerationSnapshot sha256 bytes
  if proposed.targetBinding ≠ expectedBinding ∨ proposed.packages.length ≠ 1 then
    .error (codecError .invalidValue
      (ascii "proposed package record has invalid target or cardinality"))
  else match proposed.packages with
  | [] => .error .outOfRange
  | package :: _ =>
      if package.name ≠ expectedName then
        .error (codecError .invalidValue
          (ascii "proposed package record names another package"))
      else .ok package

/-- The switch of the decoder on the delta kind. -/
def buildDelta (kind : PackageStateDeltaKind) (packageName : StdString)
    (operationPlan : OperationPlanIdentity) (applicationEvidence : ApplicationEvidenceIdentity)
    (expectedPackage : Option InstalledPackageIdentity)
    (proposedPackage : Option (InstalledPackage sha256)) :
    Except Failure (PackageStateDelta sha256) :=
  match kind with
  | .install =>
      match expectedPackage, proposedPackage with
      | none, some proposed => PackageStateDelta.install proposed operationPlan applicationEvidence
      | _, _ => .error (codecError .invalidValue (ascii "invalid installation delta encoding"))
  | .replace =>
      match expectedPackage, proposedPackage with
      | some expected, some proposed =>
          PackageStateDelta.replace expected proposed operationPlan applicationEvidence
      | _, _ => .error (codecError .invalidValue (ascii "invalid replacement delta encoding"))
  | .remove =>
      match expectedPackage, proposedPackage with
      | some expected, none =>
          PackageStateDelta.remove packageName expected operationPlan applicationEvidence
      | _, _ => .error (codecError .invalidValue (ascii "invalid removal delta encoding"))

open Publication

/-- The body of the decoder's loop. -/
def decodeDelta (expectedSnapshot : Snapshot sha256) :
    Decoder Failure (PackageStateDelta sha256) := do
  let kind ← enumeration "package-state delta kind"
  let packageName ← text "publication package name"
  let operationPlan ← digest "operation plan identity"
  let applicationEvidence ← digest "application evidence identity"
  let expectedPackage ← optional "expected package presence" (digest "expected package identity")
  let proposedPackage ← optional "proposed package presence" do
    let proposedBytes ← text "proposed package body"
    Reader.lift (decodeProposedPackage sha256 proposedBytes.bytes expectedSnapshot.targetBinding
      packageName)
  Reader.lift (buildDelta kind packageName operationPlan applicationEvidence expectedPackage
    proposedPackage)

/-- The reads of `decode_state_publication_request`. -/
def decodeRequestRecord (body : Bytes) (expectedSnapshot : Snapshot sha256) :
    Decoder Failure (StatePublicationRequestIdentity × StdVector (PackageStateDelta sha256) ×
      Option TransactionEvidenceIdentity) := do
  readPrefix "publication request" requestMagic statePublicationRequestEncodingVersion body
  let encodedIdentity ← digest "publication request identity"
  let encodedExpected ← digest "expected snapshot identity"
  let encodedTarget ← digest "target binding identity"
  if encodedExpected ≠ expectedSnapshot.identity ∨
      encodedTarget ≠ expectedSnapshot.targetBinding.identity then
    Reader.fail (codecError .expectedSnapshotMismatch
      (ascii "publication request belongs to another expected snapshot"))
  else do
    let deltas ← counted "publication delta count" (decodeDelta expectedSnapshot)
    let transaction ← optional "transaction evidence presence"
      (digest "transaction evidence identity")
    Reader.finish publicationFailures
    pure (encodedIdentity, deltas, transaction)

/-- `require_canonical_request`. -/
def requireCanonicalRequest (encoded : Bytes) (request : StatePublicationRequest sha256) :
    Except Failure Unit := do
  let canonical ← encodeStatePublicationRequest request
  if canonical ≠ encoded then
    .error (codecError .invalidValue (ascii "publication request is not canonically encoded"))
  else .ok ()

/-- `decode_state_publication_request`. -/
def decodeStatePublicationRequest (encoding : Bytes) (expectedSnapshot : Snapshot sha256) :
    Except Failure (StatePublicationRequest sha256) :=
  rethrowAsInvalidValue (ascii "invalid publication request encoding: ") do
    let body ← verifiedBody sha256 encoding maximumStatePublicationRequestEncodingSize
    let ((encodedIdentity, deltas, transaction), _) ←
      decodeRequestRecord body expectedSnapshot ⟨body, 0⟩
    let result ← StatePublicationRequest.make expectedSnapshot deltas transaction
    if result.identity ≠ encodedIdentity then
      .error (codecError .identityMismatch
        (ascii "publication request identity does not match reconstructed evidence"))
    else do
      requireCanonicalRequest encoding result
      pure result

/-! ## What the encoder writes -/

/-- One package is a snapshot of its own. -/
theorem make_proposed (package : InstalledPackage sha256) :
    ∃ proposed, Snapshot.make package.targetBinding [package] = .ok proposed ∧
      proposed.targetBinding = package.targetBinding ∧ proposed.packages = [package] := by
  have single {a : InstalledPackage sha256} (member : a ∈ [package]) : a = package :=
    List.mem_singleton.mp member
  obtain ⟨proposed, built⟩ : ∃ proposed,
      Snapshot.make package.targetBinding [package] = .ok proposed := by
    refine Snapshot.make_of_distinct ?_ (List.nodup_singleton _) ?_
    · intro a member
      rw [single member]
    · intro a aMember b bMember _
      rw [single aMember, single bMember]
  obtain ⟨target, perm⟩ := Snapshot.make_ok built
  exact ⟨proposed, built, target, List.perm_singleton.mp perm⟩

/-- The body that a proposed package is written as. -/
def proposedBody (package : InstalledPackage sha256) : Bytes :=
  match encodeProposedPackage package with
  | .ok body => body
  | .error _ => []

theorem encodeProposedPackage_eq (package : InstalledPackage sha256) :
    encodeProposedPackage package = .ok (proposedBody package) := by
  obtain ⟨proposed, built, _⟩ := make_proposed package
  unfold proposedBody encodeProposedPackage
  rw [built]
  rfl

/-- The bytes that a delta is written as. -/
def deltaEncoding (delta : PackageStateDelta sha256) : Bytes :=
  [toByte delta.kind] ++ stringBytes delta.packageName.bytes ++
    storedDigest delta.operationPlan ++ storedDigest delta.applicationEvidence ++
    optionalBytes (fun expected : InstalledPackageIdentity => storedDigest expected)
      delta.expectedPackage ++
    optionalBytes (fun package => stringBytes (proposedBody package)) delta.proposedPackage

/-- No delta has a shape that the encoder refuses. -/
theorem requireRequestShape_ok (delta : PackageStateDelta sha256) :
    requireRequestShape delta = .ok () := by
  unfold requireRequestShape
  rcases delta.factory with ⟨_, kind, expects, proposes, _⟩ |
    ⟨_, _, kind, expects, proposes, _⟩ | ⟨_, kind, expects, proposes, _⟩
  all_goals
    rw [kind, expects, proposes]
    rfl

theorem encodeDelta_eq (delta : PackageStateDelta sha256) :
    encodeDelta delta = .ok (deltaEncoding delta) := by
  unfold encodeDelta deltaEncoding
  rw [requireRequestShape_ok]
  cases delta.proposedPackage with
  | none => rfl
  | some package =>
      rw [encodeProposed, encodeProposedPackage_eq]
      rfl

theorem encodeDeltas_eq (deltas : List (PackageStateDelta sha256)) :
    encodeDeltas deltas = .ok (deltas.flatMap deltaEncoding) := by
  induction deltas with
  | nil => rfl
  | cons delta rest ih =>
      rw [encodeDeltas, encodeDelta_eq, ih, List.flatMap_cons]
      rfl

/-- A request record without its checksum. -/
def requestBody (request : StatePublicationRequest sha256) : Bytes :=
  requestMagic ++ u16Bytes statePublicationRequestEncodingVersion ++
    (storedDigest request.identity ++ (storedDigest request.expectedSnapshot ++
      (storedDigest request.targetBinding.identity ++
        (countedBytes deltaEncoding request.deltas.toList ++
          optionalBytes (fun evidence : TransactionEvidenceIdentity => storedDigest evidence)
            request.transactionEvidence))))

theorem encodeStatePublicationRequest_eq (request : StatePublicationRequest sha256) :
    encodeStatePublicationRequest request =
      appendChecksum sha256 (requestBody request) maximumStatePublicationRequestEncodingSize := by
  rw [encodeStatePublicationRequest, encodeDeltas_eq]
  simp only [requestBody, countedBytes, List.append_assoc]
  rfl

/-! ## Removals -/

/-- The size of a removal, with a name of seven bytes. -/
theorem length_deltaEncoding_removing {package : InstalledPackage sha256}
    (named : package.name.bytes.length = 7) :
    (deltaEncoding (.removing package)).length = 264 := by
  simp only [deltaEncoding, PackageStateDelta.removing, optionalBytes, boolBytes, stringBytes,
    List.length_append, List.length_singleton, length_u64Bytes, length_storedDigest,
    Option.elim_some, Option.elim_none, List.length_nil, named]

/-- The size of a request body whose deltas have one size: the digests of its head and
its transaction evidence take 347 bytes at most. -/
theorem length_requestBody_le {request : StatePublicationRequest sha256} {size : Nat}
    (each : ∀ delta ∈ request.deltas.toList, (deltaEncoding delta).length = size) :
    (requestBody request).length ≤ 347 + size * request.deltas.toList.length := by
  have written : (request.deltas.toList.flatMap deltaEncoding).length =
      size * request.deltas.toList.length := by
    rw [List.length_flatMap, List.map_congr_left each, List.map_const', List.sum_replicate_nat,
      Nat.mul_comm]
  have evidence : (optionalBytes (fun value : TransactionEvidenceIdentity => storedDigest value)
      request.transactionEvidence).length ≤ 83 := by
    cases request.transactionEvidence with
    | none => decide
    | some value =>
        simp only [optionalBytes, boolBytes, Option.elim_some, List.length_append,
          List.length_singleton, length_storedDigest, Nat.le_refl]
  have magic : requestMagic.length = 8 := rfl
  simp only [requestBody, countedBytes, List.length_append, length_storedDigest,
    length_u16Bytes, length_u64Bytes, written, magic]
  omega

/-- Up to four million packages can be removed at once in a record that fits. -/
theorem removals_encoded (binding : StateTargetBinding sha256)
    (transaction : TransactionEvidenceIdentity) {packages : StdVector (InstalledPackage sha256)}
    {count : Nat} (numbered : packages.toList = numberedPackages binding count) (pos : 0 < count)
    (few : count ≤ 4000000) :
    ∃ expected request bytes,
      Snapshot.make binding packages.toList = .ok expected ∧
      StatePublicationRequest.make expected (packages.map .removing) (some transaction) =
        .ok request ∧
      request.deltas.toList.length = count ∧
      encodeStatePublicationRequest request = .ok bytes := by
  obtain ⟨expected, built⟩ := make_numberedPackages binding (show count ≤ 256 ^ 3 by omega)
  rw [← numbered] at built
  have size : packages.toList.length = count := by
    rw [numbered, length_numberedPackages]
  obtain ⟨request, made⟩ := StatePublicationRequest.make_removing transaction
    (List.ne_nil_of_length_pos (size ▸ pos)) (Snapshot.make_ok built).2.symm
  have arranged := (StatePublicationRequest.make_ok made).2.1
  have count_eq : request.deltas.toList.length = count := by
    rw [arranged.length_eq, ← size]
    exact List.length_map _
  have each : ∀ delta ∈ request.deltas.toList, (deltaEncoding delta).length = 264 := by
    intro delta member
    obtain ⟨package, inPackages, rfl⟩ := List.mem_map.mp (arranged.mem_iff.mp member)
    exact length_deltaEncoding_removing (mem_numberedPackages (numbered ▸ inPackages)).2.2
  have whole := length_requestBody_le each
  rw [count_eq] at whole
  have encoded : encodeStatePublicationRequest request =
      .ok (requestBody request ++ (sha256 (requestBody request)).toList) := by
    rw [encodeStatePublicationRequest_eq]
    refine appendChecksum_eq_ok.mpr ⟨?_, rfl⟩
    simp only [maximumStatePublicationRequestEncodingSize, checksumSize]
    omega
  exact ⟨expected, request, _, built, made, count_eq, encoded⟩

/-! ## Reading back -/

theorem decodeProposedPackage_proposedBody (package : InstalledPackage sha256) :
    decodeProposedPackage sha256 (proposedBody package) package.targetBinding package.name =
      .ok package := by
  obtain ⟨proposed, built, target, single⟩ := make_proposed package
  have body : proposedBody package = encodeGenerationSnapshot proposed := by
    rw [proposedBody, encodeProposedPackage, built]
    rfl
  have bound : proposed.packages.length < 2 ^ 64 := by
    rw [single, List.length_singleton]
    omega
  have accepted : ¬ (proposed.targetBinding ≠ package.targetBinding ∨
      proposed.packages.length ≠ 1) := by
    rw [target, single]
    simp
  rw [decodeProposedPackage, body]
  refine bind_eq_ok.mpr ⟨proposed, decodeGenerationSnapshot_encode proposed bound, ?_⟩
  rw [if_neg accepted, single]
  exact if_neg (not_not.mpr rfl)

theorem buildDelta_self (delta : PackageStateDelta sha256) :
    buildDelta delta.kind delta.packageName delta.operationPlan delta.applicationEvidence
      delta.expectedPackage delta.proposedPackage = .ok delta := by
  rcases delta.factory with ⟨_, kind, expects, proposes, _, built⟩ |
    ⟨_, _, kind, expects, proposes, _, _, built⟩ | ⟨_, kind, expects, proposes, built⟩
  all_goals
    rw [kind, expects, proposes]
    exact built

/-- A delta is read back against a snapshot of its proposed package's target. -/
theorem decodes_delta {expected : Snapshot sha256} {delta : PackageStateDelta sha256}
    (target : ∀ proposed, delta.proposedPackage = some proposed →
      proposed.targetBinding = expected.targetBinding)
    (size : (deltaEncoding delta).length < 2 ^ 64) :
    Decodes (decodeDelta expected) (deltaEncoding delta) delta := by
  have bodySize : ∀ proposed, delta.proposedPackage = some proposed →
      (proposedBody proposed).length < 2 ^ 64 := by
    intro proposed proposes
    simp only [deltaEncoding, proposes, optionalBytes, Option.elim_some, stringBytes,
      List.length_append] at size
    omega
  simp only [deltaEncoding, List.append_assoc]
  apply (decodes_enumeration _ delta.kind).bind
  apply (decodes_text _ delta.packageName).bind
  apply (decodes_digest _ delta.operationPlan).bind
  apply (decodes_digest _ delta.applicationEvidence).bind
  refine (decodes_optional _ _ delta.expectedPackage fun expected _ =>
    decodes_digest _ expected).bind ?_
  refine (decodes_optional _ _ delta.proposedPackage ?_).bind_pure ?_
  · intro proposed proposes
    refine (decodes_text _ ⟨proposedBody proposed, bodySize proposed proposes⟩).bind_pure ?_
    rw [← target proposed proposes, ← delta.proposed_name proposes,
      decodeProposedPackage_proposedBody]
    rfl
  · rw [buildDelta_self]
    rfl

theorem deltaEncoding_ne_nil (delta : PackageStateDelta sha256) : deltaEncoding delta ≠ [] := by
  simp [deltaEncoding]

theorem length_le_flatMap_of_mem {α : Type} {encode : α → Bytes} {values : List α} {value : α}
    (member : value ∈ values) : (encode value).length ≤ (values.flatMap encode).length := by
  obtain ⟨before, after, rfl⟩ := List.append_of_mem member
  simp only [List.flatMap_append, List.flatMap_cons, List.length_append]
  omega

/-- A request's body is read back against the snapshot the request was made
against, if its deltas are within the bound of the reader. -/
theorem completes_requestRecord {expected : Snapshot sha256}
    {request : StatePublicationRequest sha256} (made : request.MadeAgainst expected)
    (few : request.deltas.toList.length ≤ maximumCollectionCount)
    (size : (requestBody request).length < 2 ^ 64) :
    Completes (decodeRequestRecord (requestBody request) expected) (requestBody request)
      (request.identity, request.deltas.toStdVector, request.transactionEvidence) := by
  have deltaSize : ∀ delta ∈ request.deltas.toList, (deltaEncoding delta).length < 2 ^ 64 := by
    intro delta member
    have inside : (deltaEncoding delta).length ≤
        (request.deltas.toList.flatMap deltaEncoding).length := length_le_flatMap_of_mem member
    simp only [requestBody, countedBytes, List.length_append] at size
    omega
  have admitted : ¬ (request.expectedSnapshot ≠ expected.identity ∨
      request.targetBinding.identity ≠ expected.targetBinding.identity) := by
    rw [made.expectedSnapshot, made.targetBinding]
    simp
  apply (decodes_front _ _ (hasPrefix_append _ _ _)).completes_bind
  apply (decodes_digest _ request.identity).completes_bind
  apply (decodes_digest _ request.expectedSnapshot).completes_bind
  apply (decodes_digest _ request.targetBinding.identity).completes_bind
  rw [if_neg admitted, ← List.append_nil (optionalBytes _ _)]
  refine (decodes_counted publicationFailures _ request.deltas.toStdVector few
    (fun delta _ => deltaEncoding_ne_nil delta) ?_).completes_bind ?_
  · intro delta member
    exact decodes_delta (fun _ => (made.admits delta member).target) (deltaSize delta member)
  refine (decodes_optional publicationFailures _ request.transactionEvidence
    fun evidence _ => decodes_digest _ evidence).completes_bind ?_
  exact completes_finish publicationFailures _

/-! ## Exactness -/

theorem requireCanonicalRequest_eq_ok {bytes : Bytes} {request : StatePublicationRequest sha256} :
    requireCanonicalRequest bytes request = .ok () ↔
      encodeStatePublicationRequest request = .ok bytes := by
  rw [requireCanonicalRequest, bind_eq_ok]
  constructor
  · rintro ⟨encoded, written, passed⟩
    exact not_not.mp (check_eq_ok.mp passed) ▸ written
  · intro written
    exact ⟨bytes, written, check_eq_ok.mpr (not_not.mpr rfl)⟩

/-- What an accepted record decodes to could have been built against the expected
snapshot, and encodes to that record. -/
theorem decodeStatePublicationRequest_ok {bytes : Bytes} {expected : Snapshot sha256}
    {request : StatePublicationRequest sha256}
    (decoded : decodeStatePublicationRequest bytes expected = .ok request) :
    (∃ deltas transaction,
        StatePublicationRequest.make expected deltas transaction = .ok request) ∧
      encodeStatePublicationRequest request = .ok bytes := by
  rcases bind_eq_ok.mp (rethrowAsInvalidValue_eq_ok.mp decoded) with ⟨body, _, rest⟩
  rcases bind_eq_ok.mp rest with ⟨⟨⟨identity, deltas, transaction⟩, _⟩, _, rest⟩
  rcases bind_eq_ok.mp rest with ⟨result, built, rest⟩
  obtain ⟨_, rest⟩ := ite_error_eq_ok.mp rest
  rcases bind_eq_ok.mp rest with ⟨_, canonical, returned⟩
  cases returned
  exact ⟨⟨deltas, transaction, built⟩, requireCanonicalRequest_eq_ok.mp canonical⟩

/-- An encoded request decodes against the snapshot it was made against. -/
theorem decodeStatePublicationRequest_encode {bytes : Bytes} {expected : Snapshot sha256}
    {request : StatePublicationRequest sha256} (made : request.MadeAgainst expected)
    (few : request.deltas.toList.length ≤ maximumCollectionCount)
    (encoded : encodeStatePublicationRequest request = .ok bytes) :
    decodeStatePublicationRequest bytes expected = .ok request := by
  have appended := encoded
  rw [encodeStatePublicationRequest_eq] at appended
  have verified := verifiedBody_of_appendChecksum (by decide) appended
  have size : (requestBody request).length < 2 ^ 64 := by
    have within := (appendChecksum_eq_ok.mp appended).1
    simp only [maximumStatePublicationRequestEncodingSize, checksumSize] at within
    omega
  have read := (completes_requestRecord made few size).run
  refine rethrowAsInvalidValue_eq_ok.mpr (bind_eq_ok.mpr ⟨_, verified, ?_⟩)
  refine bind_eq_ok.mpr ⟨_, read, ?_⟩
  refine bind_eq_ok.mpr ⟨request, StatePublicationRequest.make_self made, ?_⟩
  rw [if_neg (not_not.mpr rfl)]
  exact bind_eq_ok.mpr ⟨(), requireCanonicalRequest_eq_ok.mpr encoded, rfl⟩

/-- Requests with one encoding expect one snapshot of one target. -/
theorem authority_of_encode {bytes : Bytes} {a b : StatePublicationRequest sha256}
    (aEncoded : encodeStatePublicationRequest a = .ok bytes)
    (bEncoded : encodeStatePublicationRequest b = .ok bytes) :
    a.expectedSnapshot = b.expectedSnapshot ∧
      a.targetBinding.identity = b.targetBinding.identity := by
  rw [encodeStatePublicationRequest_eq] at aEncoded bEncoded
  have bodies := List.append_cancel_left (appendChecksum_inj aEncoded bEncoded)
  obtain ⟨_, rest⟩ := selfDelimiting_storedDigest.strip bodies
  obtain ⟨expected, rest⟩ := selfDelimiting_storedDigest.strip rest
  obtain ⟨target, _⟩ := selfDelimiting_storedDigest.strip rest
  exact ⟨expected, target⟩

/-- The request codec is exact relative to its authority. A record decodes only
to a request that `make` builds against the given snapshot and that encodes to
it; a request of at most 1048576 deltas decodes back to itself; and no record
decodes against a snapshot of another identity or another target than the one it
was written for. -/
theorem statePublicationRequest_exact (expected : Snapshot sha256) :
    (∀ (bytes : Bytes) (request : StatePublicationRequest sha256),
      decodeStatePublicationRequest bytes expected = .ok request →
      (∃ deltas transaction,
        StatePublicationRequest.make expected deltas transaction = .ok request) ∧
      encodeStatePublicationRequest request = .ok bytes) ∧
    (∀ (deltas : StdVector (PackageStateDelta sha256))
      (transaction : Option TransactionEvidenceIdentity)
      (request : StatePublicationRequest sha256) (bytes : Bytes),
      StatePublicationRequest.make expected deltas transaction = .ok request →
      request.deltas.toList.length ≤ 1048576 →
      encodeStatePublicationRequest request = .ok bytes →
      decodeStatePublicationRequest bytes expected = .ok request) ∧
    ∀ (other : Snapshot sha256) (deltas : StdVector (PackageStateDelta sha256))
      (transaction : Option TransactionEvidenceIdentity)
      (request decoded : StatePublicationRequest sha256) (bytes : Bytes),
      StatePublicationRequest.make other deltas transaction = .ok request →
      encodeStatePublicationRequest request = .ok bytes →
      decodeStatePublicationRequest bytes expected = .ok decoded →
      expected.identity = other.identity ∧
        expected.targetBinding.identity = other.targetBinding.identity := by
  refine ⟨?_, ?_, ?_⟩
  · intro bytes request decoded
    exact decodeStatePublicationRequest_ok decoded
  · intro deltas transaction request bytes built few encoded
    exact decodeStatePublicationRequest_encode (StatePublicationRequest.make_ok built).1 few
      encoded
  · intro other deltas transaction request decoded bytes built encoded accepted
    obtain ⟨⟨_, _, rebuilt⟩, again⟩ := decodeStatePublicationRequest_ok accepted
    obtain ⟨madeOther, _⟩ := StatePublicationRequest.make_ok built
    obtain ⟨madeHere, _⟩ := StatePublicationRequest.make_ok rebuilt
    obtain ⟨snapshot, target⟩ := authority_of_encode again encoded
    rw [madeHere.expectedSnapshot, madeOther.expectedSnapshot] at snapshot
    rw [madeHere.targetBinding, madeOther.targetBinding] at target
    exact ⟨snapshot, target⟩

theorem statePublicationRequest_exact_removals :
    ∃ (expected : Snapshot Sha256.hash) (request : StatePublicationRequest Sha256.hash)
      (bytes : Bytes), encodeStatePublicationRequest request = .ok bytes ∧
      decodeStatePublicationRequest bytes expected = .ok request := by
  let packages : StdVector (InstalledPackage Sha256.hash) :=
    ⟨numberedPackages Fixture.binding 2, by rw [length_numberedPackages]; decide⟩
  obtain ⟨expected, request, bytes, _, made, count, encoded⟩ := removals_encoded
    Fixture.binding (Fixture.identity 100) (show packages.toList = _ from rfl) Nat.zero_lt_two
    (by decide)
  refine ⟨expected, request, bytes, encoded, ?_⟩
  exact (statePublicationRequest_exact expected).2.1 _ (some (Fixture.identity 100)) request bytes
    made (count ▸ (by decide)) encoded

end Pkgstate
