import Pkgstate.CodecLimits
import Pkgstate.PublicationIdentity

/-!
# The record formats beside each other

Four decoders read the durable records of the library, and each record of a value is
hashed for its identity besides. `formats_separated` keeps these byte strings apart,
`alterations_refused` says what the checksum of a publication record protects, and
`foreignAuthorities_refused` what a publication record is refused with under another
authority than its own.
-/

namespace Pkgstate

open Wire Cpp

variable {sha256 : Sha256}

/-! ## Magics -/

/-- The durable records. -/
inductive RecordKind
  | binding
  | snapshot
  | request
  | receipt
deriving DecidableEq

/-- The bytes in front of a record. -/
def RecordKind.magic : RecordKind → Bytes
  | .binding => bindingMagic
  | .snapshot => snapshotMagic
  | .request => requestMagic
  | .receipt => receiptMagic

/-- The decoder of a kind accepts the bytes, under some authority where it needs one. -/
inductive Accepted (sha256 : Sha256) : RecordKind → Bytes → Prop
  | binding {bytes : Bytes} {value : StateTargetBinding sha256} :
      decodeGenerationBinding sha256 bytes = .ok value → Accepted sha256 .binding bytes
  | snapshot {bytes : Bytes} {value : Snapshot sha256} :
      decodeGenerationSnapshot sha256 bytes = .ok value → Accepted sha256 .snapshot bytes
  | request {bytes : Bytes} {expected : Snapshot sha256}
      {value : StatePublicationRequest sha256} :
      decodeStatePublicationRequest bytes expected = .ok value → Accepted sha256 .request bytes
  | receipt {bytes : Bytes} {request : StatePublicationRequest sha256}
      {actualPrior : Snapshot sha256} {value : StatePublicationReceipt sha256} :
      decodeStatePublicationReceipt bytes request actualPrior = .ok value →
      Accepted sha256 .receipt bytes

/-- No magic begins with another, nor with the magic of the hashed records. -/
theorem RecordKind.magic_front_iff {kind other : RecordKind} :
    kind.magic <+: other.magic ↔ kind = other := by
  cases kind <;> cases other <;> decide

theorem RecordKind.magic_apart (kind : RecordKind) :
    ¬ kind.magic <+: CanonicalRecord.recordMagic ∧
      ¬ CanonicalRecord.recordMagic <+: kind.magic := by
  cases kind <;> decide

/-- What two byte strings begin with, if one of them begins with the other. -/
theorem front_or_front {first second bytes more : Bytes} (front : first <+: bytes)
    (other : second <+: more) (both : bytes <+: more) : first <+: second ∨ second <+: first :=
  List.prefix_or_prefix_of_prefix (front.trans both) other

section Bodies

variable {request : StatePublicationRequest sha256} {receipt : StatePublicationReceipt sha256}
  {bytes : Bytes}

/-- A request record is its body and the checksum of it. -/
theorem requestRecord_eq (encoded : encodeStatePublicationRequest request = .ok bytes) :
    bytes = requestBody request ++ (sha256 (requestBody request)).toList := by
  rw [encodeStatePublicationRequest_eq] at encoded
  exact (appendChecksum_eq_ok.mp encoded).2.symm

theorem receiptRecord_eq (encoded : encodeStatePublicationReceipt receipt = .ok bytes) :
    bytes = receiptBody receipt ++ (sha256 (receiptBody receipt)).toList :=
  (appendChecksum_eq_ok.mp encoded).2.symm

end Bodies

/-- An accepted record begins with the magic of its kind. -/
theorem Accepted.front {kind : RecordKind} {bytes : Bytes} (accepted : Accepted sha256 kind bytes) :
    kind.magic <+: bytes := by
  cases accepted with
  | binding decoded =>
      rw [← encode_of_decodeGenerationBinding decoded]
      simp only [encodeGenerationBinding, List.append_assoc]
      exact List.prefix_append _ _
  | snapshot decoded =>
      rw [← (encode_of_decodeGenerationSnapshot decoded).1]
      simp only [encodeGenerationSnapshot, List.append_assoc]
      exact List.prefix_append _ _
  | request decoded =>
      rw [requestRecord_eq (decodeStatePublicationRequest_ok decoded).2]
      simp only [requestBody, List.append_assoc]
      exact List.prefix_append _ _
  | receipt decoded =>
      rw [receiptRecord_eq (decodeStatePublicationReceipt_ok decoded).2]
      simp only [receiptBody, List.append_assoc]
      exact List.prefix_append _ _

/-- Of two accepted records one stands at the front of the other only if they are of one
kind. -/
theorem Accepted.kind_eq {kind other : RecordKind} {bytes more : Bytes}
    (accepted : Accepted sha256 kind bytes) (otherAccepted : Accepted sha256 other more)
    (both : bytes <+: more) : kind = other := by
  rcases front_or_front accepted.front otherAccepted.front both with front | front
  · exact RecordKind.magic_front_iff.mp front
  · exact (RecordKind.magic_front_iff.mp front).symm

/-- The formats are separated. No byte string is accepted by two of the four decoders,
whatever their authorities, and none begins with a record of another decoder. And the
records that are hashed for identities, of whatever domain and with whatever fields,
neither begin with an accepted record nor stand at the front of one. -/
theorem formats_separated {kind : RecordKind} {bytes : Bytes}
    (accepted : Accepted sha256 kind bytes) :
    (∀ other more, Accepted sha256 other more → bytes <+: more → kind = other) ∧
    ∀ (domain : IdentityDomain) (fields : Bytes),
      ¬ bytes <+: CanonicalRecord.header domain ++ fields ∧
      ¬ CanonicalRecord.header domain ++ fields <+: bytes := by
  refine ⟨?_, ?_⟩
  · intro other more otherAccepted both
    exact accepted.kind_eq otherAccepted both
  · intro domain fields
    have hashed : CanonicalRecord.recordMagic <+: CanonicalRecord.header domain ++ fields := by
      simp only [CanonicalRecord.header, List.append_assoc]
      exact List.prefix_append _ _
    obtain ⟨shorter, longer⟩ := kind.magic_apart
    refine ⟨fun both => ?_, fun both => ?_⟩
    · exact (front_or_front accepted.front hashed both).elim shorter longer
    · exact (front_or_front hashed accepted.front both).elim longer shorter

theorem formats_separated_empty :
    ∃ bytes, Accepted Sha256.hash .snapshot bytes ∧ ¬ Accepted Sha256.hash .binding bytes ∧
      ∀ fields, bytes ≠ CanonicalRecord.header .installedStateSnapshot ++ fields := by
  have accepted : Accepted Sha256.hash .snapshot
      (encodeGenerationSnapshot (Snapshot.empty Fixture.binding)) :=
    .snapshot (decodeGenerationSnapshot_encode _ (by decide))
  obtain ⟨alone, hashed⟩ := formats_separated accepted
  refine ⟨_, accepted, fun other => ?_, fun fields same => ?_⟩
  · cases alone .binding _ other List.prefix_rfl
  · exact (hashed .installedStateSnapshot fields).2 (same ▸ List.prefix_rfl)

/-! ## Checksums -/

/-- The refusal of a checksum. -/
abbrev checksumMismatch : Failure :=
  codecError .checksumMismatch (ascii "publication evidence checksum does not match")

/-- The bytes in front of a checksum, and the checksum. -/
def bodyOf (bytes : Bytes) : Bytes := bytes.take (bytes.length - checksumSize)

def checksumOf (bytes : Bytes) : Bytes := bytes.drop (bytes.length - checksumSize)

/-- A record is altered in its body or in its checksum, and not in both. -/
structure Altered (bytes other : Bytes) : Prop where
  length : other.length = bytes.length
  differs : other ≠ bytes
  part : bodyOf other = bodyOf bytes ∨ checksumOf other = checksumOf bytes

theorem verifiedBody_eq_ok {bytes body : Bytes} {maximumSize : Nat} :
    verifiedBody sha256 bytes maximumSize = .ok body ↔
      bytes.length ≤ maximumSize ∧ checksumSize ≤ bytes.length ∧
        (sha256 (bodyOf bytes)).toList = checksumOf bytes ∧ bodyOf bytes = body := by
  unfold verifiedBody
  split
  · next large => exact ⟨nofun, fun fits => by omega⟩
  · next fits =>
      split
      · next small => exact ⟨nofun, fun large => by omega⟩
      · next large =>
          change (if (sha256 (bodyOf bytes)).toList ≠ checksumOf bytes then _ else _) = _ ↔ _
          split
          · next differs => exact ⟨nofun, fun same => absurd same.2.2.1 differs⟩
          · next same =>
              rw [Except.ok.injEq]
              exact ⟨fun body => ⟨by omega, by omega, not_not.mp same, body⟩, fun all => all.2.2.2⟩

/-- An altered record of a verified one is not verified. -/
theorem verifiedBody_altered {bytes other body : Bytes} {maximumSize : Nat}
    (verified : verifiedBody sha256 bytes maximumSize = .ok body) (altered : Altered bytes other)
    (free : CollisionFree sha256 [bodyOf bytes, bodyOf other]) :
    verifiedBody sha256 other maximumSize = .error checksumMismatch := by
  obtain ⟨fits, large, checked, _⟩ := verifiedBody_eq_ok.mp verified
  have whole (record : Bytes) : bodyOf record ++ checksumOf record = record :=
    List.take_append_drop _ _
  have differs : (sha256 (bodyOf other)).toList ≠ checksumOf other := by
    intro same
    apply altered.differs
    rcases altered.part with body | checksum
    · rw [← whole other, ← whole bytes, body, ← same, ← checked, body]
    · rw [checksum, ← checked] at same
      have bodies := free _ (by simp) _ (by simp) (Vector.toList_inj.mp same)
      rw [← whole other, ← whole bytes, bodies, checksum]
  unfold verifiedBody
  rw [altered.length, if_neg (by omega), if_neg (by omega), ← altered.length]
  exact if_pos differs

/-- An accepted publication record that is altered in its body or in its checksum is
refused for its checksum, under every authority, unless the altered body has the digest
of the original one. -/
theorem alterations_refused {bytes other : Bytes} (altered : Altered bytes other)
    (free : CollisionFree sha256 [bodyOf bytes, bodyOf other]) :
    (Accepted sha256 .request bytes → ∀ expected : Snapshot sha256,
      decodeStatePublicationRequest other expected = .error checksumMismatch) ∧
    (Accepted sha256 .receipt bytes →
      ∀ (request : StatePublicationRequest sha256) (actualPrior : Snapshot sha256),
        decodeStatePublicationReceipt other request actualPrior = .error checksumMismatch) := by
  refine ⟨?_, ?_⟩
  · intro accepted expected
    cases accepted with
    | request decoded =>
        rcases bind_eq_ok.mp (rethrowAsInvalidValue_eq_ok.mp decoded) with ⟨body, verified, _⟩
        unfold decodeStatePublicationRequest
        rw [verifiedBody_altered verified altered free]
        rfl
  · intro accepted request actualPrior
    cases accepted with
    | receipt decoded =>
        rcases bind_eq_ok.mp (rethrowAsInvalidValue_eq_ok.mp decoded) with ⟨body, verified, _⟩
        unfold decodeStatePublicationReceipt
        rw [verifiedBody_altered verified altered free]
        rfl

/-- A record with another byte in its checksum is refused for it. -/
theorem alterations_refused_removal :
    ∃ bytes other : Bytes, other ≠ bytes ∧ other.length = bytes.length ∧
      (∃ request, decodeStatePublicationRequest bytes Fixture.installed = .ok request) ∧
      decodeStatePublicationRequest other Fixture.installed = .error checksumMismatch := by
  obtain ⟨bytes, encoded⟩ := Fixture.removal_encoded
  have decoded := decodeStatePublicationRequest_encode Fixture.removal_made (by decide) encoded
  rcases bind_eq_ok.mp (rethrowAsInvalidValue_eq_ok.mp decoded) with ⟨body, verified, _⟩
  obtain ⟨_, large, _, _⟩ := verifiedBody_eq_ok.mp verified
  have apart : ∃ byte : UInt8, List.replicate checksumSize byte ≠ checksumOf bytes := by
    by_cases zero : List.replicate checksumSize 0 = checksumOf bytes
    · exact ⟨1, fun one => absurd (zero.trans one.symm) (by decide)⟩
    · exact ⟨0, zero⟩
  obtain ⟨byte, differs⟩ := apart
  let other := bodyOf bytes ++ List.replicate checksumSize byte
  have length : other.length = bytes.length := by
    simp only [other, bodyOf, List.length_append, List.length_take, List.length_replicate]
    omega
  have cut : other.length - checksumSize = (bodyOf bytes).length := by
    simp only [other, List.length_append, List.length_replicate, Nat.add_sub_cancel]
  have body : bodyOf other = bodyOf bytes := by
    rw [bodyOf, cut]
    exact List.take_left
  have altered : Altered bytes other := by
    refine ⟨length, fun same => differs ?_, Or.inl body⟩
    rw [← same, checksumOf, cut]
    exact List.drop_left.symm
  have free : CollisionFree Sha256.hash [bodyOf bytes, bodyOf other] := by
    rw [body]
    simp [CollisionFree]
  exact ⟨bytes, other, altered.differs, length, ⟨Fixture.removal, decoded⟩,
    (alterations_refused altered free).1 (.request decoded) Fixture.installed⟩

/-! ## Authorities -/

/-- The refusals of a foreign authority. -/
abbrev expectedSnapshotMismatch : Failure := codecError .expectedSnapshotMismatch
  (ascii "publication request belongs to another expected snapshot")

abbrev requestMismatch : Failure :=
  codecError .requestMismatch (ascii "publication receipt belongs to another request")

abbrev actualPriorMismatch : Failure := codecError .actualPriorMismatch
  (ascii "publication receipt belongs to another actual prior snapshot")

section Request

variable {request : StatePublicationRequest sha256} {own expected : Snapshot sha256} {bytes : Bytes}

/-- A request is refused behind its header under a snapshot of another identity. -/
theorem refuses_foreignSnapshot (foreign : request.expectedSnapshot ≠ expected.identity) :
    Refuses (decodeRequestRecord (requestBody request) expected) (requestBody request)
      expectedSnapshotMismatch := by
  apply (decodes_front _ _ (hasPrefix_append _ _ _)).refuses_bind
  apply (Publication.decodes_digest _ request.identity).refuses_bind
  apply (Publication.decodes_digest _ request.expectedSnapshot).refuses_bind
  apply (Publication.decodes_digest _ request.targetBinding.identity).refuses_bind
  rw [if_pos (Or.inl foreign)]
  exact fun _ _ => rfl

/-- The record of a request, under every snapshot. -/
theorem decodeStatePublicationRequest_under (made : request.MadeAgainst own)
    (encoded : encodeStatePublicationRequest request = .ok bytes)
    (free : CollisionFree sha256 (own.records ++ expected.records)) :
    decodeStatePublicationRequest bytes expected =
      if expected.identity ≠ own.identity then .error expectedSnapshotMismatch
      else if request.deltas.toList.length ≤ 1048576 then .ok request
      else .error deltaCountExceeded := by
  split
  · next different =>
      have foreign : request.expectedSnapshot ≠ expected.identity := by
        rw [made.expectedSnapshot]
        exact Ne.symm different
      exact decodeStatePublicationRequest_refused encoded (refuses_foreignSnapshot foreign)
  · next same =>
      have equal : expected = own := Snapshot.eq_of_identity_eq free
        (List.subset_append_right _ _) (List.subset_append_left _ _) (not_not.mp same)
      rw [equal]
      split
      · next few => exact decodeStatePublicationRequest_encode made few encoded
      · next many =>
          exact decodeStatePublicationRequest_of_many made (Nat.lt_of_not_le many) encoded

end Request

section Receipt

variable {request authority : StatePublicationRequest sha256}
  {actualPrior prior : Snapshot sha256} {receipt : StatePublicationReceipt sha256} {bytes : Bytes}

theorem refuses_foreignRequest (foreign : receipt.request ≠ authority.identity) :
    Refuses (decodeReceiptRecord (receiptBody receipt) authority prior) (receiptBody receipt)
      requestMismatch := by
  apply (decodes_front _ _ (hasPrefix_append _ _ _)).refuses_bind
  apply (Publication.decodes_digest _ receipt.identity).refuses_bind
  apply (Publication.decodes_digest _ receipt.request).refuses_bind
  apply (Publication.decodes_digest _ receipt.expectedPriorSnapshot).refuses_bind
  apply (Publication.decodes_digest _ receipt.actualPriorSnapshot).refuses_bind
  apply (Publication.decodes_digest _ receipt.targetBinding.identity).refuses_bind
  rw [if_pos (Or.inl foreign)]
  exact fun _ _ => rfl

theorem refuses_foreignPrior (cites : receipt.Cites request actualPrior)
    (foreign : receipt.actualPriorSnapshot ≠ prior.identity) :
    Refuses (decodeReceiptRecord (receiptBody receipt) request prior) (receiptBody receipt)
      actualPriorMismatch := by
  have requested : ¬ (receipt.request ≠ request.identity ∨
      receipt.expectedPriorSnapshot ≠ request.expectedSnapshot) := by
    rw [cites.cited, cites.expected]
    simp
  apply (decodes_front _ _ (hasPrefix_append _ _ _)).refuses_bind
  apply (Publication.decodes_digest _ receipt.identity).refuses_bind
  apply (Publication.decodes_digest _ receipt.request).refuses_bind
  apply (Publication.decodes_digest _ receipt.expectedPriorSnapshot).refuses_bind
  apply (Publication.decodes_digest _ receipt.actualPriorSnapshot).refuses_bind
  apply (Publication.decodes_digest _ receipt.targetBinding.identity).refuses_bind
  rw [if_neg requested, if_pos foreign]
  exact fun _ _ => rfl

theorem decodeStatePublicationReceipt_refused {failure : Failure}
    (encoded : encodeStatePublicationReceipt receipt = .ok bytes)
    (refuses : Refuses (decodeReceiptRecord (receiptBody receipt) authority prior)
      (receiptBody receipt) failure) :
    decodeStatePublicationReceipt bytes authority prior =
      rethrowAsInvalidValue (ascii "invalid publication receipt encoding: ")
        (.error failure) := by
  have verified := verifiedBody_of_appendChecksum (by decide) encoded
  unfold decodeStatePublicationReceipt
  rw [verified]
  change rethrowAsInvalidValue _
    (decodeReceiptRecord (receiptBody receipt) authority prior ⟨receiptBody receipt, 0⟩ >>= _) = _
  rw [refuses.run]
  rfl

/-- The record of a receipt, under every request and every prior state. -/
theorem decodeStatePublicationReceipt_under (built : BuiltFrom request actualPrior receipt)
    (encoded : encodeStatePublicationReceipt receipt = .ok bytes)
    (requestsFree : CollisionFree sha256 (request.records ++ authority.records))
    (priorsFree : CollisionFree sha256 (actualPrior.records ++ prior.records)) :
    decodeStatePublicationReceipt bytes authority prior =
      if authority.identity ≠ request.identity then .error requestMismatch
      else if prior.identity ≠ actualPrior.identity then .error actualPriorMismatch
      else .ok receipt := by
  have cites := (StatePublicationReceipt.coherent_of_builtFrom built).1
  split
  · next different =>
      have foreign : receipt.request ≠ authority.identity := by
        rw [cites.cited]
        exact Ne.symm different
      rw [decodeStatePublicationReceipt_refused encoded (refuses_foreignRequest foreign)]
      rfl
  · next same =>
      obtain rfl := StatePublicationRequest.eq_of_identity_eq requestsFree (not_not.mp same).symm
      split
      · next different =>
          have foreign : receipt.actualPriorSnapshot ≠ prior.identity := by
            rw [cites.actual]
            exact Ne.symm different
          rw [decodeStatePublicationReceipt_refused encoded (refuses_foreignPrior cites foreign)]
          rfl
      · next same =>
          have equal : prior = actualPrior := Snapshot.eq_of_identity_eq priorsFree
            (List.subset_append_right _ _) (List.subset_append_left _ _) (not_not.mp same)
          rw [equal]
          exact decodeStatePublicationReceipt_encode built encoded

end Receipt

/-- A publication record is bound to its authority. Unless hashed records collide, the
record of a request is refused under every snapshot but the one it was made against for
its expected snapshot; under that one it decodes, or is refused for the number of its
deltas. The record of a receipt decodes under its own request and prior state; under
every other request it is refused for that, whatever the prior state, and under its
request and another prior state it is refused for the prior state. -/
theorem foreignAuthorities_refused :
    (∀ (request : StatePublicationRequest sha256) (own expected : Snapshot sha256) (bytes : Bytes),
      request.MadeAgainst own → encodeStatePublicationRequest request = .ok bytes →
      CollisionFree sha256 (own.records ++ expected.records) →
      decodeStatePublicationRequest bytes expected =
        if expected.identity ≠ own.identity then .error expectedSnapshotMismatch
        else if request.deltas.toList.length ≤ 1048576 then .ok request
        else .error deltaCountExceeded) ∧
    ∀ (request authority : StatePublicationRequest sha256) (actualPrior prior : Snapshot sha256)
      (receipt : StatePublicationReceipt sha256) (bytes : Bytes),
      BuiltFrom request actualPrior receipt → encodeStatePublicationReceipt receipt = .ok bytes →
      CollisionFree sha256 (request.records ++ authority.records) →
      CollisionFree sha256 (actualPrior.records ++ prior.records) →
      decodeStatePublicationReceipt bytes authority prior =
        if authority.identity ≠ request.identity then .error requestMismatch
        else if prior.identity ≠ actualPrior.identity then .error actualPriorMismatch
        else .ok receipt := by
  refine ⟨?_, ?_⟩
  · intro request own expected bytes made encoded free
    exact decodeStatePublicationRequest_under made encoded free
  · intro request authority actualPrior prior receipt bytes built encoded requests priors
    exact decodeStatePublicationReceipt_under built encoded requests priors

/-- The removal of a package and its receipt are refused in a state without it. -/
theorem foreignAuthorities_refused_removal :
    ∃ requestBytes receiptBytes : Bytes,
      encodeStatePublicationRequest Fixture.removal = .ok requestBytes ∧
      decodeStatePublicationRequest requestBytes (Snapshot.empty Fixture.binding) =
        .error expectedSnapshotMismatch ∧
      encodeStatePublicationReceipt Fixture.rejection = .ok receiptBytes ∧
      decodeStatePublicationReceipt receiptBytes Fixture.removal
        (Snapshot.empty Fixture.binding) = .error actualPriorMismatch := by
  obtain ⟨requestBytes, requestEncoded⟩ := Fixture.removal_encoded
  obtain ⟨receiptBytes, receiptEncoded⟩ :=
    encodeStatePublicationReceipt_ok Fixture.rejection (by decide)
  have free : CollisionFree Sha256.hash
      (Fixture.installed.records ++ (Snapshot.empty Fixture.binding).records) :=
    Fixture.collisionFree_installed.mono (List.append_subset.mpr
      ⟨List.subset_append_right _ _, List.subset_append_left _ _⟩)
  have own : CollisionFree Sha256.hash (Fixture.removal.records ++ Fixture.removal.records) :=
    Fixture.collisionFree_rejection.mono (by simp)
  have different : (Snapshot.empty Fixture.binding).identity ≠ Fixture.installed.identity := by
    intro same
    have equal := Snapshot.eq_of_identity_eq free (List.subset_append_right _ _)
      (List.subset_append_left _ _) same
    exact absurd (congrArg (fun state => state.packages.length) equal) (by decide)
  have refused := foreignAuthorities_refused.1 Fixture.removal Fixture.installed
    (Snapshot.empty Fixture.binding) requestBytes Fixture.removal_made requestEncoded free
  have answered := foreignAuthorities_refused.2 Fixture.removal Fixture.removal Fixture.installed
    (Snapshot.empty Fixture.binding) Fixture.rejection receiptBytes Fixture.rejection_built
    receiptEncoded own free
  rw [if_pos different] at refused
  rw [if_neg (not_not.mpr rfl), if_pos different] at answered
  exact ⟨requestBytes, receiptBytes, requestEncoded, refused, receiptEncoded, answered⟩

end Pkgstate
