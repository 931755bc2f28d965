import Pkgstate.PublicationReceiptCodec
import Pkgstate.PublicationRequestCodec

/-!
# The limits of the publication codecs

Both codecs bound the bytes of a record when they write it and when they read
it. The readers bound every collection as well. A receipt runs out of bytes long
before its evidence reaches that bound, but a request does not: a removal is
written in a few hundred bytes, so that a request of more than 1048576 deltas
fits, and its record is refused when it is read
(`publicationLimits_agree_iff`).
-/

namespace Pkgstate

open Wire Cpp Keyed

variable {sha256 : Sha256}

/-! ## Which requests are refused -/

/-- The refusal of a delta count. -/
abbrev deltaCountExceeded : Failure :=
  publicationFailures.implausible (ascii "publication delta count")

/-- Too many deltas are refused at their count, behind a header that matches. -/
theorem refuses_requestRecord {expected : Snapshot sha256}
    {request : StatePublicationRequest sha256} (made : request.MadeAgainst expected)
    (many : maximumCollectionCount < request.deltas.toList.length) :
    Refuses (decodeRequestRecord (requestBody request) expected) (requestBody request)
      deltaCountExceeded := by
  have admitted : ¬ (request.expectedSnapshot ≠ expected.identity ∨
      request.targetBinding.identity ≠ expected.targetBinding.identity) := by
    rw [made.expectedSnapshot, made.targetBinding]
    simp
  apply (decodes_front _ _ (hasPrefix_append _ _ _)).refuses_bind
  apply (Publication.decodes_digest _ request.identity).refuses_bind
  apply (Publication.decodes_digest _ request.expectedSnapshot).refuses_bind
  apply (Publication.decodes_digest _ request.targetBinding.identity).refuses_bind
  rw [if_neg admitted]
  exact ((refuses_counted publicationFailures _ _ _ request.deltas.toStdVector many).append
    _).bind

/-- What its body is refused for, a record is refused for. -/
theorem decodeStatePublicationRequest_refused {bytes : Bytes} {expected : Snapshot sha256}
    {request : StatePublicationRequest sha256} {failure : Failure}
    (encoded : encodeStatePublicationRequest request = .ok bytes)
    (refuses : Refuses (decodeRequestRecord (requestBody request) expected)
      (requestBody request) failure) :
    decodeStatePublicationRequest bytes expected =
      rethrowAsInvalidValue (ascii "invalid publication request encoding: ")
        (.error failure) := by
  rw [encodeStatePublicationRequest_eq] at encoded
  have verified := verifiedBody_of_appendChecksum (by decide) encoded
  unfold decodeStatePublicationRequest
  rw [verified]
  change rethrowAsInvalidValue _
    (decodeRequestRecord (requestBody request) expected ⟨requestBody request, 0⟩ >>= _) = _
  rw [refuses.run]
  rfl

/-- A record of too many deltas is written and refused. -/
theorem decodeStatePublicationRequest_of_many {bytes : Bytes} {expected : Snapshot sha256}
    {request : StatePublicationRequest sha256} (made : request.MadeAgainst expected)
    (many : maximumCollectionCount < request.deltas.toList.length)
    (encoded : encodeStatePublicationRequest request = .ok bytes) :
    decodeStatePublicationRequest bytes expected = .error deltaCountExceeded :=
  decodeStatePublicationRequest_refused encoded (refuses_requestRecord made many)

/-! ## Agreement -/

/-- Encoders and decoders agree on their limits exactly where a request has at
most 1048576 deltas; on receipts they always agree. -/
theorem publicationLimits_agree_iff (sha256 : Sha256) :
    (∀ (expected : Snapshot sha256) (deltas : StdVector (PackageStateDelta sha256))
      (transaction : Option TransactionEvidenceIdentity)
      (request : StatePublicationRequest sha256) (bytes : Bytes),
      StatePublicationRequest.make expected deltas transaction = .ok request →
      encodeStatePublicationRequest request = .ok bytes →
      ((∀ what, decodeStatePublicationRequest bytes expected ≠
          .error (codecError .limitExceeded what)) ↔
        request.deltas.toList.length ≤ 1048576)) ∧
    ∀ (request : StatePublicationRequest sha256) (actualPrior : Snapshot sha256)
      (receipt : StatePublicationReceipt sha256) (bytes : Bytes),
      BuiltFrom request actualPrior receipt →
      encodeStatePublicationReceipt receipt = .ok bytes →
      ∀ what, decodeStatePublicationReceipt bytes request actualPrior ≠
        .error (codecError .limitExceeded what) := by
  refine ⟨?_, ?_⟩
  · intro expected deltas transaction request bytes built encoded
    have made := (StatePublicationRequest.make_ok built).1
    constructor
    · intro admitted
      by_contra many
      exact admitted _ (decodeStatePublicationRequest_of_many made (Nat.lt_of_not_le many) encoded)
    · intro few what
      rw [decodeStatePublicationRequest_encode made few encoded]
      exact nofun
  · intro request actualPrior receipt bytes built encoded what
    rw [decodeStatePublicationReceipt_encode built encoded]
    exact nofun

theorem publicationLimits_agree_iff_removals :
    ∃ (expected : Snapshot Sha256.hash) (request : StatePublicationRequest Sha256.hash)
      (bytes : Bytes), encodeStatePublicationRequest request = .ok bytes ∧
      ∀ what, decodeStatePublicationRequest bytes expected ≠
        .error (codecError .limitExceeded what) := by
  let packages : StdVector (InstalledPackage Sha256.hash) :=
    ⟨numberedPackages Fixture.binding 2, by rw [length_numberedPackages]; decide⟩
  obtain ⟨expected, request, bytes, _, made, count, encoded⟩ := removals_encoded
    Fixture.binding (Fixture.identity 100) (show packages.toList = _ from rfl) Nat.zero_lt_two
    (by decide)
  have few : request.deltas.toList.length ≤ 1048576 := by
    rw [count]
    decide
  exact ⟨expected, request, bytes, encoded, ((publicationLimits_agree_iff Sha256.hash).1 expected
    _ (some (Fixture.identity 100)) request bytes made encoded).mpr few⟩

/-- 1048577 packages. -/
def manyPackages : StdVector (InstalledPackage Sha256.hash) where
  toList := numberedPackages Fixture.binding 1048577
  size_lt := by
    rw [length_numberedPackages]
    decide

/-- The request that removes them all is encoded, and its record is refused. -/
theorem manyPackages_refused :
    ∃ expected request bytes,
      Snapshot.make Fixture.binding manyPackages.toList = .ok expected ∧
      StatePublicationRequest.make expected (manyPackages.map .removing)
        (some (Fixture.identity 100)) = .ok request ∧
      encodeStatePublicationRequest request = .ok bytes ∧
      decodeStatePublicationRequest bytes expected = .error (codecError .limitExceeded
        (ascii "publication delta count" ++ ascii " exceeds the supported bound")) := by
  have numbered : manyPackages.toList = numberedPackages Fixture.binding 1048577 := by
    rw [manyPackages]
  obtain ⟨expected, request, bytes, built, made, count, encoded⟩ :=
    removals_encoded Fixture.binding (Fixture.identity 100) numbered (by decide) (by decide)
  refine ⟨expected, request, bytes, built, made, encoded, ?_⟩
  refine decodeStatePublicationRequest_of_many (StatePublicationRequest.make_ok made).1 ?_ encoded
  rw [count]
  decide

end Pkgstate
