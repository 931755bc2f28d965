import Pkgstate.Digest
import Pkgstate.Base.SelfDelimiting

/-!
# Canonical identity records

`detail::canonical_record`: a domain-separated byte record whose SHA-256 is the
identity of the value it describes. A record only ever grows at its end, so it
is modelled by the bytes that each call appends, in the order of the calls.
-/

namespace Pkgstate

open Wire Cpp

namespace CanonicalRecord

/-- `record_magic`. -/
def recordMagic : Bytes := ascii "pkgstate" ++ [0]

/-- `canonical_record_encoding_version`. -/
def canonicalRecordEncodingVersion : UInt16 := 1

/-- `validate_domain`. -/
def validateDomain (domain : Bytes) : Except Failure Unit :=
  requireLineSafe domain "canonical record domain must not be empty"
    "canonical record domain is not line-safe"

/-- No record of this library is refused for its domain. -/
theorem validateDomain_canonicalDomain (domain : IdentityDomain) :
    validateDomain domain.canonicalDomain = .ok () := by
  cases domain <;> rfl

/-- The constructor `canonical_record(domain)`. -/
def header (domain : IdentityDomain) : Bytes :=
  recordMagic ++ (u16Bytes canonicalRecordEncodingVersion ++ stringBytes domain.canonicalDomain)

/-- `append_digest`. -/
def appendDigest {Tag : Type} {domain : Tag} (digest : TypedDigest domain) : Bytes :=
  u16Bytes digest.value.representationVersion ++
    (u16Bytes digest.value.algorithm.toUInt16 ++ stringBytes digest.value.bytes)

theorem selfDelimiting_appendDigest {Tag : Type} {domain : Tag} :
    SelfDelimiting fun digest : TypedDigest domain => appendDigest digest := by
  have length (digest : TypedDigest domain) : (appendDigest digest).length = 44 := by
    simp only [appendDigest, stringBytes, List.length_append, length_u16Bytes, length_u64Bytes,
      digest.value.size_eq, sha256DigestSize]
  refine .of_length length fun {a b} same => ?_
  simp only [appendDigest, stringBytes] at same
  obtain ⟨_, same⟩ := SelfDelimiting.u16.strip same
  obtain ⟨_, same⟩ := SelfDelimiting.u16.strip same
  obtain ⟨_, bytes⟩ := SelfDelimiting.u64.strip same
  exact TypedDigest.value_inj (DigestValue.bytes_inj bytes)

end CanonicalRecord

/-- The identity of a record: `typed_digest::from_sha256(record.sha256())`. -/
def identifyRecord (sha256 : Sha256) {domain : IdentityDomain} (record : Bytes) :
    TypedDigest domain :=
  TypedDigest.fromSha256 (sha256 record)

/-- No two of these records share a digest. -/
def CollisionFree (sha256 : Sha256) (records : List Bytes) : Prop :=
  ∀ a ∈ records, ∀ b ∈ records, sha256 a = sha256 b → a = b

instance (sha256 : Sha256) (records : List Bytes) : Decidable (CollisionFree sha256 records) :=
  inferInstanceAs
    (Decidable (∀ a ∈ records, ∀ b ∈ records, sha256 a = sha256 b → a = b))

theorem CollisionFree.mono {sha256 : Sha256} {records fewer : List Bytes}
    (free : CollisionFree sha256 records) (subset : fewer ⊆ records) :
    CollisionFree sha256 fewer :=
  fun a aMember b bMember => free a (subset aMember) b (subset bMember)

/-- Equal identities come from equal records when the records do not collide. -/
theorem CollisionFree.record_eq {sha256 : Sha256} {records : List Bytes}
    (free : CollisionFree sha256 records) {domain : IdentityDomain} {a b : Bytes}
    (aMember : a ∈ records) (bMember : b ∈ records)
    (same : (identifyRecord sha256 a : TypedDigest domain) = identifyRecord sha256 b) : a = b :=
  free a aMember b bMember (TypedDigest.fromSha256_inj same)

end Pkgstate
