import Pkgstate.Error

/-!
# Native identities and foreign references

`detail::digest_value` with its `v1:sha256:<lowercase-hex>` text, and the
strongly typed digests that wrap it, one type for each protocol domain.
-/

namespace Pkgstate

open Wire Cpp

/-! ## `std::string_view` searches -/

/-- `input.find(byte, start)`. -/
def find (input : Bytes) (byte : UInt8) (start : Nat) : Option Nat :=
  ((input.drop start).idxOf? byte).map (start + ·)

/-- `input.substr(start, count)`. -/
def substr (input : Bytes) (start count : Nat) : Bytes :=
  (input.drop start).take count

/-! ## Digest values -/

/-- `digest_representation_version`. -/
def digestRepresentationVersion : UInt16 := 1

/-- `digest_algorithm`. -/
inductive DigestAlgorithm
  | sha256
deriving DecidableEq

/-- `static_cast<std::uint16_t>(algorithm)`. -/
def DigestAlgorithm.toUInt16 : DigestAlgorithm → UInt16
  | .sha256 => 1

/-- `sha256_digest_size`. -/
def sha256DigestSize : Nat := 32

/-- `sha256_digest_bytes`. -/
abbrev Sha256DigestBytes := Vector UInt8 32

/-- The SHA-256 function of the cryptographic provider. -/
abbrev Sha256 := Bytes → Sha256DigestBytes

/-- `detail::digest_value`. Both factories produce version 1, SHA-256, and 32
bytes. -/
structure DigestValue where
  representationVersion : UInt16
  algorithm : DigestAlgorithm
  bytes : Bytes
  version_eq : representationVersion = digestRepresentationVersion
  size_eq : bytes.length = sha256DigestSize
deriving DecidableEq

namespace DigestValue

/-- A digest value is its bytes. -/
theorem bytes_inj {a b : DigestValue} (same : a.bytes = b.bytes) : a = b := by
  rcases a with ⟨_, algorithmA, _, versionA, _⟩
  rcases b with ⟨_, algorithmB, _, versionB, _⟩
  cases same
  cases versionA
  cases versionB
  cases algorithmA
  cases algorithmB
  rfl

/-- `operator<`: version, then algorithm, then bytes. -/
instance : Less DigestValue :=
  .on fun value => (value.representationVersion, value.algorithm.toUInt16, value.bytes)

instance : StrictTotal DigestValue :=
  .on (fun value => (value.representationVersion, value.algorithm.toUInt16, value.bytes))
    fun same => bytes_inj (Prod.ext_iff.mp (Prod.ext_iff.mp same).2).2

/-- `digest_value::from_sha256`. -/
def fromSha256 (bytes : Sha256DigestBytes) : DigestValue where
  representationVersion := digestRepresentationVersion
  algorithm := .sha256
  bytes := bytes.toList
  version_eq := rfl
  size_eq := bytes.length_toList

/-- `representation_prefix`. -/
def representationPrefix : Bytes := ascii "v1:sha256:"

/-- `lowercase_hex`. -/
def lowercaseHex : Bytes := ascii "0123456789abcdef"

/-- `parse_hex_digit`. -/
def parseHexDigit (value : UInt8) : Except Failure UInt8 :=
  if value ≥ 48 ∧ value ≤ 57 then .ok (value - 48)
  else if value ≥ 97 ∧ value ≤ 102 then .ok (10 + value - 97)
  else .error (.digestError .invalidHex (ascii "digest must use lowercase hexadecimal digits"))

/-- The loop over `bytes[index]`: each byte takes the digits at `2 * index` and
`2 * index + 1`. -/
def parseHexPairs : Bytes → Except Failure Bytes
  | highDigit :: lowDigit :: rest => do
      let high ← parseHexDigit highDigit
      let low ← parseHexDigit lowDigit
      let bytes ← parseHexPairs rest
      pure (((high <<< 4) ||| low) :: bytes)
  | _ => pure []

theorem length_parseHexPairs {digits bytes : Bytes} (parsed : parseHexPairs digits = .ok bytes) :
    bytes.length = digits.length / 2 := by
  induction digits using parseHexPairs.induct generalizing bytes with
  | case1 highDigit lowDigit rest ih =>
      rw [parseHexPairs] at parsed
      cases highParsed : parseHexDigit highDigit with
      | error failure =>
          rw [highParsed] at parsed
          cases parsed
      | ok high =>
          cases lowParsed : parseHexDigit lowDigit with
          | error failure =>
              rw [highParsed, lowParsed] at parsed
              cases parsed
          | ok low =>
              cases restParsed : parseHexPairs rest with
              | error failure =>
                  rw [highParsed, lowParsed, restParsed] at parsed
                  cases parsed
              | ok tail =>
                  rw [highParsed, lowParsed, restParsed] at parsed
                  cases parsed
                  simp only [List.length_cons, ih restParsed]
                  omega
  | case2 digits short =>
      rcases digits with _ | ⟨first, _ | ⟨second, rest⟩⟩
      · cases parsed
        rfl
      · cases Except.ok.inj parsed
        simp
      · exact (short first second rest rfl).elim

/-- `digest_value::parse`. -/
def parse (input : Bytes) : Except Failure DigestValue :=
  let firstSeparator := find input 58 0
  let secondSeparator := firstSeparator.bind fun first => find input 58 (first + 1)
  match firstSeparator, secondSeparator with
  | some first, some second =>
      if find input 58 (second + 1) ≠ none then
        .error (.digestError .invalidFormat
          (ascii "digest must have version, algorithm, and value fields"))
      else
        let version := substr input 0 first
        let algorithm := substr input (first + 1) (second - first - 1)
        let hexadecimal := input.drop (second + 1)
        if version ≠ ascii "v1" then
          .error (.digestError .unsupportedVersion
            (ascii "unsupported digest representation version"))
        else if algorithm ≠ ascii "sha256" then
          .error (.digestError .unsupportedAlgorithm (ascii "unsupported digest algorithm"))
        else if size : hexadecimal.length ≠ sha256DigestSize * 2 then
          .error (.digestError .invalidLength
            (ascii "SHA-256 digest must contain 64 hexadecimal digits"))
        else
          match parsed : parseHexPairs hexadecimal with
          | .error failure => .error failure
          | .ok bytes =>
              .ok (fromSha256 (Vector.mk bytes.toArray (by
                rw [List.size_toArray, length_parseHexPairs parsed, not_not.mp size]
                rfl)))
  | _, _ =>
      .error (.digestError .invalidFormat
        (ascii "digest must have version, algorithm, and value fields"))

/-- The two digits of one byte. -/
def hexPair (byte : UInt8) : Bytes :=
  [lowercaseHex.getD ((byte >>> 4) &&& 0x0f).toNat 0, lowercaseHex.getD (byte &&& 0x0f).toNat 0]

/-- `digest_value::string`. -/
def string (value : DigestValue) : Bytes :=
  representationPrefix ++ value.bytes.flatMap hexPair

/-! ## Text round trip -/

theorem parseHexDigit_hexPair (byte : UInt8) :
    parseHexDigit (lowercaseHex.getD ((byte >>> 4) &&& 0x0f).toNat 0) = .ok (byte >>> 4) ∧
      parseHexDigit (lowercaseHex.getD (byte &&& 0x0f).toNat 0) = .ok (byte &&& 0x0f) ∧
      ((byte >>> 4) <<< 4) ||| (byte &&& 0x0f) = byte := by
  have all : ∀ index : Fin 256,
      parseHexDigit (lowercaseHex.getD ((UInt8.ofFin index >>> 4) &&& 0x0f).toNat 0) =
          .ok (UInt8.ofFin index >>> 4) ∧
        parseHexDigit (lowercaseHex.getD (UInt8.ofFin index &&& 0x0f).toNat 0) =
          .ok (UInt8.ofFin index &&& 0x0f) ∧
        ((UInt8.ofFin index >>> 4) <<< 4) ||| (UInt8.ofFin index &&& 0x0f) =
          UInt8.ofFin index := by
    decide +kernel
  exact all byte.toFin

theorem parseHexPairs_flatMap (bytes : Bytes) :
    parseHexPairs (bytes.flatMap hexPair) = .ok bytes := by
  induction bytes with
  | nil => rfl
  | cons byte bytes ih =>
      obtain ⟨high, low, join⟩ := parseHexDigit_hexPair byte
      rw [List.flatMap_cons, hexPair, List.cons_append, List.cons_append, List.nil_append,
        parseHexPairs, high, low, ih]
      exact congrArg (fun head => Except.ok (head :: bytes)) join

theorem length_flatMap_hexPair (bytes : Bytes) :
    (bytes.flatMap hexPair).length = bytes.length * 2 := by
  induction bytes with
  | nil => rfl
  | cons byte bytes ih =>
      rw [List.flatMap_cons, List.length_append, ih, List.length_cons]
      change 2 + bytes.length * 2 = _
      omega

theorem colon_not_mem_hexPair (bytes : Bytes) : (58 : UInt8) ∉ bytes.flatMap hexPair := by
  have digits : ∀ index : Fin 256, (58 : UInt8) ∉ hexPair (UInt8.ofFin index) := by
    decide +kernel
  intro member
  obtain ⟨byte, _, inPair⟩ := List.mem_flatMap.mp member
  exact digits byte.toFin inPair

/-- The text of a digest value has one fixed size. -/
theorem length_string (value : DigestValue) : (string value).length = 74 := by
  rw [string, List.length_append, length_flatMap_hexPair, value.size_eq]
  rfl

/-- Parsing the canonical text gives the value back. -/
theorem parse_string (value : DigestValue) : parse (string value) = .ok value := by
  have first : find (string value) 58 0 = some 2 := rfl
  have second : find (string value) 58 3 = some 9 := rfl
  have third : find (string value) 58 10 = none := by
    change ((value.bytes.flatMap hexPair).idxOf? 58).map (10 + ·) = none
    rw [List.idxOf?_eq_none_iff.mpr (colon_not_mem_hexPair value.bytes)]
    rfl
  have digits : parseHexPairs ((string value).drop (9 + 1)) = .ok value.bytes :=
    parseHexPairs_flatMap value.bytes
  have size : ¬ ((string value).drop (9 + 1)).length ≠ sha256DigestSize * 2 := by
    rw [List.length_drop, length_string]
    exact not_not.mpr rfl
  have version : substr (string value) 0 2 = ascii "v1" := rfl
  have algorithm : substr (string value) (2 + 1) (9 - 2 - 1) = ascii "sha256" := rfl
  unfold parse
  simp only [first, Option.bind_some, second, third, version, algorithm, ne_eq,
    not_true_eq_false, if_false]
  rw [dif_neg size]
  split
  · next failed =>
      rw [digits] at failed
      cases failed
  · next bytes parsed =>
      rw [digits] at parsed
      cases parsed
      exact congrArg Except.ok (bytes_inj rfl)

end DigestValue

/-! ## Protocol domains -/

/-- A digest of one protocol domain: `typed_digest<Domain>` and
`referenced_digest<Domain>`. -/
structure TypedDigest {Tag : Type} (domain : Tag) where
  value : DigestValue
deriving DecidableEq

namespace TypedDigest

variable {Tag : Type} {domain : Tag}

theorem value_inj {a b : TypedDigest domain} (same : a.value = b.value) : a = b := by
  cases a
  cases b
  cases same
  rfl

instance : Less (TypedDigest domain) := .on TypedDigest.value
instance : StrictTotal (TypedDigest domain) := .on TypedDigest.value value_inj

/-- `from_sha256`. -/
def fromSha256 (bytes : Sha256DigestBytes) : TypedDigest domain :=
  ⟨DigestValue.fromSha256 bytes⟩

/-- `parse`. -/
def parse (input : Bytes) : Except Failure (TypedDigest domain) := do
  let value ← DigestValue.parse input
  pure ⟨value⟩

/-- `string()`. -/
def string (digest : TypedDigest domain) : StdString where
  bytes := digest.value.string
  size_lt := by
    rw [DigestValue.length_string]
    decide

theorem parse_string (digest : TypedDigest domain) :
    (parse digest.string.bytes : Except Failure (TypedDigest domain)) = .ok digest := by
  rw [parse, string, DigestValue.parse_string]
  rfl

theorem fromSha256_inj {a b : Sha256DigestBytes}
    (same : (fromSha256 a : TypedDigest domain) = fromSha256 b) : a = b := by
  have values := congrArg (fun digest => digest.value.bytes) same
  exact Vector.toList_inj.mp values

end TypedDigest

/-- The domains whose identities this library computes or names. -/
inductive IdentityDomain
  | packageSourceRecord
  | installedControl
  | installationReceipt
  | installedPackage
  | ownershipInventory
  | managedTarget
  | stateStore
  | rootView
  | stateBackend
  | publicationDomain
  | stateTargetBinding
  | installedStateSnapshot
  | statePublicationRequest
  | statePublicationReceipt
deriving DecidableEq

/-- `canonical_domain()`. -/
def IdentityDomain.canonicalDomain : IdentityDomain → Bytes
  | .packageSourceRecord => ascii "pkgstate/package-source-record/1"
  | .installedControl => ascii "pkgstate/installed-control/1"
  | .installationReceipt => ascii "pkgstate/installation-receipt/1"
  | .installedPackage => ascii "pkgstate/installed-package/1"
  | .ownershipInventory => ascii "pkgstate/ownership-inventory/1"
  | .managedTarget => ascii "pkgstate/managed-target/1"
  | .stateStore => ascii "pkgstate/state-store/1"
  | .rootView => ascii "pkgstate/root-view/1"
  | .stateBackend => ascii "pkgstate/state-backend/1"
  | .publicationDomain => ascii "pkgstate/publication-domain/1"
  | .stateTargetBinding => ascii "pkgstate/target-binding/1"
  | .installedStateSnapshot => ascii "pkgstate/installed-snapshot/1"
  | .statePublicationRequest => ascii "pkgstate/publication-request/1"
  | .statePublicationReceipt => ascii "pkgstate/publication-receipt/1"

/-- The domains of references to records of other components. -/
inductive ReferenceDomain
  | packageRelease
  | sourceProfile
  | sourceSnapshot
  | buildRequest
  | buildInputSet
  | environmentPolicy
  | buildPolicy
  | buildResult
  | payloadManifest
  | buildArtifact
  | artifactContent
  | artifactBinding
  | executionEvidence
  | buildImage
  | artifactImage
  | artifactInspection
  | installedRegularContent
  | operationPlan
  | applicationEvidence
  | transactionEvidence
  | rejectedObject
  | statePublicationEvidence
deriving DecidableEq

abbrev PackageSourceRecordIdentity := TypedDigest IdentityDomain.packageSourceRecord
abbrev InstalledControlIdentity := TypedDigest IdentityDomain.installedControl
abbrev InstallationReceiptIdentity := TypedDigest IdentityDomain.installationReceipt
abbrev InstalledPackageIdentity := TypedDigest IdentityDomain.installedPackage
abbrev OwnershipInventoryIdentity := TypedDigest IdentityDomain.ownershipInventory
abbrev ManagedTargetIdentity := TypedDigest IdentityDomain.managedTarget
abbrev StateStoreIdentity := TypedDigest IdentityDomain.stateStore
abbrev RootViewIdentity := TypedDigest IdentityDomain.rootView
abbrev StateBackendIdentity := TypedDigest IdentityDomain.stateBackend
abbrev PublicationDomainIdentity := TypedDigest IdentityDomain.publicationDomain
abbrev StateTargetBindingIdentity := TypedDigest IdentityDomain.stateTargetBinding
abbrev InstalledStateSnapshotIdentity := TypedDigest IdentityDomain.installedStateSnapshot
abbrev StatePublicationRequestIdentity := TypedDigest IdentityDomain.statePublicationRequest
abbrev StatePublicationReceiptIdentity := TypedDigest IdentityDomain.statePublicationReceipt

abbrev PackageReleaseIdentity := TypedDigest ReferenceDomain.packageRelease
abbrev SourceProfileIdentity := TypedDigest ReferenceDomain.sourceProfile
abbrev SourceSnapshotIdentity := TypedDigest ReferenceDomain.sourceSnapshot
abbrev BuildRequestIdentity := TypedDigest ReferenceDomain.buildRequest
abbrev BuildInputSetIdentity := TypedDigest ReferenceDomain.buildInputSet
abbrev EnvironmentPolicyIdentity := TypedDigest ReferenceDomain.environmentPolicy
abbrev BuildPolicyIdentity := TypedDigest ReferenceDomain.buildPolicy
abbrev BuildResultIdentity := TypedDigest ReferenceDomain.buildResult
abbrev PayloadManifestIdentity := TypedDigest ReferenceDomain.payloadManifest
abbrev BuildArtifactIdentity := TypedDigest ReferenceDomain.buildArtifact
abbrev ArtifactContentIdentity := TypedDigest ReferenceDomain.artifactContent
abbrev ArtifactBindingIdentity := TypedDigest ReferenceDomain.artifactBinding
abbrev ExecutionEvidenceIdentity := TypedDigest ReferenceDomain.executionEvidence
abbrev BuildImageIdentity := TypedDigest ReferenceDomain.buildImage
abbrev ArtifactImageIdentity := TypedDigest ReferenceDomain.artifactImage
abbrev ArtifactInspectionIdentity := TypedDigest ReferenceDomain.artifactInspection
abbrev InstalledRegularContentIdentity := TypedDigest ReferenceDomain.installedRegularContent
abbrev OperationPlanIdentity := TypedDigest ReferenceDomain.operationPlan
abbrev ApplicationEvidenceIdentity := TypedDigest ReferenceDomain.applicationEvidence
abbrev TransactionEvidenceIdentity := TypedDigest ReferenceDomain.transactionEvidence
abbrev RejectedObjectIdentity := TypedDigest ReferenceDomain.rejectedObject
abbrev StatePublicationEvidenceIdentity := TypedDigest ReferenceDomain.statePublicationEvidence

end Pkgstate
