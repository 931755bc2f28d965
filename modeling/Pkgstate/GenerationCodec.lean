import Pkgstate.Base.Decoder
import Pkgstate.Fixtures

/-!
# The generation codec

`encode_generation_snapshot` and `decode_generation_snapshot`, with the binding
record beside them. The encoder writes the fields of the identity records with
digests as text; the decoder reads them back through the validating
constructors, and then compares its result's encoding with the bytes it read.
Each decoder has one theorem: it reads back what the encoder wrote. The records are
self-delimiting (`generationRecords_selfDelimiting`).
-/

namespace Pkgstate

open Wire Cpp Keyed

variable {sha256 : Sha256}

/-- `canonical_generation_storage_version`. -/
def canonicalGenerationStorageVersion : UInt16 := 1

/-- `binding_magic`. -/
def bindingMagic : Bytes := ascii "pkgstate-binding" ++ [0]

/-- `snapshot_magic`. -/
def snapshotMagic : Bytes := ascii "pkgstate-snapshot" ++ [0]

/-! ## Writing -/

/-- `writer::digest`. -/
def storedDigest {Tag : Type} {domain : Tag} (digest : TypedDigest domain) : Bytes :=
  stringBytes digest.string.bytes

theorem length_storedDigest {Tag : Type} {domain : Tag} (digest : TypedDigest domain) :
    (storedDigest digest).length = 82 := by
  rw [storedDigest, stringBytes, List.length_append, length_u64Bytes]
  change 8 + digest.value.string.length = 82
  rw [DigestValue.length_string]

/-- A stored digest is delimited by its length and parsed back from its text. -/
theorem selfDelimiting_storedDigest {Tag : Type} {domain : Tag} :
    SelfDelimiting fun digest : TypedDigest domain => storedDigest digest := by
  refine SelfDelimiting.string.comap fun {a b} same => ?_
  have parsed := a.parse_string
  rw [same, b.parse_string] at parsed
  exact (Except.ok.inj parsed).symm

/-- A stored binding is delimited: its authorities determine it. -/
theorem selfDelimiting_storedBinding : SelfDelimiting fun binding : StateTargetBinding sha256 =>
    bindingFields storedDigest binding.toTargetAuthorities :=
  (selfDelimiting_bindingFields selfDelimiting_storedDigest).comap
    StateTargetBinding.toTargetAuthorities_inj

/-- `encode_control`. -/
def encodeControl (control : InstalledControl sha256) : Bytes :=
  sourceFields storedDigest control.source.toPackageSource ++
    reasonFields storedDigest control.reason ++ buildFields storedDigest control.build

/-- `encode_receipt`. -/
def encodeReceipt (receipt : InstallationReceipt sha256) : Bytes :=
  u16Bytes installationReceiptSchemaVersion ++ encodeControl receipt.control ++
    countedBytes (entryFields storedDigest) receipt.manifest.toList ++
    storedDigest receipt.operationPlan ++ storedDigest receipt.applicationEvidence ++
    optionalBytes (fun evidence : TransactionEvidenceIdentity => storedDigest evidence)
      receipt.transactionEvidence

/-- `encode_generation_binding`. -/
def encodeGenerationBinding (binding : StateTargetBinding sha256) : Bytes :=
  bindingMagic ++ u16Bytes canonicalGenerationStorageVersion ++
    bindingFields storedDigest binding.toTargetAuthorities

/-- `encode_generation_snapshot`. -/
def encodeGenerationSnapshot (value : Snapshot sha256) : Bytes :=
  snapshotMagic ++ u16Bytes canonicalGenerationStorageVersion ++
    u16Bytes installedStateSchemaVersion ++
    bindingFields storedDigest value.targetBinding.toTargetAuthorities ++
    countedBytes (fun package : InstalledPackage sha256 => encodeReceipt package.receipt)
      value.packages

/-! ## Reading -/

/-- What the reader of this file throws. -/
def generationFailures : ReaderFailures Failure where
  truncated label := .storeError (ascii "truncated " ++ label)
  mismatch label := .storeError (ascii "invalid " ++ label)
  invalid label := .storeError (ascii "invalid " ++ label)
  overlong label := .storeError (label ++ ascii " length exceeds record")
  implausible label := .storeError (label ++ ascii " is not plausible")
  trailing := .storeError (ascii "trailing bytes in canonical generation record")
  outOfRange := .outOfRange
  maximumCount := sizeMax

namespace Generation

/-- `u8(label)`. -/
abbrev u8 (label : String) : Decoder Failure UInt8 := Reader.u8 generationFailures (ascii label)

/-- `u16(label)`. -/
abbrev u16 (label : String) : Decoder Failure UInt16 := Reader.u16 generationFailures (ascii label)

/-- `u32(label)`. -/
abbrev u32 (label : String) : Decoder Failure UInt32 := Reader.u32 generationFailures (ascii label)

/-- `u64(label)`. -/
abbrev u64 (label : String) : Decoder Failure UInt64 := Reader.u64 generationFailures (ascii label)

/-- `i64(label)`. -/
abbrev i64 (label : String) : Decoder Failure Int64 := Reader.i64 generationFailures (ascii label)

/-- `bytes(label)`. -/
abbrev text (label : String) : Decoder Failure StdString :=
  Reader.bytes generationFailures (ascii label)

/-- A presence byte and, behind it, an optional value. -/
abbrev optional {α : Type} (label : String) (decoder : Decoder Failure α) :
    Decoder Failure (Option α) :=
  Reader.optional generationFailures (ascii label) decoder

/-- A count and the loop that reads as many values. -/
abbrev counted {α : Type} (label : String) (decoder : Decoder Failure α) :
    Decoder Failure (StdVector α) :=
  Reader.counted generationFailures (ascii label) decoder

/-- `read_digest`. -/
def digest {Tag : Type} {domain : Tag} (label : String) :
    Decoder Failure (TypedDigest domain) := do
  let text ← text label
  Reader.lift (TypedDigest.parse text.bytes)

/-- A canonical name: `package_reference(input.bytes(label))` and its siblings. -/
def reference {kind : ReferenceKind} (label : String) :
    Decoder Failure (CanonicalReference kind) := do
  let name ← text label
  Reader.lift (CanonicalReference.make name)

/-- `package_path::parse(input.bytes(label))`. -/
def path (label : String) : Decoder Failure PackagePath := do
  let text ← text label
  Reader.lift (PackagePath.parse text)

theorem decodes_text (label : String) (value : StdString) :
    Decodes (text label) (stringBytes value.bytes) value :=
  decodes_bytes generationFailures (ascii label) value

theorem decodes_digest {Tag : Type} {domain : Tag} (label : String) (value : TypedDigest domain) :
    Decodes (digest label) (storedDigest value) value :=
  (decodes_text label value.string).bind_pure (congrArg Reader.lift value.parse_string)

theorem decodes_reference {kind : ReferenceKind} (label : String)
    (value : CanonicalReference kind) :
    Decodes (reference label) (stringBytes value.name.bytes) value :=
  (decodes_text label value.name).bind_pure (congrArg Reader.lift value.make_self)

theorem decodes_path (label : String) (value : PackagePath) :
    Decodes (path label) (stringBytes value.string.bytes) value :=
  (decodes_text label value.string).bind_pure (congrArg Reader.lift value.parse_string)

/-- The reader admits every vector. -/
theorem length_le_maximumCount {α : Type} (values : StdVector α) :
    values.toList.length ≤ generationFailures.maximumCount :=
  Nat.le_sub_one_of_lt values.size_lt

theorem decodes_counted {α : Type} (label : String) {decoder : Decoder Failure α}
    {encode : α → Bytes} (values : StdVector α) (nonempty : ∀ value, encode value ≠ [])
    (each : ∀ value ∈ values.toList, Decodes decoder (encode value) value) :
    Decodes (counted label decoder) (countedBytes encode values.toList) values := by
  exact Wire.decodes_counted generationFailures (ascii label) values
    (length_le_maximumCount values) (fun value _ => nonempty value) each

theorem decodes_optional {α : Type} (label : String) {decoder : Decoder Failure α}
    {encode : α → Bytes} (value : Option α)
    (each : ∀ present, Decodes decoder (encode present) present) :
    Decodes (optional label decoder) (optionalBytes encode value) value :=
  Wire.decodes_optional generationFailures (ascii label) value fun present _ => each present

end Generation

open Generation

/-- `decode_binding_fields`. -/
def decodeBindingFields (sha256 : Sha256) : Decoder Failure (StateTargetBinding sha256) := do
  let managed ← digest "managed-target identity"
  let store ← digest "state-store identity"
  let root ← digest "root-view identity"
  let backend ← digest "state-backend identity"
  let publication ← digest "publication-domain identity"
  pure (StateTargetBinding.make sha256 managed store root backend publication)

/-- `decode_provenance`. -/
def decodeProvenance : Decoder Failure DeclarationProvenance := do
  let document ← text "provenance document"
  let path ← text "provenance path"
  let line ← u32 "provenance line"
  let column ← u32 "provenance column"
  Reader.lift (DeclarationProvenance.make document path line column)

/-- The inner loop of `decode_requirement`. -/
def decodeStep : Decoder Failure ProfileExpansionStep := do
  let profile ← reference "expansion profile"
  let memberKind ← u8 "expansion member kind"
  let member ← text "expansion member"
  let provenance ← decodeProvenance
  Reader.lift (ProfileExpansionStep.make profile memberKind member provenance)

/-- The outer loop of `decode_requirement`. -/
def decodeOrigin : Decoder Failure RequirementOrigin := do
  let declaration ← decodeProvenance
  let expansion ← counted "profile expansion count" decodeStep
  pure { declaration, expansion }

/-- `decode_requirement`. -/
def decodeRequirement : Decoder Failure PackageRequirement := do
  let package ← reference "requirement package"
  let origins ← counted "requirement origin count" decodeOrigin
  Reader.lift (PackageRequirement.make package origins)

/-- The release at the head of `decode_source`. -/
def decodeRelease : Decoder Failure PackageRelease := do
  let identity ← digest "source release identity"
  let package ← reference "package name"
  let version ← text "package version"
  let release ← u32 "package release"
  Reader.lift (PackageRelease.make identity package version release)

/-- The metadata in `decode_source`. -/
def decodeMetadata : Decoder Failure PackageMetadata := do
  let summary ← text "package summary"
  let description ← optional "description presence" (text "package description")
  let homepage ← optional "homepage presence" (text "package homepage")
  let licenses ← counted "license count" (text "license")
  Reader.lift (PackageMetadata.make summary description homepage licenses)

/-- The lifecycle program loop of `decode_source`. -/
def decodeLifecycleProgram : Decoder Failure LifecycleProgram := do
  let action ← u8 "lifecycle action"
  let language ← u8 "program language"
  let material ← text "program material"
  let value ← Reader.lift (Program.make language material)
  Reader.lift (LifecycleProgram.make action value)

/-- The lifecycle requirement loop of `decode_source`. -/
def decodeLifecycleRequirement : Decoder Failure LifecycleRequirement := do
  let action ← u8 "lifecycle requirement action"
  let requirement ← decodeRequirement
  Reader.lift (LifecycleRequirement.make action requirement)

/-- The architectures in `decode_source`. -/
def decodeArchitectures : Decoder Failure ArchitectureBinding := do
  let declaredBuild ← counted "declared build architecture count"
    (reference "declared build architecture")
  let declaredTarget ← counted "declared target architecture count"
    (reference "declared target architecture")
  let selectedBuild ← reference "selected build architecture"
  let selectedTarget ← reference "selected target architecture"
  Reader.lift
    (ArchitectureBinding.make declaredBuild declaredTarget selectedBuild selectedTarget)

/-- The selected profile loop of `decode_source`. -/
def decodeSelectedProfile : Decoder Failure SelectedProfile := do
  let profile ← reference "selected profile"
  let identity ← digest "selected profile identity"
  let declarations ← counted "selected profile declaration count" decodeProvenance
  Reader.lift (SelectedProfile.make profile identity declarations)

/-- `decode_source`. -/
def decodeSource (sha256 : Sha256) : Decoder Failure (PackageSourceRecord sha256) := do
  let release ← decodeRelease
  let metadata ← decodeMetadata
  let runtime ← counted "runtime requirement count" decodeRequirement
  let programs ← counted "lifecycle program count" decodeLifecycleProgram
  let lifecycleRequirements ← counted "lifecycle requirement count" decodeLifecycleRequirement
  let architectures ← decodeArchitectures
  let profiles ← counted "selected profile count" decodeSelectedProfile
  let snapshot ← digest "source snapshot identity"
  Reader.lift (PackageSourceRecord.make sha256 release metadata runtime programs
    lifecycleRequirements architectures profiles snapshot)

/-- The switch of `decode_control` on the kind it read. -/
def buildReason (kind : UInt8) (package : Option PackageReference)
    (profile : Option (ProfileReference × SourceProfileIdentity)) (policy : Option StdString) :
    Except Failure InstallationReason :=
  match (ByteEnum.ofByte kind : Option InstallationReasonKind) with
  | some .explicitRequest =>
      match package, profile, policy with
      | none, none, none => .ok InstallationReason.explicitRequest
      | _, _, _ => .error (.storeError (ascii "invalid explicit installation reason"))
  | some .runtimeDependency =>
      match package, profile, policy with
      | some issuer, none, none => .ok (InstallationReason.runtimeDependency issuer)
      | _, _, _ => .error (.storeError (ascii "invalid dependency installation reason"))
  | some .profileMembership =>
      match package, profile, policy with
      | none, some (profile, identity), none =>
          .ok (InstallationReason.profileMembership profile identity)
      | _, _, _ => .error (.storeError (ascii "invalid profile installation reason"))
  | some .systemPolicy =>
      match package, profile, policy with
      | none, none, some policy => InstallationReason.systemPolicy policy
      | _, _, _ => .error (.storeError (ascii "invalid policy installation reason"))
  | none => .error (.storeError (ascii "invalid installation reason value"))

/-- The reason in `decode_control`. A profile is read with its identity. -/
def decodeReason : Decoder Failure InstallationReason := do
  let kind ← u8 "installation reason"
  let package ← optional "reason package presence" (reference "reason package")
  let profile ← optional "reason profile presence" do
    let profile ← reference "reason profile"
    let identity ← digest "reason profile identity"
    pure (profile, identity)
  let policy ← optional "reason policy presence" (text "reason policy")
  Reader.lift (buildReason kind package profile policy)

/-- The build provenance in `decode_control`. -/
def decodeBuild : Decoder Failure BuildProvenance := do
  let sourceRecord ← digest "build source record identity"
  let request ← digest "build request identity"
  let buildInputs ← digest "build input set identity"
  let environmentPolicy ← digest "environment policy identity"
  let buildPolicy ← digest "build policy identity"
  let buildResult ← digest "build result identity"
  let payloadManifest ← digest "payload manifest identity"
  let artifact ← digest "build artifact identity"
  let artifactContent ← digest "artifact content identity"
  let artifactBinding ← digest "artifact binding identity"
  let executionEvidence ← digest "execution evidence identity"
  let buildImage ← digest "build image identity"
  let artifactImage ← digest "artifact image identity"
  let artifactInspection ← digest "artifact inspection identity"
  pure { sourceRecord, request, buildInputs, environmentPolicy, buildPolicy, buildResult,
         payloadManifest, artifact, artifactContent, artifactBinding, executionEvidence,
         buildImage, artifactImage, artifactInspection }

/-- `decode_control`. -/
def decodeControl (sha256 : Sha256) : Decoder Failure (InstalledControl sha256) := do
  let source ← decodeSource sha256
  let reason ← decodeReason
  let build ← decodeBuild
  Reader.lift (InstalledControl.make source reason build)

/-- The device number in `decode_entry`. -/
def decodeDevice : Decoder Failure InstalledDeviceNumber := do
  let major ← u64 "owned device major"
  let minor ← u64 "owned device minor"
  pure { major, minor }

/-- The object in `decode_entry`. -/
def decodeObject : Decoder Failure InstalledObjectMetadata := do
  let kind ← u8 "owned kind"
  let mode ← u32 "owned mode"
  let uid ← u64 "owned uid"
  let gid ← u64 "owned gid"
  let seconds ← i64 "owned mtime seconds"
  let nanoseconds ← u32 "owned mtime nanoseconds"
  let mtime ← Reader.lift (InstalledObjectTimestamp.make seconds nanoseconds)
  let size ← optional "owned size presence" (u64 "owned size")
  let regularContent ← optional "owned regular content presence"
    (digest "owned regular content identity")
  let symlinkTarget ← optional "owned symlink target presence" (text "owned symlink target")
  let device ← optional "owned device presence" decodeDevice
  let hardlinkAnchor ← optional "owned hardlink presence" (path "owned hardlink anchor")
  Reader.lift (InstalledObjectMetadata.make kind mode uid gid mtime size regularContent
    symlinkTarget device hardlinkAnchor)

/-- The rejected object in `decode_entry`. -/
def decodeRejected : Decoder Failure RejectedObjectReference := do
  let side ← u8 "rejected object side"
  let identity ← digest "rejected object identity"
  Reader.lift (RejectedObjectReference.make side identity)

/-- `decode_entry`. -/
def decodeEntry : Decoder Failure OwnedEntry := do
  let path ← path "owned path"
  let object ← decodeObject
  let origin ← u8 "owned origin"
  let rejected ← optional "rejected object presence" decodeRejected
  Reader.lift (OwnedEntry.make path object origin rejected)

/-- `decode_receipt`. -/
def decodeReceipt (binding : StateTargetBinding sha256) :
    Decoder Failure (InstallationReceipt sha256) := do
  let schema ← u16 "installation receipt schema"
  if schema ≠ installationReceiptSchemaVersion then
    Reader.fail (.storeError (ascii "unsupported installation receipt schema"))
  else do
    let control ← decodeControl sha256
    let manifest ← counted "ownership manifest count" decodeEntry
    let plan ← digest "operation plan identity"
    let evidence ← digest "application evidence identity"
    let transaction ← optional "transaction evidence presence"
      (digest "transaction evidence identity")
    Reader.lift (InstallationReceipt.make control binding manifest plan evidence transaction)

/-! ## Whole records -/

/-- `require_canonical_encoding`. -/
def requireCanonicalEncoding (canonical original : Bytes) (label : String) :
    Except Failure Unit :=
  if canonical ≠ original then
    .error (.storeError (ascii label ++ ascii " is not canonically encoded"))
  else .ok ()

/-- `catch (const store_error&) { throw; } catch (const error& failure)`. -/
def rethrowAsStoreError {α : Type} (context : String) : Except Failure α → Except Failure α
  | .ok value => .ok value
  | .error (.storeError message) => .error (.storeError message)
  | .error failure =>
      match failure.what? with
      | some what => .error (.storeError (ascii context ++ what))
      | none => .error failure

/-- The reads of `decode_generation_binding`. -/
def decodeBindingRecord (sha256 : Sha256) : Decoder Failure (StateTargetBinding sha256) := do
  Reader.expect generationFailures bindingMagic (ascii "canonical binding magic")
  let version ← u16 "canonical binding version"
  if version ≠ canonicalGenerationStorageVersion then
    Reader.fail (.storeError (ascii "unsupported canonical binding encoding version"))
  else do
    let result ← decodeBindingFields sha256
    Reader.finish generationFailures
    pure result

/-- `decode_generation_binding`. -/
def decodeGenerationBinding (sha256 : Sha256) (bytes : Bytes) :
    Except Failure (StateTargetBinding sha256) :=
  rethrowAsStoreError "invalid canonical binding record: " do
    let (result, _) ← decodeBindingRecord sha256 ⟨bytes, 0⟩
    requireCanonicalEncoding (encodeGenerationBinding result) bytes "canonical binding record"
    pure result

/-- The reads of `decode_generation_snapshot`. -/
def decodeSnapshotRecord (sha256 : Sha256) :
    Decoder Failure (StateTargetBinding sha256 × StdVector (InstalledPackage sha256)) := do
  Reader.expect generationFailures snapshotMagic (ascii "canonical generation magic")
  let version ← u16 "canonical generation version"
  if version ≠ canonicalGenerationStorageVersion then
    Reader.fail (.storeError (ascii "unsupported canonical generation encoding version"))
  else do
    let schema ← u16 "installed-state schema version"
    if schema ≠ installedStateSchemaVersion then
      Reader.fail (.storeError (ascii "unsupported installed-state snapshot schema version"))
    else do
      let binding ← decodeBindingFields sha256
      let packages ← counted "installed package count" do
        let receipt ← decodeReceipt binding
        pure (InstalledPackage.make receipt)
      Reader.finish generationFailures
      pure (binding, packages)

/-- `decode_generation_snapshot`. -/
def decodeGenerationSnapshot (sha256 : Sha256) (bytes : Bytes) :
    Except Failure (Snapshot sha256) :=
  rethrowAsStoreError "invalid canonical generation snapshot: " do
    let ((binding, packages), _) ← decodeSnapshotRecord sha256 ⟨bytes, 0⟩
    let result ← Snapshot.make binding packages.toList
    requireCanonicalEncoding (encodeGenerationSnapshot result) bytes
      "canonical generation snapshot"
    pure result

/-! ### Fields that are never empty -/

theorem stringBytes_ne_nil (bytes : Bytes) : stringBytes bytes ≠ [] := by
  simp [stringBytes, ← List.length_eq_zero_iff]

theorem countedBytes_ne_nil {α : Type} (encode : α → Bytes) (values : List α) :
    countedBytes encode values ≠ [] := by
  simp [countedBytes, ← List.length_eq_zero_iff]

theorem provenanceFields_ne_nil (value : DeclarationProvenance) : provenanceFields value ≠ [] := by
  simp [provenanceFields, stringBytes_ne_nil]

theorem stepFields_ne_nil (value : ProfileExpansionStep) : stepFields value ≠ [] := by
  simp [stepFields]

theorem originFields_ne_nil (value : RequirementOrigin) : originFields value ≠ [] := by
  simp [originFields, countedBytes_ne_nil]

theorem requirementFields_ne_nil (value : PackageRequirement) : requirementFields value ≠ [] := by
  simp [requirementFields, countedBytes_ne_nil]

theorem lifecycleProgramFields_ne_nil (value : LifecycleProgram) :
    lifecycleProgramFields value ≠ [] := by
  simp [lifecycleProgramFields]

theorem lifecycleRequirementFields_ne_nil (value : LifecycleRequirement) :
    lifecycleRequirementFields value ≠ [] := by
  simp [lifecycleRequirementFields]

theorem selectedProfileFields_ne_nil (value : SelectedProfile) :
    selectedProfileFields storedDigest value ≠ [] := by
  simp [selectedProfileFields, countedBytes_ne_nil]

/-! ### Reading back -/

theorem decodes_bindingFields (binding : StateTargetBinding sha256) :
    Decodes (decodeBindingFields sha256)
      (bindingFields storedDigest binding.toTargetAuthorities) binding := by
  simp only [bindingFields, List.append_assoc]
  apply (decodes_digest _ binding.managedTarget).bind
  apply (decodes_digest _ binding.stateStore).bind
  apply (decodes_digest _ binding.rootView).bind
  apply (decodes_digest _ binding.stateBackend).bind
  apply (decodes_digest _ binding.publicationDomain).bind_pure
  rw [binding.make_self]

theorem decodes_provenance (value : DeclarationProvenance) :
    Decodes decodeProvenance (provenanceFields value) value := by
  simp only [provenanceFields, List.append_assoc]
  apply (decodes_text _ value.document).bind
  apply (decodes_text _ value.path).bind
  apply (decodes_u32 _ _ value.line).bind
  apply (decodes_u32 _ _ value.column).bind_pure
  rw [value.make_self]
  rfl

theorem decodes_step (value : ProfileExpansionStep) :
    Decodes decodeStep (stepFields value) value := by
  simp only [stepFields, List.append_assoc]
  apply (decodes_reference _ value.profile).bind
  apply (decodes_u8 _ _ (toByte value.memberKind)).bind
  apply (decodes_text _ value.member).bind
  apply (decodes_provenance value.provenance).bind_pure
  rw [value.make_self]
  rfl

theorem decodes_origin (value : RequirementOrigin) :
    Decodes decodeOrigin (originFields value) value := by
  apply (decodes_provenance value.declaration).bind
  refine (decodes_counted _ value.expansion stepFields_ne_nil ?_).bind_pure rfl
  intro step _
  exact decodes_step step

theorem decodes_requirement (value : PackageRequirement) :
    Decodes decodeRequirement (requirementFields value) value := by
  apply (decodes_reference _ value.package).bind
  refine (decodes_counted _ value.origins.toStdVector originFields_ne_nil ?_).bind_pure ?_
  · intro origin _
    exact decodes_origin origin
  · rw [value.make_self]
    rfl

theorem decodes_release (value : PackageRelease) :
    Decodes decodeRelease (releaseFields storedDigest value) value := by
  simp only [releaseFields, List.append_assoc]
  apply (decodes_digest _ value.identity).bind
  apply (decodes_reference _ value.package).bind
  apply (decodes_text _ value.version).bind
  apply (decodes_u32 _ _ value.release).bind_pure
  rw [value.make_self]
  rfl

theorem decodes_metadata (value : PackageMetadata) :
    Decodes decodeMetadata (metadataFields value) value := by
  simp only [metadataFields, List.append_assoc]
  apply (decodes_text _ value.summary).bind
  apply (decodes_optional _ value.description (decodes_text _)).bind
  apply (decodes_optional _ value.homepage (decodes_text _)).bind
  refine (decodes_counted _ value.licenses.toStdVector
    (fun license => stringBytes_ne_nil license.bytes) ?_).bind_pure ?_
  · intro license _
    exact decodes_text _ license
  · rw [value.make_self]
    rfl

theorem decodes_lifecycleProgram (value : LifecycleProgram) :
    Decodes decodeLifecycleProgram (lifecycleProgramFields value) value := by
  simp only [lifecycleProgramFields, List.append_assoc]
  apply (decodes_u8 _ _ (toByte value.action)).bind
  apply (decodes_u8 _ _ (toByte value.value.language)).bind
  apply (decodes_text _ value.value.material).bind_pure
  rw [value.value.make_self]
  change Reader.lift (LifecycleProgram.make (toByte value.action) value.value) = _
  rw [value.make_self]
  rfl

theorem decodes_lifecycleRequirement (value : LifecycleRequirement) :
    Decodes decodeLifecycleRequirement (lifecycleRequirementFields value) value := by
  apply (decodes_u8 _ _ (toByte value.action)).bind
  apply (decodes_requirement value.requirement).bind_pure
  rw [value.make_self]
  rfl

theorem decodes_architectures (value : ArchitectureBinding) :
    Decodes decodeArchitectures (architectureFields value) value := by
  simp only [architectureFields, List.append_assoc]
  have named (architecture : ArchitectureReference) :
      stringBytes architecture.name.bytes ≠ [] := stringBytes_ne_nil _
  refine (decodes_counted _ value.declaredBuild.toStdVector named ?_).bind ?_
  · intro architecture _
    exact decodes_reference _ architecture
  refine (decodes_counted _ value.declaredTarget.toStdVector named ?_).bind ?_
  · intro architecture _
    exact decodes_reference _ architecture
  apply (decodes_reference _ value.selectedBuild).bind
  apply (decodes_reference _ value.selectedTarget).bind_pure
  rw [value.make_self]
  rfl

theorem decodes_selectedProfile (value : SelectedProfile) :
    Decodes decodeSelectedProfile (selectedProfileFields storedDigest value) value := by
  simp only [selectedProfileFields, List.append_assoc]
  apply (decodes_reference _ value.profile).bind
  apply (decodes_digest _ value.identity).bind
  refine (decodes_counted _ value.declarations.toStdVector provenanceFields_ne_nil ?_).bind_pure ?_
  · intro declaration _
    exact decodes_provenance declaration
  · rw [value.make_self]
    rfl

theorem decodes_source (value : PackageSourceRecord sha256) :
    Decodes (decodeSource sha256) (sourceFields storedDigest value.toPackageSource) value := by
  simp only [sourceFields, List.append_assoc]
  apply (decodes_release value.release).bind
  apply (decodes_metadata value.metadata).bind
  refine (decodes_counted _ value.runtimeRequirements.toStdVector requirementFields_ne_nil
    ?_).bind ?_
  · intro requirement _
    exact decodes_requirement requirement
  refine (decodes_counted _ value.lifecyclePrograms.toStdVector lifecycleProgramFields_ne_nil
    ?_).bind ?_
  · intro program _
    exact decodes_lifecycleProgram program
  refine (decodes_counted _ value.lifecycleRequirements.toStdVector
    lifecycleRequirementFields_ne_nil ?_).bind ?_
  · intro requirement _
    exact decodes_lifecycleRequirement requirement
  apply (decodes_architectures value.architectures).bind
  refine (decodes_counted _ value.selectedProfiles.toStdVector selectedProfileFields_ne_nil
    ?_).bind ?_
  · intro profile _
    exact decodes_selectedProfile profile
  apply (decodes_digest _ value.snapshot).bind_pure
  rw [value.make_self]
  rfl

theorem buildReason_self (value : InstallationReason) :
    buildReason (toByte value.kind) value.issuerPackage value.issuer value.policy = .ok value := by
  unfold buildReason
  rw [ByteEnum.ofByte_toByte]
  rcases value.shape with rfl | ⟨issuer, rfl⟩ | ⟨profile, identity, rfl⟩ |
    ⟨policy, built, kind, package, profile, stated⟩
  · rfl
  · rfl
  · rfl
  · rw [kind, package, InstallationReason.issuer, profile, stated]
    exact built

theorem decodes_reason (value : InstallationReason) :
    Decodes decodeReason (reasonFields storedDigest value) value := by
  simp only [reasonFields, List.append_assoc]
  apply (decodes_u8 _ _ (toByte value.kind)).bind
  apply (decodes_optional _ value.issuerPackage (decodes_reference _)).bind
  refine (decodes_optional _ value.issuer ?_).bind ?_
  · intro issuer
    exact (decodes_reference _ issuer.1).bind ((decodes_digest _ issuer.2).bind_pure rfl)
  apply (decodes_optional _ value.policy (decodes_text _)).bind_pure
  rw [buildReason_self]
  rfl

theorem decodes_build (value : BuildProvenance) :
    Decodes decodeBuild (buildFields storedDigest value) value := by
  simp only [buildFields, List.append_assoc]
  apply (decodes_digest _ value.sourceRecord).bind
  apply (decodes_digest _ value.request).bind
  apply (decodes_digest _ value.buildInputs).bind
  apply (decodes_digest _ value.environmentPolicy).bind
  apply (decodes_digest _ value.buildPolicy).bind
  apply (decodes_digest _ value.buildResult).bind
  apply (decodes_digest _ value.payloadManifest).bind
  apply (decodes_digest _ value.artifact).bind
  apply (decodes_digest _ value.artifactContent).bind
  apply (decodes_digest _ value.artifactBinding).bind
  apply (decodes_digest _ value.executionEvidence).bind
  apply (decodes_digest _ value.buildImage).bind
  apply (decodes_digest _ value.artifactImage).bind
  exact (decodes_digest _ value.artifactInspection).bind_pure rfl

theorem decodes_control (value : InstalledControl sha256) :
    Decodes (decodeControl sha256) (encodeControl value) value := by
  simp only [encodeControl, List.append_assoc]
  apply (decodes_source value.source).bind
  apply (decodes_reason value.reason).bind
  apply (decodes_build value.build).bind_pure
  rw [value.make_self]
  rfl

theorem decodes_device (value : InstalledDeviceNumber) :
    Decodes decodeDevice (deviceFields value) value :=
  (decodes_u64 _ _ value.major).bind ((decodes_u64 _ _ value.minor).bind_pure rfl)

theorem decodes_object (value : InstalledObjectMetadata) :
    Decodes decodeObject (objectFields storedDigest value) value := by
  simp only [objectFields, List.append_assoc]
  apply (decodes_u8 _ _ (toByte value.kind)).bind
  apply (decodes_u32 _ _ value.mode).bind
  apply (decodes_u64 _ _ value.uid).bind
  apply (decodes_u64 _ _ value.gid).bind
  apply (decodes_i64 _ _ value.mtime.seconds).bind
  apply (decodes_u32 _ _ value.mtime.nanoseconds).bind
  rw [value.mtime.make_self]
  apply (Decodes.lift value.mtime).bind_nil
  apply (decodes_optional _ value.size (decodes_u64 _ _)).bind
  apply (decodes_optional _ value.regularContent (decodes_digest _)).bind
  apply (decodes_optional _ value.symlinkTarget (decodes_text _)).bind
  apply (decodes_optional _ value.device decodes_device).bind
  apply (decodes_optional _ value.hardlinkAnchor (decodes_path _)).bind_pure
  rw [value.make_self]
  rfl

theorem decodes_rejected (value : RejectedObjectReference) :
    Decodes decodeRejected (rejectedFields storedDigest value) value := by
  apply (decodes_u8 _ _ (toByte value.side)).bind
  apply (decodes_digest _ value.identity).bind_pure
  rw [value.make_self]
  rfl

theorem decodes_entry (value : OwnedEntry) :
    Decodes decodeEntry (entryFields storedDigest value) value := by
  simp only [entryFields, List.append_assoc]
  apply (decodes_path _ value.path).bind
  apply (decodes_object value.object).bind
  apply (decodes_u8 _ _ (toByte value.origin)).bind
  apply (decodes_optional _ value.rejected decodes_rejected).bind_pure
  rw [value.make_self]
  rfl

theorem entryFields_ne_nil (value : OwnedEntry) : entryFields storedDigest value ≠ [] := by
  simp [entryFields]

/-- A receipt is read back against the target it was made for. -/
theorem decodes_receipt (value : InstallationReceipt sha256) :
    Decodes (decodeReceipt value.targetBinding) (encodeReceipt value) value := by
  simp only [encodeReceipt, List.append_assoc]
  apply (decodes_u16 _ _ installationReceiptSchemaVersion).bind
  rw [if_neg (not_not.mpr rfl)]
  apply (decodes_control value.control).bind
  refine (decodes_counted _ value.manifest.toStdVector entryFields_ne_nil ?_).bind ?_
  · intro entry _
    exact decodes_entry entry
  apply (decodes_digest _ value.operationPlan).bind
  apply (decodes_digest _ value.applicationEvidence).bind
  apply (decodes_optional _ value.transactionEvidence (decodes_digest _)).bind_pure
  rw [value.make_self]
  rfl

theorem completes_bindingRecord (binding : StateTargetBinding sha256) :
    Completes (decodeBindingRecord sha256) (encodeGenerationBinding binding) binding := by
  simp only [encodeGenerationBinding, List.append_assoc]
  apply (decodes_expect _ bindingMagic _).completes_bind
  apply (decodes_u16 _ _ canonicalGenerationStorageVersion).completes_bind
  rw [if_neg (not_not.mpr rfl), ← List.append_nil (bindingFields _ _)]
  apply (decodes_bindingFields binding).completes_bind
  exact completes_finish _ binding

/-- One package of a snapshot, whose receipt is read against the snapshot's target. -/
theorem decodes_package {targetBinding : StateTargetBinding sha256}
    {package : InstalledPackage sha256} (bound : package.targetBinding = targetBinding) :
    Decodes (do
        let receipt ← decodeReceipt targetBinding
        pure (InstalledPackage.make receipt))
      (encodeReceipt package.receipt) package := by
  rw [← bound]
  exact (decodes_receipt package.receipt).bind_pure (by rw [package.make_self])

theorem encodeReceipt_ne_nil (receipt : InstallationReceipt sha256) :
    encodeReceipt receipt ≠ [] := by
  simp [encodeReceipt, countedBytes_ne_nil]

theorem completes_snapshotRecord (value : Snapshot sha256) {packages : StdVector _}
    (held : packages.toList = value.packages) :
    Completes (decodeSnapshotRecord sha256) (encodeGenerationSnapshot value)
      (value.targetBinding, packages) := by
  simp only [encodeGenerationSnapshot, List.append_assoc, ← held]
  apply (decodes_expect _ snapshotMagic _).completes_bind
  apply (decodes_u16 _ _ canonicalGenerationStorageVersion).completes_bind
  rw [if_neg (not_not.mpr rfl)]
  apply (decodes_u16 _ _ installedStateSchemaVersion).completes_bind
  rw [if_neg (not_not.mpr rfl), ← List.append_nil (countedBytes _ _)]
  apply (decodes_bindingFields value.targetBinding).completes_bind
  refine (decodes_counted _ packages (fun package => encodeReceipt_ne_nil package.receipt)
    ?_).completes_bind (completes_finish _ _)
  intro package member
  exact decodes_package (value.bound package (held ▸ member))

/-! ## Exactness -/

/-- What a rethrown computation returns, the computation returned. -/
theorem rethrowAsStoreError_eq_ok {α : Type} {context : String} {result : Except Failure α}
    {value : α} : rethrowAsStoreError context result = .ok value ↔ result = .ok value := by
  cases result with
  | ok other => exact Iff.rfl
  | error failure =>
      cases failure <;> exact ⟨nofun, nofun⟩

theorem requireCanonicalEncoding_eq_ok {canonical original : Bytes} {label : String} :
    requireCanonicalEncoding canonical original label = .ok () ↔ canonical = original :=
  check_eq_ok.trans not_not

/-- A binding record is read back exactly. -/
theorem decodeGenerationBinding_encode (binding : StateTargetBinding sha256) :
    decodeGenerationBinding sha256 (encodeGenerationBinding binding) = .ok binding := by
  have read := (completes_bindingRecord binding).run
  refine rethrowAsStoreError_eq_ok.mpr (bind_eq_ok.mpr ⟨_, read, ?_⟩)
  exact bind_eq_ok.mpr ⟨(), requireCanonicalEncoding_eq_ok.mpr rfl, rfl⟩

/-- A snapshot within the range of a vector is read back exactly. -/
theorem decodeGenerationSnapshot_encode (value : Snapshot sha256)
    (bound : value.packages.length < 2 ^ 64) :
    decodeGenerationSnapshot sha256 (encodeGenerationSnapshot value) = .ok value := by
  have held : StdVector.toList ⟨value.packages, bound⟩ = value.packages := rfl
  have read := (completes_snapshotRecord value held).run
  refine rethrowAsStoreError_eq_ok.mpr (bind_eq_ok.mpr ⟨_, read, ?_⟩)
  refine bind_eq_ok.mpr ⟨value, value.make_self, ?_⟩
  exact bind_eq_ok.mpr ⟨(), requireCanonicalEncoding_eq_ok.mpr rfl, rfl⟩

/-- Every accepted byte string is the encoding of its result. -/
theorem encode_of_decodeGenerationBinding {bytes : Bytes} {binding : StateTargetBinding sha256}
    (decoded : decodeGenerationBinding sha256 bytes = .ok binding) :
    encodeGenerationBinding binding = bytes := by
  rcases bind_eq_ok.mp (rethrowAsStoreError_eq_ok.mp decoded) with ⟨_, _, rest⟩
  rcases bind_eq_ok.mp rest with ⟨_, canonical, returned⟩
  cases returned
  exact requireCanonicalEncoding_eq_ok.mp canonical

/-- Every accepted byte string is the encoding of its result, which holds no more
packages than a vector. -/
theorem encode_of_decodeGenerationSnapshot {bytes : Bytes} {value : Snapshot sha256}
    (decoded : decodeGenerationSnapshot sha256 bytes = .ok value) :
    encodeGenerationSnapshot value = bytes ∧ value.packages.length < 2 ^ 64 := by
  rcases bind_eq_ok.mp (rethrowAsStoreError_eq_ok.mp decoded) with
    ⟨⟨⟨binding, packages⟩, _⟩, _, rest⟩
  rcases bind_eq_ok.mp rest with ⟨result, built, rest⟩
  rcases bind_eq_ok.mp rest with ⟨_, canonical, returned⟩
  cases returned
  exact ⟨requireCanonicalEncoding_eq_ok.mp canonical, Snapshot.length_lt_of_make built⟩

/-- The generation codec is exact: every snapshot that `make` builds from a
vector of packages is read back equal, and the accepted byte strings are the
encodings. -/
theorem generationSnapshot_exact (sha256 : Sha256) :
    (∀ (targetBinding : StateTargetBinding sha256)
      (packages : StdVector (InstalledPackage sha256)) (value : Snapshot sha256),
      Snapshot.make targetBinding packages.toList = .ok value →
      decodeGenerationSnapshot sha256 (encodeGenerationSnapshot value) = .ok value) ∧
    ∀ (bytes : Bytes) (value : Snapshot sha256),
      decodeGenerationSnapshot sha256 bytes = .ok value →
      encodeGenerationSnapshot value = bytes := by
  constructor
  · intro targetBinding packages value built
    exact decodeGenerationSnapshot_encode value (Snapshot.length_lt_of_make built)
  · intro bytes value decoded
    exact (encode_of_decodeGenerationSnapshot decoded).1

theorem generationSnapshot_exact_numbered :
    ∃ value, Snapshot.make Fixture.binding (numberedPackages Fixture.binding 2) = .ok value ∧
      decodeGenerationSnapshot Sha256.hash (encodeGenerationSnapshot value) = .ok value := by
  obtain ⟨value, built⟩ := make_numberedPackages Fixture.binding (show 2 ≤ 256 ^ 3 by decide)
  exact ⟨value, built, (generationSnapshot_exact Sha256.hash).1 Fixture.binding
    ⟨numberedPackages Fixture.binding 2, by rw [length_numberedPackages]; decide⟩ value built⟩

/-! ## Where a record ends

A generation record has neither an outer length nor a checksum. Its counts and
lengths still determine where it ends: two records at the front of one byte
string are the same record. As the decoders accept nothing but encodings, a torn
or an appended record is never accepted. -/

theorem selfDelimiting_generationBinding :
    SelfDelimiting fun binding : StateTargetBinding sha256 => encodeGenerationBinding binding := by
  refine ⟨fun {a b s t} same => ?_⟩
  simp only [encodeGenerationBinding, List.append_assoc, List.append_cancel_left_eq] at same
  exact selfDelimiting_storedBinding.strip same

/-- Two snapshots within the range of a vector: the target comes first, and the
receipts behind it are read against it. -/
theorem encodeGenerationSnapshot_strip {a b : Snapshot sha256} {s t : Bytes}
    (aBound : a.packages.length < 2 ^ 64) (bBound : b.packages.length < 2 ^ 64)
    (same : encodeGenerationSnapshot a ++ s = encodeGenerationSnapshot b ++ t) :
    a = b ∧ s = t := by
  simp only [encodeGenerationSnapshot, List.append_assoc, List.append_cancel_left_eq] at same
  obtain ⟨target, same⟩ := selfDelimiting_storedBinding.strip same
  obtain ⟨packages, tails⟩ := SelfDelimiting.counted_of_strip aBound bBound
    (fun package member other otherMember s t front =>
      (decodes_package (a.bound package member)).strip
        (decodes_package ((b.bound other otherMember).trans target.symm)) front) same
  exact ⟨Snapshot.ext_packages target packages, tails⟩

/-- Generation records are self-delimiting. No proper prefix and no proper extension
of a snapshot's encoding is decoded, and no encoding is a proper prefix of
another; the same holds for the encodings of bindings. -/
theorem generationRecords_selfDelimiting (sha256 : Sha256) :
    (∀ (targetBinding : StateTargetBinding sha256)
      (packages : StdVector (InstalledPackage sha256)) (value : Snapshot sha256),
      Snapshot.make targetBinding packages.toList = .ok value →
      (∀ bytes, bytes <+: encodeGenerationSnapshot value ∨
          encodeGenerationSnapshot value <+: bytes →
        bytes ≠ encodeGenerationSnapshot value →
        ∃ failure, decodeGenerationSnapshot sha256 bytes = .error failure) ∧
      ∀ (otherBinding : StateTargetBinding sha256)
        (otherPackages : StdVector (InstalledPackage sha256)) (other : Snapshot sha256),
        Snapshot.make otherBinding otherPackages.toList = .ok other →
        encodeGenerationSnapshot value <+: encodeGenerationSnapshot other → value = other) ∧
    ∀ binding : StateTargetBinding sha256,
      (∀ bytes, bytes <+: encodeGenerationBinding binding ∨
          encodeGenerationBinding binding <+: bytes →
        bytes ≠ encodeGenerationBinding binding →
        ∃ failure, decodeGenerationBinding sha256 bytes = .error failure) ∧
      ∀ other : StateTargetBinding sha256,
        encodeGenerationBinding binding <+: encodeGenerationBinding other → binding = other := by
  refine ⟨?_, ?_⟩
  · intro targetBinding packages value built
    have bound := Snapshot.length_lt_of_make built
    refine ⟨?_, ?_⟩
    · intro bytes comparable different
      exact fails_of_delimited encodeGenerationSnapshot_strip encode_of_decodeGenerationSnapshot
        bound comparable different
    · intro otherBinding otherPackages other otherBuilt ⟨rest, whole⟩
      exact (encodeGenerationSnapshot_strip bound (Snapshot.length_lt_of_make otherBuilt)
        (whole.trans (List.append_nil _).symm)).1
  · intro binding
    refine ⟨?_, ?_⟩
    · intro bytes comparable different
      have admitted : (fun _ : StateTargetBinding sha256 => True) binding := trivial
      exact fails_of_delimited (fun _ _ => selfDelimiting_generationBinding.strip)
        (fun decoded => ⟨encode_of_decodeGenerationBinding decoded, trivial⟩) admitted comparable
        different
    · intro other ⟨rest, whole⟩
      exact (selfDelimiting_generationBinding.strip (whole.trans (List.append_nil _).symm)).1

/-- A record of two packages with a byte appended, and one of a target without its
last byte. -/
theorem generationRecords_selfDelimiting_appended :
    (∃ failure, decodeGenerationSnapshot Sha256.hash
        (encodeGenerationSnapshot Fixture.installedPair ++ [0]) = .error failure) ∧
      (∃ failure, decodeGenerationSnapshot Sha256.hash
        (encodeGenerationSnapshot Fixture.installedPair).dropLast = .error failure) ∧
      ∃ failure, decodeGenerationBinding Sha256.hash
        (encodeGenerationBinding Fixture.binding).dropLast = .error failure := by
  have delimited := generationRecords_selfDelimiting Sha256.hash
  have shorter {bytes : Bytes} (some : bytes ≠ []) : bytes.dropLast ≠ bytes := by
    intro same
    have sizes := congrArg List.length same
    rw [List.length_dropLast] at sizes
    have pos := List.length_pos_of_ne_nil some
    omega
  have built : Snapshot.make Fixture.binding
      (StdVector.mk Fixture.installedPair.packages (by decide)).toList =
        .ok Fixture.installedPair :=
    Fixture.installedPair.make_self
  have refused := (delimited.1 Fixture.binding _ _ built).1
  refine ⟨refused _ (Or.inr ⟨[0], rfl⟩) ?_, refused _ (Or.inl (List.dropLast_prefix _)) ?_, ?_⟩
  · intro same
    exact List.cons_ne_nil _ _ (List.append_right_eq_self.mp same)
  · exact shorter (List.ne_nil_of_length_pos (by simp [encodeGenerationSnapshot]))
  · exact (delimited.2 Fixture.binding).1 _ (Or.inl (List.dropLast_prefix _))
      (shorter (List.ne_nil_of_length_pos (by simp [encodeGenerationBinding])))

end Pkgstate
