import Pkgstate.ConstructorErrors
import Pkgstate.PublicationReceiptCodec
import Pkgstate.PublicationRequestCodec

/-!
# What the decoders throw

Whatever bytes they are given, the generation decoders return or throw
`store_error`, and the publication decoders return or throw
`state_publication_codec_error`. The reads stay inside the record and the
constructors throw what the outermost `catch` clauses translate, so no error of
another class and no access out of range gets past them.
-/

namespace Pkgstate

open Wire Cpp Keyed

variable {sha256 : Sha256}

/-- The exception class of the generation decoders. -/
def Failure.IsStoreError (failure : Failure) : Prop :=
  ∃ what, failure = .storeError what

/-- The exception class of the publication decoders. -/
def Failure.IsCodecError (failure : Failure) : Prop :=
  ∃ code what, failure = .statePublicationCodecError code what

/-- An exception of either family, and no access out of range. -/
def Failure.IsThrown : Failure → Prop
  | .outOfRange => False
  | _ => True

/-! ## The generation reader -/

theorem generationFailures_isError : generationFailures.Allowed Failure.IsError where
  truncated _ := rfl
  mismatch _ := rfl
  invalid _ := rfl
  overlong _ := rfl
  implausible _ := rfl
  trailing := rfl

section Generation

open Generation

theorem confined_text (label : String) : Confined Failure.IsError (text label) :=
  confined_bytes generationFailures_isError (ascii label)

theorem confined_digest {Tag : Type} {domain : Tag} (label : String) :
    Confined Failure.IsError (digest label : Decoder Failure (TypedDigest domain)) :=
  (confined_text label).bind fun text => .lift (TypedDigest.parse_fails text.bytes)

theorem confined_reference {kind : ReferenceKind} (label : String) :
    Confined Failure.IsError (reference label : Decoder Failure (CanonicalReference kind)) :=
  (confined_text label).bind fun name => .lift (CanonicalReference.make_fails name)

theorem confined_path (label : String) : Confined Failure.IsError (path label) :=
  (confined_text label).bind fun text => .lift (PackagePath.parse_fails text)

theorem confined_counted {α : Type} (label : String) {decoder : Decoder Failure α}
    (each : Confined Failure.IsError decoder) :
    Confined Failure.IsError (counted label decoder) :=
  Wire.confined_counted generationFailures_isError (ascii label) each

theorem confined_optional {α : Type} (label : String) {decoder : Decoder Failure α}
    (each : Confined Failure.IsError decoder) :
    Confined Failure.IsError (optional label decoder) :=
  Wire.confined_optional generationFailures_isError (ascii label) each

theorem confined_bindingFields : Confined Failure.IsError (decodeBindingFields sha256) := by
  apply (confined_digest _).bind
  intro managed
  apply (confined_digest _).bind
  intro store
  apply (confined_digest _).bind
  intro root
  apply (confined_digest _).bind
  intro backend
  exact (confined_digest _).bind fun publication => .pure _

theorem confined_provenance : Confined Failure.IsError decodeProvenance := by
  apply (confined_text _).bind
  intro document
  apply (confined_text _).bind
  intro path
  apply (confined_u32 generationFailures_isError _).bind
  intro line
  apply (confined_u32 generationFailures_isError _).bind
  intro column
  exact .lift (DeclarationProvenance.make_fails document path line column)

theorem confined_step : Confined Failure.IsError decodeStep := by
  apply (confined_reference _).bind
  intro profile
  apply (confined_u8 generationFailures_isError _).bind
  intro memberKind
  apply (confined_text _).bind
  intro member
  apply confined_provenance.bind
  intro provenance
  exact .lift (ProfileExpansionStep.make_fails profile memberKind member provenance)

theorem confined_origin : Confined Failure.IsError decodeOrigin := by
  apply confined_provenance.bind
  intro declaration
  exact (confined_counted _ confined_step).bind fun expansion => .pure _

theorem confined_requirement : Confined Failure.IsError decodeRequirement := by
  apply (confined_reference _).bind
  intro package
  apply (confined_counted _ confined_origin).bind
  intro origins
  exact .lift (PackageRequirement.make_fails package origins)

theorem confined_release : Confined Failure.IsError decodeRelease := by
  apply (confined_digest _).bind
  intro identity
  apply (confined_reference _).bind
  intro package
  apply (confined_text _).bind
  intro version
  apply (confined_u32 generationFailures_isError _).bind
  intro release
  exact .lift (PackageRelease.make_fails identity package version release)

theorem confined_metadata : Confined Failure.IsError decodeMetadata := by
  apply (confined_text _).bind
  intro summary
  apply (confined_optional _ (confined_text _)).bind
  intro description
  apply (confined_optional _ (confined_text _)).bind
  intro homepage
  apply (confined_counted _ (confined_text _)).bind
  intro licenses
  exact .lift (PackageMetadata.make_fails summary description homepage licenses)

theorem confined_lifecycleProgram : Confined Failure.IsError decodeLifecycleProgram := by
  apply (confined_u8 generationFailures_isError _).bind
  intro action
  apply (confined_u8 generationFailures_isError _).bind
  intro language
  apply (confined_text _).bind
  intro material
  apply (Confined.lift (Program.make_fails language material)).bind
  intro value
  exact .lift (LifecycleProgram.make_fails action value)

theorem confined_lifecycleRequirement : Confined Failure.IsError decodeLifecycleRequirement := by
  apply (confined_u8 generationFailures_isError _).bind
  intro action
  apply confined_requirement.bind
  intro requirement
  exact .lift (LifecycleRequirement.make_fails action requirement)

theorem confined_architectures : Confined Failure.IsError decodeArchitectures := by
  apply (confined_counted _ (confined_reference _)).bind
  intro declaredBuild
  apply (confined_counted _ (confined_reference _)).bind
  intro declaredTarget
  apply (confined_reference _).bind
  intro selectedBuild
  apply (confined_reference _).bind
  intro selectedTarget
  exact .lift (ArchitectureBinding.make_fails declaredBuild declaredTarget selectedBuild
    selectedTarget)

theorem confined_selectedProfile : Confined Failure.IsError decodeSelectedProfile := by
  apply (confined_reference _).bind
  intro profile
  apply (confined_digest _).bind
  intro identity
  apply (confined_counted _ confined_provenance).bind
  intro declarations
  exact .lift (SelectedProfile.make_fails profile identity declarations)

theorem confined_source : Confined Failure.IsError (decodeSource sha256) := by
  apply confined_release.bind
  intro release
  apply confined_metadata.bind
  intro metadata
  apply (confined_counted _ confined_requirement).bind
  intro runtime
  apply (confined_counted _ confined_lifecycleProgram).bind
  intro programs
  apply (confined_counted _ confined_lifecycleRequirement).bind
  intro requirements
  apply confined_architectures.bind
  intro architectures
  apply (confined_counted _ confined_selectedProfile).bind
  intro profiles
  apply (confined_digest _).bind
  intro snapshot
  exact .lift (PackageSourceRecord.make_fails release metadata runtime programs requirements
    architectures profiles snapshot)

theorem buildReason_fails (kind : UInt8) (package : Option PackageReference)
    (profile : Option (ProfileReference × SourceProfileIdentity)) (policy : Option StdString) :
    FailsOnly Failure.IsError (buildReason kind package profile policy) := by
  unfold buildReason
  split
  · split
    · trivial
    · rfl
  · split
    · trivial
    · rfl
  · split
    · trivial
    · rfl
  · split
    · exact InstallationReason.systemPolicy_fails _
    · rfl
  · rfl

theorem confined_reason : Confined Failure.IsError decodeReason := by
  apply (confined_u8 generationFailures_isError _).bind
  intro kind
  apply (confined_optional _ (confined_reference _)).bind
  intro package
  refine (confined_optional _ ?_).bind fun profile => ?_
  · exact (confined_reference _).bind fun profile => (confined_digest _).bind fun _ => .pure _
  apply (confined_optional _ (confined_text _)).bind
  intro policy
  exact .lift (buildReason_fails kind package profile policy)

theorem confined_build : Confined Failure.IsError decodeBuild := by
  apply (confined_digest _).bind
  intro sourceRecord
  apply (confined_digest _).bind
  intro request
  apply (confined_digest _).bind
  intro buildInputs
  apply (confined_digest _).bind
  intro environmentPolicy
  apply (confined_digest _).bind
  intro buildPolicy
  apply (confined_digest _).bind
  intro buildResult
  apply (confined_digest _).bind
  intro payloadManifest
  apply (confined_digest _).bind
  intro artifact
  apply (confined_digest _).bind
  intro artifactContent
  apply (confined_digest _).bind
  intro artifactBinding
  apply (confined_digest _).bind
  intro executionEvidence
  apply (confined_digest _).bind
  intro buildImage
  apply (confined_digest _).bind
  intro artifactImage
  exact (confined_digest _).bind fun artifactInspection => .pure _

theorem confined_control : Confined Failure.IsError (decodeControl sha256) := by
  apply confined_source.bind
  intro source
  apply confined_reason.bind
  intro reason
  apply confined_build.bind
  intro build
  exact .lift (InstalledControl.make_fails source reason build)

theorem confined_device : Confined Failure.IsError decodeDevice := by
  apply (confined_u64 generationFailures_isError _).bind
  intro major
  exact (confined_u64 generationFailures_isError _).bind fun minor => .pure _

theorem confined_object : Confined Failure.IsError decodeObject := by
  apply (confined_u8 generationFailures_isError _).bind
  intro kind
  apply (confined_u32 generationFailures_isError _).bind
  intro mode
  apply (confined_u64 generationFailures_isError _).bind
  intro uid
  apply (confined_u64 generationFailures_isError _).bind
  intro gid
  apply (confined_i64 generationFailures_isError _).bind
  intro seconds
  apply (confined_u32 generationFailures_isError _).bind
  intro nanoseconds
  apply (Confined.lift (InstalledObjectTimestamp.make_fails seconds nanoseconds)).bind
  intro mtime
  apply (confined_optional _ (confined_u64 generationFailures_isError _)).bind
  intro size
  apply (confined_optional _ (confined_digest _)).bind
  intro regularContent
  apply (confined_optional _ (confined_text _)).bind
  intro symlinkTarget
  apply (confined_optional _ confined_device).bind
  intro device
  apply (confined_optional _ (confined_path _)).bind
  intro hardlinkAnchor
  exact .lift (InstalledObjectMetadata.make_fails kind mode uid gid mtime size regularContent
    symlinkTarget device hardlinkAnchor)

theorem confined_rejected : Confined Failure.IsError decodeRejected := by
  apply (confined_u8 generationFailures_isError _).bind
  intro side
  apply (confined_digest _).bind
  intro identity
  exact .lift (RejectedObjectReference.make_fails side identity)

theorem confined_entry : Confined Failure.IsError decodeEntry := by
  apply (confined_path _).bind
  intro path
  apply confined_object.bind
  intro object
  apply (confined_u8 generationFailures_isError _).bind
  intro origin
  apply (confined_optional _ confined_rejected).bind
  intro rejected
  exact .lift (OwnedEntry.make_fails path object origin rejected)

theorem confined_receipt (binding : StateTargetBinding sha256) :
    Confined Failure.IsError (decodeReceipt binding) := by
  apply (confined_u16 generationFailures_isError _).bind
  intro schema
  refine .ite (.fail rfl) ?_
  apply confined_control.bind
  intro control
  apply (confined_counted _ confined_entry).bind
  intro manifest
  apply (confined_digest _).bind
  intro plan
  apply (confined_digest _).bind
  intro evidence
  apply (confined_optional _ (confined_digest _)).bind
  intro transaction
  exact .lift (InstallationReceipt.make_fails control binding manifest plan evidence transaction)

theorem confined_bindingRecord : Confined Failure.IsError (decodeBindingRecord sha256) := by
  apply (confined_expect generationFailures_isError _ _).bind
  intro _
  apply (confined_u16 generationFailures_isError _).bind
  intro version
  refine .ite (.fail rfl) ?_
  apply confined_bindingFields.bind
  intro result
  exact (confined_finish generationFailures_isError).bind fun _ => .pure _

theorem confined_snapshotRecord : Confined Failure.IsError (decodeSnapshotRecord sha256) := by
  apply (confined_expect generationFailures_isError _ _).bind
  intro _
  apply (confined_u16 generationFailures_isError _).bind
  intro version
  refine .ite (.fail rfl) ?_
  apply (confined_u16 generationFailures_isError _).bind
  intro schema
  refine .ite (.fail rfl) ?_
  apply confined_bindingFields.bind
  intro binding
  refine (confined_counted _ ?_).bind fun packages => ?_
  · exact (confined_receipt binding).bind fun receipt => .pure _
  · exact (confined_finish generationFailures_isError).bind fun _ => .pure _

end Generation

/-- The outermost `catch` clauses leave nothing but `store_error`. -/
theorem rethrowAsStoreError_fails {α : Type} (context : String) {result : Except Failure α}
    (fails : FailsOnly Failure.IsError result) :
    FailsOnly Failure.IsStoreError (rethrowAsStoreError context result) := by
  cases result with
  | ok value => trivial
  | error failure =>
      cases failure with
      | statePublicationCodecError code what => cases fails
      | outOfRange => cases fails
      | _ => exact ⟨_, rfl⟩

theorem requireCanonicalEncoding_fails (canonical original : Bytes) (label : String) :
    FailsOnly Failure.IsError (requireCanonicalEncoding canonical original label) :=
  .ite rfl trivial

theorem decodeGenerationBinding_fails (bytes : Bytes) :
    FailsOnly Failure.IsStoreError (decodeGenerationBinding sha256 bytes) := by
  apply rethrowAsStoreError_fails
  apply (confined_bindingRecord.run bytes).bind
  intro (result, _)
  exact (requireCanonicalEncoding_fails _ bytes _).bind fun _ => trivial

theorem decodeGenerationSnapshot_fails (bytes : Bytes) :
    FailsOnly Failure.IsStoreError (decodeGenerationSnapshot sha256 bytes) := by
  apply rethrowAsStoreError_fails
  apply (confined_snapshotRecord.run bytes).bind
  intro ((binding, packages), _)
  apply (Snapshot.make_fails binding packages.toList).bind
  intro result
  exact (requireCanonicalEncoding_fails _ bytes _).bind fun _ => trivial

/-! ## The publication reader -/

theorem Failure.IsStoreError.isThrown {failure : Failure} (store : failure.IsStoreError) :
    failure.IsThrown := by
  rcases store with ⟨what, rfl⟩
  trivial

theorem Failure.IsCodecError.isThrown {failure : Failure} (codec : failure.IsCodecError) :
    failure.IsThrown := by
  rcases codec with ⟨code, what, rfl⟩
  trivial

theorem Failure.IsError.isThrown {failure : Failure} (derived : failure.IsError) :
    failure.IsThrown := by
  cases failure with
  | outOfRange => cases derived
  | _ => trivial

/-- What a constructor throws, seen from the publication decoders. -/
theorem thrown {α : Type} {result : Except Failure α}
    (fails : FailsOnly Failure.IsError result) : FailsOnly Failure.IsThrown result :=
  fails.mono fun _ => Failure.IsError.isThrown

/-- The outermost `catch` clauses leave nothing but the codec's own class. -/
theorem rethrowAsInvalidValue_fails {α : Type} (context : Bytes) {result : Except Failure α}
    (fails : FailsOnly Failure.IsThrown result) :
    FailsOnly Failure.IsCodecError (rethrowAsInvalidValue context result) := by
  cases result with
  | ok value => trivial
  | error failure =>
      cases failure with
      | outOfRange => cases fails
      | _ => exact ⟨_, _, rfl⟩

theorem publicationFailures_isThrown : publicationFailures.Allowed Failure.IsThrown where
  truncated _ := trivial
  mismatch _ := trivial
  invalid _ := trivial
  overlong _ := trivial
  implausible _ := trivial
  trailing := trivial

namespace Publication

theorem confined_text (label : String) : Confined Failure.IsThrown (text label) :=
  confined_bytes publicationFailures_isThrown (ascii label)

theorem confined_digest {Tag : Type} {domain : Tag} (label : String) :
    Confined Failure.IsThrown (digest label : Decoder Failure (TypedDigest domain)) := by
  apply (confined_text label).bind
  intro text
  apply Confined.lift
  exact (rethrowAsInvalidValue_fails _ (thrown (TypedDigest.parse_fails text.bytes))).mono
    fun _ => Failure.IsCodecError.isThrown

theorem confined_enumeration {α : Type} [ByteEnum α] (label : String) :
    Confined Failure.IsThrown (enumeration label : Decoder Failure α) :=
  (confined_u8 publicationFailures_isThrown _).bind fun byte => .lift (.declared byte trivial)

theorem confined_optional {α : Type} (label : String) {decoder : Decoder Failure α}
    (each : Confined Failure.IsThrown decoder) :
    Confined Failure.IsThrown (optional label decoder) :=
  Wire.confined_optional publicationFailures_isThrown (ascii label) each

theorem confined_counted {α : Type} (label : String) {decoder : Decoder Failure α}
    (each : Confined Failure.IsThrown decoder) :
    Confined Failure.IsThrown (counted label decoder) :=
  Wire.confined_counted publicationFailures_isThrown (ascii label) each

end Publication

theorem confined_readPrefix (name : String) (magic : Bytes) (version : UInt16) (body : Bytes) :
    Confined Failure.IsThrown (readPrefix name magic version body) := by
  refine .ite (.fail trivial) ?_
  apply (confined_expect publicationFailures_isThrown _ _).bind
  intro _
  apply (confined_u16 publicationFailures_isThrown _).bind
  intro found
  exact .ite (.fail trivial) (.pure _)

theorem verifiedBody_fails (encoding : Bytes) (maximumSize : Nat) :
    FailsOnly Failure.IsThrown (verifiedBody sha256 encoding maximumSize) :=
  .ite trivial (.ite trivial (.ite trivial trivial))

theorem appendChecksum_fails (written : Bytes) (maximumSize : Nat) :
    FailsOnly Failure.IsThrown (appendChecksum sha256 written maximumSize) :=
  .ite trivial trivial

/-! ## Requests -/

/-- The package taken from a proposed record is its only one. -/
theorem decodeProposedPackage_fails (bytes : Bytes) (expectedBinding : StateTargetBinding sha256)
    (expectedName : StdString) :
    FailsOnly Failure.IsThrown
      (decodeProposedPackage sha256 bytes expectedBinding expectedName) := by
  have decodes : FailsOnly Failure.IsThrown (decodeGenerationSnapshot sha256 bytes) :=
    (decodeGenerationSnapshot_fails bytes).mono fun _ => Failure.IsStoreError.isThrown
  apply decodes.bind
  intro proposed
  split
  · trivial
  · next accepted =>
      split
      · next empty =>
          rw [empty] at accepted
          exact absurd (Or.inr (by simp)) accepted
      · exact .ite trivial trivial

theorem buildDelta_fails (kind : PackageStateDeltaKind) (packageName : StdString)
    (operationPlan : OperationPlanIdentity) (applicationEvidence : ApplicationEvidenceIdentity)
    (expectedPackage : Option InstalledPackageIdentity)
    (proposedPackage : Option (InstalledPackage sha256)) :
    FailsOnly Failure.IsThrown (buildDelta kind packageName operationPlan applicationEvidence
      expectedPackage proposedPackage) := by
  unfold buildDelta
  cases kind with
  | install =>
      dsimp only
      split
      · exact thrown (PackageStateDelta.install_fails _ operationPlan applicationEvidence)
      · trivial
  | replace =>
      dsimp only
      split
      · exact thrown (PackageStateDelta.replace_fails _ _ operationPlan applicationEvidence)
      · trivial
  | remove =>
      dsimp only
      split
      · exact thrown (PackageStateDelta.remove_fails packageName _ operationPlan
          applicationEvidence)
      · trivial

theorem confined_delta (expectedSnapshot : Snapshot sha256) :
    Confined Failure.IsThrown (decodeDelta expectedSnapshot) := by
  apply (Publication.confined_enumeration _).bind
  intro kind
  apply (Publication.confined_text _).bind
  intro packageName
  apply (Publication.confined_digest _).bind
  intro operationPlan
  apply (Publication.confined_digest _).bind
  intro applicationEvidence
  apply (Publication.confined_optional _ (Publication.confined_digest _)).bind
  intro expectedPackage
  refine (Publication.confined_optional _ ?_).bind fun proposedPackage => ?_
  · apply (Publication.confined_text _).bind
    intro proposedBytes
    apply Confined.lift
    exact decodeProposedPackage_fails proposedBytes.bytes expectedSnapshot.targetBinding
      packageName
  · exact .lift (buildDelta_fails kind packageName operationPlan applicationEvidence
      expectedPackage proposedPackage)

theorem confined_requestRecord (body : Bytes) (expectedSnapshot : Snapshot sha256) :
    Confined Failure.IsThrown (decodeRequestRecord body expectedSnapshot) := by
  apply (confined_readPrefix _ _ _ body).bind
  intro _
  apply (Publication.confined_digest _).bind
  intro encodedIdentity
  apply (Publication.confined_digest _).bind
  intro encodedExpected
  apply (Publication.confined_digest _).bind
  intro encodedTarget
  refine .ite (.fail trivial) ?_
  apply (Publication.confined_counted _ (confined_delta expectedSnapshot)).bind
  intro deltas
  apply (Publication.confined_optional _ (Publication.confined_digest _)).bind
  intro transaction
  exact (confined_finish publicationFailures_isThrown).bind fun _ => .pure _

theorem requireCanonicalRequest_fails (encoded : Bytes)
    (request : StatePublicationRequest sha256) :
    FailsOnly Failure.IsThrown (requireCanonicalRequest encoded request) := by
  unfold requireCanonicalRequest
  rw [encodeStatePublicationRequest_eq]
  apply (appendChecksum_fails (requestBody request) _).bind
  intro canonical
  exact .ite trivial trivial

theorem decodeStatePublicationRequest_fails (encoding : Bytes)
    (expectedSnapshot : Snapshot sha256) :
    FailsOnly Failure.IsCodecError (decodeStatePublicationRequest encoding expectedSnapshot) := by
  apply rethrowAsInvalidValue_fails
  apply (verifiedBody_fails encoding _).bind
  intro body
  apply ((confined_requestRecord body expectedSnapshot).run body).bind
  intro ((encodedIdentity, deltas, transaction), _)
  apply (thrown (StatePublicationRequest.make_fails expectedSnapshot deltas transaction)).bind
  intro result
  exact .ite trivial ((requireCanonicalRequest_fails encoding result).bind fun _ => trivial)

/-! ## Receipts -/

section Receipts

variable (request : StatePublicationRequest sha256) (actualPrior : Snapshot sha256)

theorem requireProjected_fails (resulting : Option InstalledStateSnapshotIdentity) :
    FailsOnly Failure.IsThrown (requireProjected request actualPrior resulting) := by
  apply (thrown (projectPublicationRequest_fails request actualPrior)).bind
  intro projected
  exact .ite trivial trivial

theorem rebuildReceipt_fails (storageFormat : StdString) (outcome : StatePublicationOutcome)
    (durability : StatePublicationDurability) (atomicity : StateStorageAtomicityBoundary)
    (resulting : Option InstalledStateSnapshotIdentity)
    (evidence : StdVector StatePublicationEvidenceIdentity) :
    FailsOnly Failure.IsThrown (rebuildReceipt request actualPrior storageFormat outcome
      durability atomicity resulting evidence) := by
  unfold rebuildReceipt
  cases outcome with
  | published =>
      refine .ite trivial ?_
      apply (requireProjected_fails request actualPrior resulting).bind
      intro projected
      exact thrown (StatePublicationReceipt.citing_fails request actualPrior _ _ projected _ _ _)
  | staleExpectedState =>
      exact .ite trivial
        (thrown (StatePublicationReceipt.staleExpectedState_fails request actualPrior _ _))
  | requestRejected =>
      exact .ite trivial
        (thrown (StatePublicationReceipt.unpublished_fails request actualPrior _ _ _))
  | failedBeforePublication =>
      exact .ite trivial
        (thrown (StatePublicationReceipt.unpublished_fails request actualPrior _ _ _))
  | publishedDurabilityUnconfirmed =>
      refine .ite trivial ?_
      apply (requireProjected_fails request actualPrior resulting).bind
      intro projected
      exact thrown (StatePublicationReceipt.citing_fails request actualPrior _ _ projected _ _ _)
  | indeterminate =>
      exact .ite trivial
        (thrown (StatePublicationReceipt.indeterminate_fails request actualPrior _ _ _ _))

theorem confined_receiptRecord (body : Bytes) :
    Confined Failure.IsThrown (decodeReceiptRecord body request actualPrior) := by
  apply (confined_readPrefix _ _ _ body).bind
  intro _
  apply (Publication.confined_digest _).bind
  intro identity
  apply (Publication.confined_digest _).bind
  intro encodedRequest
  apply (Publication.confined_digest _).bind
  intro encodedExpected
  apply (Publication.confined_digest _).bind
  intro encodedActual
  apply (Publication.confined_digest _).bind
  intro encodedTarget
  refine .ite (.fail trivial) (.ite (.fail trivial) (.ite (.fail trivial) ?_))
  apply (Publication.confined_text _).bind
  intro storageFormat
  apply (Publication.confined_enumeration _).bind
  intro outcome
  apply (Publication.confined_enumeration _).bind
  intro durability
  apply (Publication.confined_enumeration _).bind
  intro atomicity
  apply (Publication.confined_optional _ (Publication.confined_digest _)).bind
  intro resulting
  apply (Publication.confined_counted _ (Publication.confined_digest _)).bind
  intro evidence
  exact (confined_finish publicationFailures_isThrown).bind fun _ => .pure _

theorem decodeStatePublicationReceipt_fails (encoding : Bytes) :
    FailsOnly Failure.IsCodecError
      (decodeStatePublicationReceipt encoding request actualPrior) := by
  apply rethrowAsInvalidValue_fails
  apply (verifiedBody_fails encoding _).bind
  intro body
  apply ((confined_receiptRecord request actualPrior body).run body).bind
  intro (fields, _)
  apply (rebuildReceipt_fails request actualPrior _ _ _ _ _ _).bind
  intro result
  have canonical : FailsOnly Failure.IsThrown (requireCanonicalReceipt encoding result) :=
    (appendChecksum_fails (receiptBody result) _).bind fun _ => .ite trivial trivial
  exact .ite trivial (canonical.bind fun _ => trivial)

end Receipts

/-! ## Every decoder -/

/-- Malformed records fail only with the documented class: `store_error` for the two
generation decoders, `state_publication_codec_error` for the two publication
decoders. -/
theorem decoders_fail_documented (sha256 : Sha256) :
    (∀ bytes, (∃ value, decodeGenerationSnapshot sha256 bytes = .ok value) ∨
      ∃ what, decodeGenerationSnapshot sha256 bytes = .error (.storeError what)) ∧
    (∀ bytes, (∃ value, decodeGenerationBinding sha256 bytes = .ok value) ∨
      ∃ what, decodeGenerationBinding sha256 bytes = .error (.storeError what)) ∧
    (∀ bytes (expectedSnapshot : Snapshot sha256),
      (∃ request, decodeStatePublicationRequest bytes expectedSnapshot = .ok request) ∨
      ∃ code what, decodeStatePublicationRequest bytes expectedSnapshot =
        .error (.statePublicationCodecError code what)) ∧
    ∀ bytes (request : StatePublicationRequest sha256) (actualPrior : Snapshot sha256),
      (∃ receipt, decodeStatePublicationReceipt bytes request actualPrior = .ok receipt) ∨
      ∃ code what, decodeStatePublicationReceipt bytes request actualPrior =
        .error (.statePublicationCodecError code what) := by
  refine ⟨?_, ?_, ?_, ?_⟩
  · intro bytes
    rcases (decodeGenerationSnapshot_fails bytes).ok_or_error with returned |
      ⟨_, ⟨what, rfl⟩, failed⟩
    · exact Or.inl returned
    · exact Or.inr ⟨what, failed⟩
  · intro bytes
    rcases (decodeGenerationBinding_fails bytes).ok_or_error with returned |
      ⟨_, ⟨what, rfl⟩, failed⟩
    · exact Or.inl returned
    · exact Or.inr ⟨what, failed⟩
  · intro bytes expectedSnapshot
    rcases (decodeStatePublicationRequest_fails bytes expectedSnapshot).ok_or_error with
      returned | ⟨_, ⟨code, what, rfl⟩, failed⟩
    · exact Or.inl returned
    · exact Or.inr ⟨code, what, failed⟩
  · intro bytes request actualPrior
    rcases (decodeStatePublicationReceipt_fails request actualPrior bytes).ok_or_error with
      returned | ⟨_, ⟨code, what, rfl⟩, failed⟩
    · exact Or.inl returned
    · exact Or.inr ⟨code, what, failed⟩

/-- An empty record. -/
example : decodeGenerationSnapshot Sha256.hash [] =
    .error (.storeError (ascii "truncated canonical generation magic")) := rfl

end Pkgstate
