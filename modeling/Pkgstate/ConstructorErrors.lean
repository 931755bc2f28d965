import Pkgstate.Base.Confined
import Pkgstate.PublicationReceipt

/-!
# What the constructors throw

Every validating constructor, factory and projection throws an exception derived
from `pkgstate::error` or none, whatever its arguments. The accesses of the
projection that the source leaves unchecked are never reached: the shape of a
delta promises the package that they take.
-/

namespace Pkgstate

open Wire Cpp Keyed

/-- An exception derived from `pkgstate::error`. -/
def Failure.IsError (failure : Failure) : Prop :=
  failure.what?.isSome = true

variable {sha256 : Sha256}

theorem requireLineSafe_fails (text : Bytes) (whenEmpty whenBroken : String) :
    FailsOnly Failure.IsError (requireLineSafe text whenEmpty whenBroken) :=
  .ite rfl (.ite rfl trivial)

theorem sortUnique_fails {α β : Type} [Less α] [StrictTotal α] [DecidableEq α] {label : String}
    {values : StdVector α}
    {next : (sorted : SortedVector (id : α → α)) → sorted.toList.Perm values.toList →
      Except Failure β}
    (rest : ∀ sorted arranged, FailsOnly Failure.IsError (next sorted arranged)) :
    FailsOnly Failure.IsError (sortUnique label values next) :=
  .sortDistinct (fun _ => rfl) rest

theorem declared_fails {α : Type} [ByteEnum α] (what : Bytes) (byte : UInt8) :
    FailsOnly Failure.IsError (ByteEnum.declared (.stateError what) byte : Except Failure α) :=
  .declared byte rfl

/-! ## Digests and paths -/

theorem parseHexDigit_fails (value : UInt8) :
    FailsOnly Failure.IsError (DigestValue.parseHexDigit value) :=
  .ite trivial (.ite trivial rfl)

theorem parseHexPairs_fails (digits : Bytes) :
    FailsOnly Failure.IsError (DigestValue.parseHexPairs digits) := by
  induction digits using DigestValue.parseHexPairs.induct with
  | case1 highDigit lowDigit rest ih =>
      rw [DigestValue.parseHexPairs]
      apply (parseHexDigit_fails highDigit).bind
      intro high
      apply (parseHexDigit_fails lowDigit).bind
      intro low
      exact ih.bind fun bytes => trivial
  | case2 digits short =>
      unfold DigestValue.parseHexPairs
      split
      · exact (short _ _ _ rfl).elim
      · trivial

theorem DigestValue.parse_fails (input : Bytes) :
    FailsOnly Failure.IsError (DigestValue.parse input) := by
  unfold DigestValue.parse
  dsimp only
  split
  · refine .ite rfl (.ite rfl (.ite rfl (.dite (fun _ => rfl) fun _ => ?_)))
    split
    · next failed => exact (parseHexPairs_fails _).of_error failed
    · trivial
  · rfl

theorem TypedDigest.parse_fails {Tag : Type} {domain : Tag} (input : Bytes) :
    FailsOnly Failure.IsError
      (TypedDigest.parse input : Except Failure (TypedDigest domain)) :=
  (DigestValue.parse_fails input).bind fun _ => trivial

theorem PackagePath.objectComponents_fails (input : Bytes) (pieces : List Bytes) :
    FailsOnly Failure.IsError (objectComponents input pieces) := by
  induction pieces with
  | nil => trivial
  | cons component rest ih => exact .ite (.ite rfl (ih.bind fun _ => trivial)) ih

theorem PackagePath.normalize_fails (input : Bytes) :
    FailsOnly Failure.IsError (normalize input) := by
  refine .ite rfl (.ite rfl ?_)
  split
  · exact .ite rfl rfl
  · apply (objectComponents_fails input _).bind
    intro components
    exact .ite rfl trivial

theorem PackagePath.parse_fails (input : StdString) :
    FailsOnly Failure.IsError (PackagePath.parse input) := by
  unfold PackagePath.parse
  split
  · next failed => exact (normalize_fails input.bytes).of_error failed
  · trivial

/-! ## The parts of a source record -/

theorem CanonicalReference.make_fails {kind : ReferenceKind} (name : StdString) :
    FailsOnly Failure.IsError
      (CanonicalReference.make name : Except Failure (CanonicalReference kind)) :=
  .dite (fun _ => trivial) fun _ => rfl

theorem DeclarationProvenance.make_fails (document path : StdString) (line column : UInt32) :
    FailsOnly Failure.IsError (DeclarationProvenance.make document path line column) :=
  .dite (fun _ => trivial) fun _ => rfl

theorem validateMember_fails (kind : RequirementMemberKind) (member : StdString) :
    FailsOnly Failure.IsError (validateMember kind member) := by
  cases kind with
  | package => exact (CanonicalReference.make_fails member).bind fun _ => trivial
  | profile => exact (CanonicalReference.make_fails member).bind fun _ => trivial

theorem ProfileExpansionStep.make_fails (profile : ProfileReference) (memberKind : UInt8)
    (member : StdString) (provenance : DeclarationProvenance) :
    FailsOnly Failure.IsError
      (ProfileExpansionStep.make profile memberKind member provenance) := by
  apply (declared_fails _ memberKind).bind
  intro kind
  exact .checked (validateMember_fails kind member)

theorem PackageRequirement.make_fails (package : PackageReference)
    (origins : StdVector RequirementOrigin) :
    FailsOnly Failure.IsError (PackageRequirement.make package origins) := by
  refine .dite (fun _ => rfl) fun _ => sortUnique_fails fun sorted _ => ?_
  exact .checked (.ite trivial rfl)

theorem Program.make_fails (language : UInt8) (material : StdString) :
    FailsOnly Failure.IsError (Program.make language material) := by
  apply (declared_fails _ language).bind
  intro language
  exact .dite (fun _ => trivial) fun _ => rfl

theorem LifecycleProgram.make_fails (action : UInt8) (value : Program) :
    FailsOnly Failure.IsError (LifecycleProgram.make action value) :=
  (declared_fails _ action).bind fun _ => trivial

theorem LifecycleRequirement.make_fails (action : UInt8) (requirement : PackageRequirement) :
    FailsOnly Failure.IsError (LifecycleRequirement.make action requirement) :=
  (declared_fails _ action).bind fun _ => trivial

theorem PackageMetadata.make_fails (summary : StdString) (description homepage : Option StdString)
    (licenses : StdVector StdString) :
    FailsOnly Failure.IsError (PackageMetadata.make summary description homepage licenses) := by
  have checks : FailsOnly Failure.IsError
      (validateMetadata summary description homepage licenses.toList) :=
    .ite rfl (.ite rfl trivial)
  unfold PackageMetadata.make
  split
  · next failed => exact checks.of_error failed
  · exact sortUnique_fails fun _ _ => trivial

theorem SelectedProfile.make_fails (profile : ProfileReference) (identity : SourceProfileIdentity)
    (declarations : StdVector DeclarationProvenance) :
    FailsOnly Failure.IsError (SelectedProfile.make profile identity declarations) :=
  .dite (fun _ => rfl) fun _ => sortUnique_fails fun _ _ => trivial

theorem ArchitectureBinding.make_fails
    (declaredBuild declaredTarget : StdVector ArchitectureReference)
    (selectedBuild selectedTarget : ArchitectureReference) :
    FailsOnly Failure.IsError
      (ArchitectureBinding.make declaredBuild declaredTarget selectedBuild selectedTarget) :=
  sortUnique_fails fun _ _ => sortUnique_fails fun _ _ => .checked (.ite rfl (.ite rfl trivial))

theorem PackageRelease.make_fails (identity : PackageReleaseIdentity) (package : PackageReference)
    (version : StdString) (release : UInt32) :
    FailsOnly Failure.IsError (PackageRelease.make identity package version release) :=
  .dite (fun _ => trivial) fun _ => rfl

theorem PackageSourceRecord.make_fails (release : PackageRelease) (metadata : PackageMetadata)
    (runtimeRequirements : StdVector PackageRequirement)
    (lifecyclePrograms : StdVector LifecycleProgram)
    (lifecycleRequirements : StdVector LifecycleRequirement)
    (architectures : ArchitectureBinding) (selectedProfiles : StdVector SelectedProfile)
    (snapshot : SourceSnapshotIdentity) :
    FailsOnly Failure.IsError (PackageSourceRecord.make sha256 release metadata
      runtimeRequirements lifecyclePrograms lifecycleRequirements architectures selectedProfiles
      snapshot) := by
  refine .sortDistinct (fun _ => rfl) fun requirements _ => ?_
  refine .sortDistinct (fun _ => rfl) fun programs _ => ?_
  refine .sortDistinct (fun _ => rfl) fun lifecycle _ => ?_
  exact .sortDistinct (fun _ => rfl) fun profiles _ => trivial

/-! ## Packages -/

theorem InstallationReason.systemPolicy_fails (policy : StdString) :
    FailsOnly Failure.IsError (InstallationReason.systemPolicy policy) :=
  .checked (.ite trivial rfl)

theorem InstalledControl.make_fails (source : PackageSourceRecord sha256)
    (reason : InstallationReason) (build : BuildProvenance) :
    FailsOnly Failure.IsError (InstalledControl.make source reason build) :=
  .dite (fun _ => trivial) fun _ => rfl

theorem InstalledObjectTimestamp.make_fails (seconds : Int64) (nanoseconds : UInt32) :
    FailsOnly Failure.IsError (InstalledObjectTimestamp.make seconds nanoseconds) :=
  .dite (fun _ => trivial) fun _ => rfl

theorem validateObject_fails (kind : OwnedObjectKind) (mode : UInt32) (size : Option UInt64)
    (regularContent : Option InstalledRegularContentIdentity) (symlinkTarget : Option StdString)
    (device : Option InstalledDeviceNumber) (hardlinkAnchor : Option PackagePath) :
    FailsOnly Failure.IsError
      (validateObject kind mode size regularContent symlinkTarget device hardlinkAnchor) :=
  .ite rfl (.ite rfl (.ite rfl (.ite rfl (.ite rfl (.ite rfl trivial)))))

theorem InstalledObjectMetadata.make_fails (kind : UInt8) (mode : UInt32) (uid gid : UInt64)
    (mtime : InstalledObjectTimestamp) (size : Option UInt64)
    (regularContent : Option InstalledRegularContentIdentity) (symlinkTarget : Option StdString)
    (device : Option InstalledDeviceNumber) (hardlinkAnchor : Option PackagePath) :
    FailsOnly Failure.IsError (InstalledObjectMetadata.make kind mode uid gid mtime size
      regularContent symlinkTarget device hardlinkAnchor) := by
  apply (declared_fails _ kind).bind
  intro kind
  exact .checked (validateObject_fails kind mode size regularContent symlinkTarget device
    hardlinkAnchor)

theorem RejectedObjectReference.make_fails (side : UInt8) (identity : RejectedObjectIdentity) :
    FailsOnly Failure.IsError (RejectedObjectReference.make side identity) :=
  (declared_fails _ side).bind fun _ => trivial

theorem OwnedEntry.make_fails (path : PackagePath) (object : InstalledObjectMetadata)
    (origin : UInt8) (rejected : Option RejectedObjectReference) :
    FailsOnly Failure.IsError (OwnedEntry.make path object origin rejected) :=
  (declared_fails _ origin).bind fun _ => trivial

theorem InstallationReceipt.make_fails (control : InstalledControl sha256)
    (targetBinding : StateTargetBinding sha256) (manifest : StdVector OwnedEntry)
    (operationPlan : OperationPlanIdentity) (applicationEvidence : ApplicationEvidenceIdentity)
    (transactionEvidence : Option TransactionEvidenceIdentity) :
    FailsOnly Failure.IsError (InstallationReceipt.make control targetBinding manifest
      operationPlan applicationEvidence transactionEvidence) :=
  .sortDistinct (fun _ => rfl) fun _ _ => trivial

/-! ## Snapshots -/

theorem ownershipFields_fails (ownership : List (StdString × List InstalledPackageIdentity)) :
    FailsOnly Failure.IsError (ownershipFields ownership) := by
  induction ownership with
  | nil => trivial
  | cons claim rest ih =>
      unfold ownershipFields
      dsimp only
      split
      · rfl
      · exact ih.bind fun fields => trivial

theorem identifyOwnership_fails (ownership : List (StdString × List InstalledPackageIdentity)) :
    FailsOnly Failure.IsError (identifyOwnership sha256 ownership) := by
  have record : FailsOnly Failure.IsError (ownershipRecord ownership) :=
    (ownershipFields_fails ownership).bind fun _ => trivial
  exact record.bind fun record => trivial

theorem checkPackages_fails (targetBinding : StateTargetBinding sha256)
    (previous : Option (InstalledPackage sha256)) (packages : List (InstalledPackage sha256)) :
    FailsOnly Failure.IsError (checkPackages targetBinding previous packages) := by
  induction packages generalizing previous with
  | nil => trivial
  | cons package rest ih => exact .ite rfl (.ite rfl (ih (some package)))

theorem Snapshot.make_fails (targetBinding : StateTargetBinding sha256)
    (packages : List (InstalledPackage sha256)) :
    FailsOnly Failure.IsError (Snapshot.make targetBinding packages) := by
  unfold Snapshot.make Snapshot.assemble
  split
  · next failed => exact (checkPackages_fails targetBinding none _).of_error failed
  · split
    · next failed => exact (identifyOwnership_fails _).of_error failed
    · trivial

/-! ## Requests -/

theorem validateReceiptEvidence_fails (proposed : InstalledPackage sha256)
    (operationPlan : OperationPlanIdentity) (applicationEvidence : ApplicationEvidenceIdentity) :
    FailsOnly Failure.IsError
      (validateReceiptEvidence proposed operationPlan applicationEvidence) :=
  .ite rfl trivial

theorem PackageStateDelta.install_fails (proposed : InstalledPackage sha256)
    (operationPlan : OperationPlanIdentity) (applicationEvidence : ApplicationEvidenceIdentity) :
    FailsOnly Failure.IsError (install proposed operationPlan applicationEvidence) :=
  .checked (validateReceiptEvidence_fails proposed operationPlan applicationEvidence)

theorem PackageStateDelta.replace_fails (expectedPackage : InstalledPackageIdentity)
    (proposed : InstalledPackage sha256) (operationPlan : OperationPlanIdentity)
    (applicationEvidence : ApplicationEvidenceIdentity) :
    FailsOnly Failure.IsError
      (replace expectedPackage proposed operationPlan applicationEvidence) := by
  unfold replace
  split
  · next failed =>
      exact (validateReceiptEvidence_fails proposed operationPlan applicationEvidence).of_error
        failed
  · exact .dite (fun _ => rfl) fun _ => trivial

theorem PackageStateDelta.remove_fails (packageName : StdString)
    (expectedPackage : InstalledPackageIdentity) (operationPlan : OperationPlanIdentity)
    (applicationEvidence : ApplicationEvidenceIdentity) :
    FailsOnly Failure.IsError
      (remove packageName expectedPackage operationPlan applicationEvidence :
        Except Failure (PackageStateDelta sha256)) :=
  .checked (requireLineSafe_fails packageName.bytes _ _)

theorem validateCurrent_fails (expected : Snapshot sha256) (delta : PackageStateDelta sha256) :
    FailsOnly Failure.IsError (validateCurrent expected delta) := by
  unfold validateCurrent
  split
  · rfl
  · trivial
  · rfl
  · rfl
  · exact .ite trivial rfl
  · exact .ite trivial rfl

theorem validateProposed_fails (expected : Snapshot sha256) (delta : PackageStateDelta sha256) :
    FailsOnly Failure.IsError (validateProposed expected delta) := by
  unfold validateProposed
  split
  · trivial
  · exact .ite rfl (.ite rfl trivial)

theorem validateDeltas_fails (expected : Snapshot sha256)
    (transactionEvidence : Option TransactionEvidenceIdentity)
    (deltas : List (PackageStateDelta sha256)) :
    FailsOnly Failure.IsError (validateDeltas expected transactionEvidence deltas) := by
  induction deltas with
  | nil => trivial
  | cons delta rest ih =>
      have admitted : FailsOnly Failure.IsError (validateAgainstSnapshot expected delta) :=
        (validateCurrent_fails expected delta).bind fun _ => validateProposed_fails expected delta
      apply admitted.bind
      intro _
      exact .ite rfl ih

theorem StatePublicationRequest.make_fails (expectedSnapshot : Snapshot sha256)
    (deltas : StdVector (PackageStateDelta sha256))
    (transactionEvidence : Option TransactionEvidenceIdentity) :
    FailsOnly Failure.IsError
      (StatePublicationRequest.make expectedSnapshot deltas transactionEvidence) := by
  refine .dite (fun _ => rfl) fun _ => .sortDistinct (fun _ => rfl) fun sorted _ => ?_
  refine .dite (fun _ => rfl) fun _ => .checked ?_
  exact validateDeltas_fails expectedSnapshot transactionEvidence sorted.toList

/-- A delta that installs or replaces proposes a package, so the accesses to its
proposed package are never out of range. -/
theorem projectDelta_fails (packages : List (InstalledPackage sha256))
    (delta : PackageStateDelta sha256) :
    FailsOnly Failure.IsError (projectDelta packages delta) := by
  unfold projectDelta
  rcases delta.factory with ⟨proposed, kind, _, proposes, _⟩ |
    ⟨expected, proposed, kind, _, proposes, _⟩ | ⟨expected, kind, _⟩
  · rw [kind, proposes]
    dsimp only
    split
    · rfl
    · trivial
    · trivial
  · rw [kind, proposes]
    exact .ite rfl trivial
  · rw [kind]
    exact .ite rfl trivial

theorem projectDeltas_fails (packages : List (InstalledPackage sha256))
    (deltas : List (PackageStateDelta sha256)) :
    FailsOnly Failure.IsError (projectDeltas packages deltas) := by
  induction deltas generalizing packages with
  | nil => trivial
  | cons delta rest ih =>
      apply (projectDelta_fails packages delta).bind
      intro packages
      exact ih packages

theorem projectPublicationRequest_fails (request : StatePublicationRequest sha256)
    (actualPrior : Snapshot sha256) :
    FailsOnly Failure.IsError (projectPublicationRequest request actualPrior) := by
  refine .ite rfl (.ite rfl ?_)
  apply (projectDeltas_fails actualPrior.packages request.deltas.toList).bind
  intro packages
  exact Snapshot.make_fails request.targetBinding packages

/-! ## Receipts -/

section Receipts

variable (request : StatePublicationRequest sha256) (actualPrior : Snapshot sha256)

theorem validateTarget_fails :
    FailsOnly Failure.IsError (validateTarget request actualPrior) :=
  .ite rfl trivial

theorem requireCurrent_fails : FailsOnly Failure.IsError (requireCurrent request actualPrior) := by
  apply (validateTarget_fails request actualPrior).bind
  intro _
  exact .ite rfl trivial

theorem requireStale_fails : FailsOnly Failure.IsError (requireStale request actualPrior) := by
  apply (validateTarget_fails request actualPrior).bind
  intro _
  exact .ite rfl trivial

theorem requirePublicationBoundary_fails (atomicity : UInt8) :
    FailsOnly Failure.IsError (requirePublicationBoundary atomicity) :=
  .ite rfl trivial

theorem validateResult_fails (resultingSnapshot : Snapshot sha256) :
    FailsOnly Failure.IsError (validateResult request actualPrior resultingSnapshot) := by
  refine .ite rfl ?_
  apply (projectPublicationRequest_fails request actualPrior).bind
  intro expectedResult
  exact .ite rfl trivial

theorem sortEvidence_fails (duplicate : String)
    (evidence : StdVector StatePublicationEvidenceIdentity) :
    FailsOnly Failure.IsError (sortEvidence duplicate evidence) :=
  .sortDistinct (fun _ => rfl) fun _ _ => trivial

namespace StatePublicationReceipt

theorem make_fails (storageFormat : StdString) (outcome : StatePublicationOutcome)
    (durability : StatePublicationDurability) (atomicity : UInt8)
    (resultingSnapshot : Option InstalledStateSnapshotIdentity)
    (evidence : StdVector StatePublicationEvidenceIdentity) :
    FailsOnly Failure.IsError (make request actualPrior storageFormat outcome durability atomicity
      resultingSnapshot evidence) := by
  unfold make
  split
  · next failed => exact (requireLineSafe_fails storageFormat.bytes _ _).of_error failed
  · apply (sortEvidence_fails _ evidence).bind
    intro sorted
    exact (declared_fails _ atomicity).bind fun _ => trivial

theorem citing_fails (outcome : StatePublicationOutcome) (durability : StatePublicationDurability)
    (resultingSnapshot : Snapshot sha256) (storageFormat : StdString) (atomicity : UInt8)
    (evidence : StdVector StatePublicationEvidenceIdentity) :
    FailsOnly Failure.IsError (citing outcome durability request actualPrior resultingSnapshot
      storageFormat atomicity evidence) := by
  apply (requireCurrent_fails request actualPrior).bind
  intro _
  apply (requirePublicationBoundary_fails atomicity).bind
  intro _
  apply (validateResult_fails request actualPrior resultingSnapshot).bind
  intro resulting
  exact make_fails request actualPrior _ _ _ _ _ _

theorem unpublished_fails (outcome : StatePublicationOutcome) (storageFormat : StdString)
    (evidence : StdVector StatePublicationEvidenceIdentity) :
    FailsOnly Failure.IsError
      (unpublished outcome request actualPrior storageFormat evidence) := by
  apply (requireCurrent_fails request actualPrior).bind
  intro _
  exact make_fails request actualPrior _ _ _ _ _ _

theorem staleExpectedState_fails (storageFormat : StdString)
    (evidence : StdVector StatePublicationEvidenceIdentity) :
    FailsOnly Failure.IsError
      (staleExpectedState request actualPrior storageFormat evidence) := by
  apply (requireStale_fails request actualPrior).bind
  intro _
  exact make_fails request actualPrior _ _ _ _ _ _

theorem requirePossible_fails (resultingSnapshot : Option InstalledStateSnapshotIdentity) :
    FailsOnly Failure.IsError (requirePossible request actualPrior resultingSnapshot) := by
  cases resultingSnapshot with
  | none => trivial
  | some resulting =>
      apply (projectPublicationRequest_fails request actualPrior).bind
      intro expectedResult
      exact .ite rfl trivial

theorem indeterminate_fails (resultingSnapshot : Option InstalledStateSnapshotIdentity)
    (storageFormat : StdString) (atomicity : UInt8)
    (evidence : StdVector StatePublicationEvidenceIdentity) :
    FailsOnly Failure.IsError (indeterminate request actualPrior resultingSnapshot storageFormat
      atomicity evidence) := by
  apply (requireCurrent_fails request actualPrior).bind
  intro _
  apply (requirePublicationBoundary_fails atomicity).bind
  intro _
  apply (requirePossible_fails request actualPrior resultingSnapshot).bind
  intro _
  exact make_fails request actualPrior _ _ _ _ _ _

end StatePublicationReceipt

end Receipts

end Pkgstate
