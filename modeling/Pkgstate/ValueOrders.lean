import Pkgstate.DeltaOrder
import Pkgstate.PublicationIdentity

/-!
# The comparisons of the library

Every type of the library has an `operator<` and an `operator==` of its own. The value
types compare all their parts in both. Records with an identity are ordered by it alone
and compared in every part, packages are ordered by name, and so are the packages that
deltas propose, and receipts of publications leave two of their parts out of the order.
`orders_agree` says for each type on which pairs the two comparisons agree.
-/

namespace Pkgstate

open Wire Cpp Keyed

variable {sha256 : Sha256}

/-- `std::vector` compares its values in turn, normalized or not. -/
instance {α κ : Type} [Less α] [Less κ] {key : α → κ} : Less (SortedVector key) :=
  .on fun values : SortedVector key => values.toList
instance {α κ : Type} [Less α] [StrictTotal α] [Less κ] {key : α → κ} :
    StrictTotal (SortedVector key) :=
  .on (fun values : SortedVector key => values.toList) SortedVector.toList_inj
instance {α κ : Type} [Equal α] [Less κ] {key : α → κ} : Equal (SortedVector key) :=
  .on fun values : SortedVector key => values.toList
instance {α κ : Type} [Equal α] [LawfulEqual α] [Less κ] {key : α → κ} :
    LawfulEqual (SortedVector key) :=
  .on (fun values : SortedVector key => values.toList) SortedVector.toList_inj

/-! ## Enumerations -/

instance : Equal LifecycleAction := .on toByte
instance : LawfulEqual LifecycleAction := .on toByte ByteEnum.toByte_inj

instance : Equal ProgramLanguage := .on toByte
instance : LawfulEqual ProgramLanguage := .on toByte ByteEnum.toByte_inj

instance : Less OwnedObjectKind := .on toByte
instance : StrictTotal OwnedObjectKind := .on toByte ByteEnum.toByte_inj
instance : Equal OwnedObjectKind := .on toByte
instance : LawfulEqual OwnedObjectKind := .on toByte ByteEnum.toByte_inj

instance : Less ActiveObjectOrigin := .on toByte
instance : StrictTotal ActiveObjectOrigin := .on toByte ByteEnum.toByte_inj
instance : Equal ActiveObjectOrigin := .on toByte
instance : LawfulEqual ActiveObjectOrigin := .on toByte ByteEnum.toByte_inj

instance : Less RejectedObjectSide := .on toByte
instance : StrictTotal RejectedObjectSide := .on toByte ByteEnum.toByte_inj
instance : Equal RejectedObjectSide := .on toByte
instance : LawfulEqual RejectedObjectSide := .on toByte ByteEnum.toByte_inj

instance : Less InstallationReasonKind := .on toByte
instance : StrictTotal InstallationReasonKind := .on toByte ByteEnum.toByte_inj
instance : Equal InstallationReasonKind := .on toByte
instance : LawfulEqual InstallationReasonKind := .on toByte ByteEnum.toByte_inj

instance : Less StatePublicationOutcome := .on toByte
instance : StrictTotal StatePublicationOutcome := .on toByte ByteEnum.toByte_inj
instance : Equal StatePublicationOutcome := .on toByte
instance : LawfulEqual StatePublicationOutcome := .on toByte ByteEnum.toByte_inj

instance : Less StatePublicationDurability := .on toByte
instance : StrictTotal StatePublicationDurability := .on toByte ByteEnum.toByte_inj
instance : Equal StatePublicationDurability := .on toByte
instance : LawfulEqual StatePublicationDurability := .on toByte ByteEnum.toByte_inj

instance : Less StateStorageAtomicityBoundary := .on toByte
instance : StrictTotal StateStorageAtomicityBoundary := .on toByte ByteEnum.toByte_inj
instance : Equal StateStorageAtomicityBoundary := .on toByte
instance : LawfulEqual StateStorageAtomicityBoundary := .on toByte ByteEnum.toByte_inj

instance : Equal PackagePath := .on PackagePath.string
instance : LawfulEqual PackagePath := .on PackagePath.string PackagePath.string_inj

/-! ## Source records -/

namespace PackageRequirement

/-- The tuple of both comparisons. -/
@[reducible] def tie (value : PackageRequirement) := (value.package, value.origins)

theorem tie_inj {a b : PackageRequirement} (same : a.tie = b.tie) : a = b := by
  cases a
  cases b
  cases same
  rfl

instance : Less PackageRequirement := .on tie
instance : StrictTotal PackageRequirement := .on tie tie_inj
instance : Equal PackageRequirement := .on tie
instance : LawfulEqual PackageRequirement := .on tie tie_inj

end PackageRequirement

instance : Equal Program := .on Program.tie
instance : LawfulEqual Program := .on Program.tie Program.tie_inj

instance : Equal LifecycleProgram := .on LifecycleProgram.tie
instance : LawfulEqual LifecycleProgram := .on LifecycleProgram.tie LifecycleProgram.tie_inj

namespace LifecycleRequirement

@[reducible] def tie (value : LifecycleRequirement) := (value.action, value.requirement)

theorem tie_inj {a b : LifecycleRequirement} (same : a.tie = b.tie) : a = b := by
  cases a
  cases b
  cases same
  rfl

instance : Less LifecycleRequirement := .on tie
instance : StrictTotal LifecycleRequirement := .on tie tie_inj
instance : Equal LifecycleRequirement := .on tie
instance : LawfulEqual LifecycleRequirement := .on tie tie_inj

end LifecycleRequirement

namespace PackageMetadata

@[reducible] def tie (value : PackageMetadata) :=
  (value.summary, value.description, value.homepage, value.licenses)

theorem tie_inj {a b : PackageMetadata} (same : a.tie = b.tie) : a = b := by
  cases a
  cases b
  cases same
  rfl

instance : Less PackageMetadata := .on tie
instance : StrictTotal PackageMetadata := .on tie tie_inj
instance : Equal PackageMetadata := .on tie
instance : LawfulEqual PackageMetadata := .on tie tie_inj

end PackageMetadata

namespace SelectedProfile

@[reducible] def tie (value : SelectedProfile) :=
  (value.profile, value.identity, value.declarations)

theorem tie_inj {a b : SelectedProfile} (same : a.tie = b.tie) : a = b := by
  cases a
  cases b
  cases same
  rfl

instance : Less SelectedProfile := .on tie
instance : StrictTotal SelectedProfile := .on tie tie_inj
instance : Equal SelectedProfile := .on tie
instance : LawfulEqual SelectedProfile := .on tie tie_inj

end SelectedProfile

namespace ArchitectureBinding

@[reducible] def tie (value : ArchitectureBinding) :=
  (value.declaredBuild, value.declaredTarget, value.selectedBuild, value.selectedTarget)

theorem tie_inj {a b : ArchitectureBinding} (same : a.tie = b.tie) : a = b := by
  cases a
  cases b
  cases same
  rfl

instance : Less ArchitectureBinding := .on tie
instance : StrictTotal ArchitectureBinding := .on tie tie_inj
instance : Equal ArchitectureBinding := .on tie
instance : LawfulEqual ArchitectureBinding := .on tie tie_inj

end ArchitectureBinding

namespace PackageRelease

/-- The tuple of `operator<`: the identity decides last. -/
@[reducible] def tie (value : PackageRelease) :=
  (value.package, value.version, value.release, value.identity)

theorem tie_inj {a b : PackageRelease} (same : a.tie = b.tie) : a = b := by
  cases a
  cases b
  cases same
  rfl

/-- The tuple of `operator==`: the identity decides first. -/
@[reducible] def parts (value : PackageRelease) :=
  (value.identity, value.package, value.version, value.release)

theorem parts_inj {a b : PackageRelease} (same : a.parts = b.parts) : a = b := by
  cases a
  cases b
  cases same
  rfl

instance : Less PackageRelease := .on tie
instance : StrictTotal PackageRelease := .on tie tie_inj
instance : Equal PackageRelease := .on parts
instance : LawfulEqual PackageRelease := .on parts parts_inj

end PackageRelease

namespace PackageSourceRecord

/-- The parts that `operator==` compares behind the identity. -/
@[reducible] def parts (record : PackageSourceRecord sha256) :=
  (record.identity, record.release, record.metadata, record.runtimeRequirements,
    record.lifecyclePrograms, record.lifecycleRequirements, record.architectures,
    record.selectedProfiles, record.snapshot)

theorem parts_inj {a b : PackageSourceRecord sha256} (same : a.parts = b.parts) : a = b := by
  rcases a with ⟨⟨⟩, _, _⟩
  rcases b with ⟨⟨⟩, _, _⟩
  cases same
  rfl

instance : Less (PackageSourceRecord sha256) := .on fun record => record.identity
instance : StrictWeak (PackageSourceRecord sha256) :=
  .on fun record : PackageSourceRecord sha256 => record.identity
instance : Equal (PackageSourceRecord sha256) := .on parts
instance : LawfulEqual (PackageSourceRecord sha256) := .on parts parts_inj

end PackageSourceRecord

/-! ## Controls -/

namespace InstallationReason

@[reducible] def tie (value : InstallationReason) :=
  (value.kind, value.issuerPackage, value.issuerProfile, value.issuerProfileIdentity,
    value.policy)

theorem tie_inj {a b : InstallationReason} (same : a.tie = b.tie) : a = b := by
  cases a
  cases b
  cases same
  rfl

instance : Less InstallationReason := .on tie
instance : StrictTotal InstallationReason := .on tie tie_inj
instance : Equal InstallationReason := .on tie
instance : LawfulEqual InstallationReason := .on tie tie_inj

end InstallationReason

namespace BuildProvenance

@[reducible] def tie (value : BuildProvenance) :=
  (value.sourceRecord, value.request, value.buildInputs, value.environmentPolicy,
    value.buildPolicy, value.buildResult, value.payloadManifest, value.artifact,
    value.artifactContent, value.artifactBinding, value.executionEvidence, value.buildImage,
    value.artifactImage, value.artifactInspection)

theorem tie_inj {a b : BuildProvenance} (same : a.tie = b.tie) : a = b := by
  cases a
  cases b
  cases same
  rfl

instance : Less BuildProvenance := .on tie
instance : StrictTotal BuildProvenance := .on tie tie_inj
instance : Equal BuildProvenance := .on tie
instance : LawfulEqual BuildProvenance := .on tie tie_inj

end BuildProvenance

namespace InstalledControl

@[reducible] def parts (control : InstalledControl sha256) :=
  (control.identity, control.source, control.reason, control.build)

theorem parts_inj {a b : InstalledControl sha256} (same : a.parts = b.parts) : a = b := by
  cases a
  cases b
  cases same
  rfl

instance : Less (InstalledControl sha256) := .on fun control => control.identity
instance : StrictWeak (InstalledControl sha256) :=
  .on fun control : InstalledControl sha256 => control.identity
instance : Equal (InstalledControl sha256) := .on parts
instance : LawfulEqual (InstalledControl sha256) := .on parts parts_inj

end InstalledControl

/-! ## Owned entries -/

namespace InstalledObjectTimestamp

@[reducible] def tie (value : InstalledObjectTimestamp) := (value.seconds, value.nanoseconds)

theorem tie_inj {a b : InstalledObjectTimestamp} (same : a.tie = b.tie) : a = b := by
  cases a
  cases b
  cases same
  rfl

instance : Less InstalledObjectTimestamp := .on tie
instance : StrictTotal InstalledObjectTimestamp := .on tie tie_inj
instance : Equal InstalledObjectTimestamp := .on tie
instance : LawfulEqual InstalledObjectTimestamp := .on tie tie_inj

end InstalledObjectTimestamp

namespace InstalledDeviceNumber

@[reducible] def tie (value : InstalledDeviceNumber) := (value.major, value.minor)

theorem tie_inj {a b : InstalledDeviceNumber} (same : a.tie = b.tie) : a = b := by
  cases a
  cases b
  cases same
  rfl

instance : Less InstalledDeviceNumber := .on tie
instance : StrictTotal InstalledDeviceNumber := .on tie tie_inj
instance : Equal InstalledDeviceNumber := .on tie
instance : LawfulEqual InstalledDeviceNumber := .on tie tie_inj

end InstalledDeviceNumber

namespace InstalledObjectMetadata

@[reducible] def tie (value : InstalledObjectMetadata) :=
  (value.kind, value.mode, value.uid, value.gid, value.mtime, value.size,
    value.regularContent, value.symlinkTarget, value.device, value.hardlinkAnchor)

theorem tie_inj {a b : InstalledObjectMetadata} (same : a.tie = b.tie) : a = b := by
  cases a
  cases b
  cases same
  rfl

instance : Less InstalledObjectMetadata := .on tie
instance : StrictTotal InstalledObjectMetadata := .on tie tie_inj
instance : Equal InstalledObjectMetadata := .on tie
instance : LawfulEqual InstalledObjectMetadata := .on tie tie_inj

end InstalledObjectMetadata

namespace RejectedObjectReference

@[reducible] def tie (value : RejectedObjectReference) := (value.side, value.identity)

theorem tie_inj {a b : RejectedObjectReference} (same : a.tie = b.tie) : a = b := by
  cases a
  cases b
  cases same
  rfl

instance : Less RejectedObjectReference := .on tie
instance : StrictTotal RejectedObjectReference := .on tie tie_inj
instance : Equal RejectedObjectReference := .on tie
instance : LawfulEqual RejectedObjectReference := .on tie tie_inj

end RejectedObjectReference

namespace OwnedEntry

@[reducible] def tie (value : OwnedEntry) :=
  (value.path, value.object, value.origin, value.rejected)

theorem tie_inj {a b : OwnedEntry} (same : a.tie = b.tie) : a = b := by
  cases a
  cases b
  cases same
  rfl

instance : Less OwnedEntry := .on tie
instance : StrictTotal OwnedEntry := .on tie tie_inj
instance : Equal OwnedEntry := .on tie
instance : LawfulEqual OwnedEntry := .on tie tie_inj

end OwnedEntry

/-! ## Targets and receipts -/

namespace StateTargetBinding

@[reducible] def tie (binding : StateTargetBinding sha256) :=
  (binding.managedTarget, binding.stateStore, binding.rootView, binding.stateBackend,
    binding.publicationDomain, binding.identity)

theorem tie_inj {a b : StateTargetBinding sha256} (same : a.tie = b.tie) : a = b := by
  rcases a with ⟨⟨⟩, _, _⟩
  rcases b with ⟨⟨⟩, _, _⟩
  cases same
  rfl

@[reducible] def parts (binding : StateTargetBinding sha256) :=
  (binding.identity, binding.managedTarget, binding.stateStore, binding.rootView,
    binding.stateBackend, binding.publicationDomain)

theorem parts_inj {a b : StateTargetBinding sha256} (same : a.parts = b.parts) : a = b := by
  rcases a with ⟨⟨⟩, _, _⟩
  rcases b with ⟨⟨⟩, _, _⟩
  cases same
  rfl

instance : Less (StateTargetBinding sha256) := .on tie
instance : StrictTotal (StateTargetBinding sha256) := .on tie tie_inj
instance : Equal (StateTargetBinding sha256) := .on parts
instance : LawfulEqual (StateTargetBinding sha256) := .on parts parts_inj

end StateTargetBinding

namespace InstallationReceipt

instance : Less (InstallationReceipt sha256) := .on fun receipt => receipt.identity
instance : StrictWeak (InstallationReceipt sha256) :=
  .on fun receipt : InstallationReceipt sha256 => receipt.identity

end InstallationReceipt

namespace StatePublicationReceipt

/-- The tuple of `operator<`, without the expected prior snapshot and the target. -/
@[reducible] def tie (receipt : StatePublicationReceipt sha256) :=
  (receipt.request, receipt.actualPriorSnapshot, receipt.outcome, receipt.durability,
    receipt.atomicityBoundary, receipt.resultingSnapshot, receipt.storageFormat,
    receipt.subordinateEvidence, receipt.identity)

@[reducible] def parts (receipt : StatePublicationReceipt sha256) :=
  (receipt.identity, receipt.request, receipt.expectedPriorSnapshot,
    receipt.actualPriorSnapshot, receipt.targetBinding, receipt.storageFormat,
    receipt.outcome, receipt.durability, receipt.atomicityBoundary,
    receipt.resultingSnapshot, receipt.subordinateEvidence)

theorem parts_inj {a b : StatePublicationReceipt sha256} (same : a.parts = b.parts) : a = b := by
  cases a
  cases b
  cases same
  rfl

instance : Less (StatePublicationReceipt sha256) := .on tie
instance : StrictWeak (StatePublicationReceipt sha256) :=
  .on fun receipt : StatePublicationReceipt sha256 => receipt.tie
instance : Equal (StatePublicationReceipt sha256) := .on parts
instance : LawfulEqual (StatePublicationReceipt sha256) := .on parts parts_inj

end StatePublicationReceipt

/-! ## Where the comparisons agree -/

/-- The value types order all their values. -/
structure OrdersValues (sha256 : Sha256) : Prop where
  digestValue : OrdersApart DigestValue fun _ _ => True
  typedDigest {Tag : Type} (domain : Tag) : OrdersApart (TypedDigest domain) fun _ _ => True
  reference (kind : ReferenceKind) : OrdersApart (CanonicalReference kind) fun _ _ => True
  packagePath : OrdersApart PackagePath fun _ _ => True
  declarationProvenance : OrdersApart DeclarationProvenance fun _ _ => True
  profileExpansionStep : OrdersApart ProfileExpansionStep fun _ _ => True
  requirementOrigin : OrdersApart RequirementOrigin fun _ _ => True
  packageRequirement : OrdersApart PackageRequirement fun _ _ => True
  program : OrdersApart Program fun _ _ => True
  lifecycleProgram : OrdersApart LifecycleProgram fun _ _ => True
  lifecycleRequirement : OrdersApart LifecycleRequirement fun _ _ => True
  packageMetadata : OrdersApart PackageMetadata fun _ _ => True
  selectedProfile : OrdersApart SelectedProfile fun _ _ => True
  architectureBinding : OrdersApart ArchitectureBinding fun _ _ => True
  packageRelease : OrdersApart PackageRelease fun _ _ => True
  installationReason : OrdersApart InstallationReason fun _ _ => True
  buildProvenance : OrdersApart BuildProvenance fun _ _ => True
  timestamp : OrdersApart InstalledObjectTimestamp fun _ _ => True
  deviceNumber : OrdersApart InstalledDeviceNumber fun _ _ => True
  objectMetadata : OrdersApart InstalledObjectMetadata fun _ _ => True
  rejectedObjectReference : OrdersApart RejectedObjectReference fun _ _ => True
  ownedEntry : OrdersApart OwnedEntry fun _ _ => True
  stateTargetBinding : OrdersApart (StateTargetBinding sha256) fun _ _ => True

theorem ordersValues (sha256 : Sha256) : OrdersValues sha256 where
  digestValue := .of_total
  typedDigest _ := .of_total
  reference _ := .of_total
  packagePath := .of_total
  declarationProvenance := .of_total
  profileExpansionStep := .of_total
  requirementOrigin := .of_total
  packageRequirement := .of_total
  program := .of_total
  lifecycleProgram := .of_total
  lifecycleRequirement := .of_total
  packageMetadata := .of_total
  selectedProfile := .of_total
  architectureBinding := .of_total
  packageRelease := .of_total
  installationReason := .of_total
  buildProvenance := .of_total
  timestamp := .of_total
  deviceNumber := .of_total
  objectMetadata := .of_total
  rejectedObjectReference := .of_total
  ownedEntry := .of_total
  stateTargetBinding := .of_total

theorem PackageStateDelta.ordersApart :
    OrdersApart (PackageStateDelta sha256) Separated where
  irrefl := StrictWeak.irrefl
  trans := StrictWeak.trans
  agrees _ _ := trichotomy_iff_separated

/-- The comparisons agree. Every `operator<` of the library is a strict order. The value
types order all their values; records with an identity all but those that share it; a
package all packages but those of one name, so that a snapshot lists its packages in
their order; deltas all but those that differ in the proposed package alone; and
receipts of publications all but those that differ in the expected state or in the
target alone, of which there are none unless hashed records collide. -/
theorem orders_agree (sha256 : Sha256) :
    OrdersValues sha256 ∧
    OrdersApart (PackageSourceRecord sha256) (fun a b => a.identity = b.identity → a = b) ∧
    OrdersApart (InstalledControl sha256) (fun a b => a.identity = b.identity → a = b) ∧
    OrdersApart (InstallationReceipt sha256) (fun a b => a.identity = b.identity → a = b) ∧
    OrdersApart (InstalledPackage sha256)
      (fun a b => a.release.package = b.release.package → a = b) ∧
    OrdersApart (PackageStateDelta sha256) PackageStateDelta.Separated ∧
    OrdersApart (StatePublicationReceipt sha256) (fun a b => a.tie = b.tie → a = b) ∧
    (∀ snapshot : Snapshot sha256, snapshot.packages.Pairwise fun a b => less a b = true) ∧
    ∀ a b : StatePublicationReceipt sha256, CollisionFree sha256 (a.records ++ b.records) →
      Trichotomy a b := by
  have receipts : OrdersApart (StatePublicationReceipt sha256)
      (fun a b => a.tie = b.tie → a = b) := .of_key fun _ _ => rfl
  refine ⟨ordersValues sha256, .of_key fun _ _ => rfl, .of_key fun _ _ => rfl,
    .of_key fun _ _ => rfl, .of_key fun _ _ => rfl, PackageStateDelta.ordersApart, receipts,
    ?_, ?_⟩
  · intro snapshot
    exact snapshot.sorted
  · intro a b free
    refine (receipts.agrees a b).mpr fun same => ?_
    exact StatePublicationReceipt.eq_of_identity_eq free
      (congrArg (fun tuple => tuple.2.2.2.2.2.2.2.2) same)

/-- The receipt of a request that was refused in the state it expected. -/
def Fixture.refusal (seed : UInt8) : StatePublicationReceipt Sha256.hash where
  request := identity seed
  expectedPriorSnapshot := identity (seed + 1)
  actualPriorSnapshot := identity (seed + 1)
  targetBinding := binding
  storageFormat := ⟨ascii "pkgstate-generation", by decide⟩
  outcome := .requestRejected
  durability := .notAttempted
  atomicityBoundary := .none
  resultingSnapshot := none
  subordinateEvidence := noEvidence
  identity := _
  formatted := by decide
  identity_eq := rfl

theorem Fixture.collisionFree_refusals :
    CollisionFree Sha256.hash ((refusal 120).records ++ (refusal 130).records) := by
  decide +kernel

/-- Two refusals are ordered, and two builds of one package are not. -/
theorem orders_agree_refusals :
    Trichotomy (Fixture.refusal 120) (Fixture.refusal 130) ∧
      ¬ Trichotomy Fixture.package Fixture.owningPackage := by
  obtain ⟨_, _, _, _, packages, _, _, _, receipts⟩ := orders_agree Sha256.hash
  refine ⟨receipts _ _ Fixture.collisionFree_refusals, fun ordered => ?_⟩
  have same := (packages.agrees Fixture.package Fixture.owningPackage).mp ordered rfl
  have manifests := congrArg (fun package => package.manifest.length) same
  exact absurd manifests (by decide)

end Pkgstate
