import Pkgstate.Base.Reordered
import Pkgstate.InstallationReceipt

/-!
# Order and duplicates in the lists of a record

Ten lists are sorted on their way into a source record or a receipt, each under a
comparison of its own, and each is then scanned for neighbours that share a key.
The arguments of the constructors are values here, so that two constructions can be
compared: arguments that differ in the order of their lists, at whatever depth,
construct equal values or are refused both, each list is refused for a shared key
alone, and a list that is kept holds what it was given.
-/

namespace Pkgstate

open Wire Cpp Keyed

/-! ## Arguments -/

/-- The arguments of the constructor `package_requirement`. -/
structure RequirementArguments where
  package : PackageReference
  origins : StdVector RequirementOrigin

/-- The arguments of the constructor `package_metadata`. -/
structure MetadataArguments where
  summary : StdString
  description : Option StdString
  homepage : Option StdString
  licenses : StdVector StdString

/-- The arguments of the constructor `lifecycle_requirement`. -/
structure LifecycleRequirementArguments where
  action : UInt8
  requirement : RequirementArguments

/-- The arguments of `architecture_binding::make`. -/
structure ArchitectureArguments where
  declaredBuild : StdVector ArchitectureReference
  declaredTarget : StdVector ArchitectureReference
  selectedBuild : ArchitectureReference
  selectedTarget : ArchitectureReference

/-- The arguments of the constructor `selected_profile`. -/
structure SelectedProfileArguments where
  profile : ProfileReference
  identity : SourceProfileIdentity
  declarations : StdVector DeclarationProvenance

/-- The arguments of `package_source_record::make`, each list with the arguments of
its elements. -/
structure SourceArguments where
  release : PackageRelease
  metadata : MetadataArguments
  runtimeRequirements : StdVector RequirementArguments
  lifecyclePrograms : StdVector LifecycleProgram
  lifecycleRequirements : StdVector LifecycleRequirementArguments
  architectures : ArchitectureArguments
  selectedProfiles : StdVector SelectedProfileArguments
  snapshot : SourceSnapshotIdentity

/-- The arguments of `installation_receipt::make`, down to those of its source
record. -/
structure ReceiptArguments (sha256 : Sha256) where
  source : SourceArguments
  reason : InstallationReason
  build : BuildProvenance
  targetBinding : StateTargetBinding sha256
  manifest : StdVector OwnedEntry
  operationPlan : OperationPlanIdentity
  applicationEvidence : ApplicationEvidenceIdentity
  transactionEvidence : Option TransactionEvidenceIdentity

/-! ### Construction -/

def RequirementArguments.construct (arguments : RequirementArguments) :
    Except Failure PackageRequirement :=
  PackageRequirement.make arguments.package arguments.origins

def MetadataArguments.construct (arguments : MetadataArguments) :
    Except Failure PackageMetadata :=
  PackageMetadata.make arguments.summary arguments.description arguments.homepage
    arguments.licenses

def LifecycleRequirementArguments.construct (arguments : LifecycleRequirementArguments) :
    Except Failure LifecycleRequirement := do
  let requirement ← arguments.requirement.construct
  LifecycleRequirement.make arguments.action requirement

def ArchitectureArguments.construct (arguments : ArchitectureArguments) :
    Except Failure ArchitectureBinding :=
  ArchitectureBinding.make arguments.declaredBuild arguments.declaredTarget
    arguments.selectedBuild arguments.selectedTarget

def SelectedProfileArguments.construct (arguments : SelectedProfileArguments) :
    Except Failure SelectedProfile :=
  SelectedProfile.make arguments.profile arguments.identity arguments.declarations

def SourceArguments.construct (sha256 : Sha256) (arguments : SourceArguments) :
    Except Failure (PackageSourceRecord sha256) := do
  let metadata ← arguments.metadata.construct
  let runtimeRequirements ←
    constructAll RequirementArguments.construct arguments.runtimeRequirements
  let lifecycleRequirements ←
    constructAll LifecycleRequirementArguments.construct arguments.lifecycleRequirements
  let architectures ← arguments.architectures.construct
  let selectedProfiles ←
    constructAll SelectedProfileArguments.construct arguments.selectedProfiles
  PackageSourceRecord.make sha256 arguments.release metadata runtimeRequirements
    arguments.lifecyclePrograms lifecycleRequirements architectures selectedProfiles
    arguments.snapshot

def ReceiptArguments.construct {sha256 : Sha256} (arguments : ReceiptArguments sha256) :
    Except Failure (InstallationReceipt sha256) := do
  let source ← arguments.source.construct sha256
  let control ← InstalledControl.make source arguments.reason arguments.build
  InstallationReceipt.make control arguments.targetBinding arguments.manifest
    arguments.operationPlan arguments.applicationEvidence arguments.transactionEvidence

/-! ### Order -/

/-- The same arguments, with the lists of every level in any order. -/
structure RequirementArguments.Rearranged (a b : RequirementArguments) : Prop where
  package : a.package = b.package
  origins : a.origins.toList.Perm b.origins.toList

@[inherit_doc RequirementArguments.Rearranged]
structure MetadataArguments.Rearranged (a b : MetadataArguments) : Prop where
  summary : a.summary = b.summary
  description : a.description = b.description
  homepage : a.homepage = b.homepage
  licenses : a.licenses.toList.Perm b.licenses.toList

@[inherit_doc RequirementArguments.Rearranged]
structure LifecycleRequirementArguments.Rearranged (a b : LifecycleRequirementArguments) :
    Prop where
  action : a.action = b.action
  requirement : a.requirement.Rearranged b.requirement

@[inherit_doc RequirementArguments.Rearranged]
structure ArchitectureArguments.Rearranged (a b : ArchitectureArguments) : Prop where
  declaredBuild : a.declaredBuild.toList.Perm b.declaredBuild.toList
  declaredTarget : a.declaredTarget.toList.Perm b.declaredTarget.toList
  selectedBuild : a.selectedBuild = b.selectedBuild
  selectedTarget : a.selectedTarget = b.selectedTarget

@[inherit_doc RequirementArguments.Rearranged]
structure SelectedProfileArguments.Rearranged (a b : SelectedProfileArguments) : Prop where
  profile : a.profile = b.profile
  identity : a.identity = b.identity
  declarations : a.declarations.toList.Perm b.declarations.toList

@[inherit_doc RequirementArguments.Rearranged]
structure SourceArguments.Rearranged (a b : SourceArguments) : Prop where
  release : a.release = b.release
  metadata : a.metadata.Rearranged b.metadata
  runtimeRequirements : Reordered RequirementArguments.Rearranged a.runtimeRequirements.toList
    b.runtimeRequirements.toList
  lifecyclePrograms : a.lifecyclePrograms.toList.Perm b.lifecyclePrograms.toList
  lifecycleRequirements : Reordered LifecycleRequirementArguments.Rearranged
    a.lifecycleRequirements.toList b.lifecycleRequirements.toList
  architectures : a.architectures.Rearranged b.architectures
  selectedProfiles : Reordered SelectedProfileArguments.Rearranged a.selectedProfiles.toList
    b.selectedProfiles.toList
  snapshot : a.snapshot = b.snapshot

@[inherit_doc RequirementArguments.Rearranged]
structure ReceiptArguments.Rearranged {sha256 : Sha256} (a b : ReceiptArguments sha256) :
    Prop where
  source : a.source.Rearranged b.source
  reason : a.reason = b.reason
  build : a.build = b.build
  targetBinding : a.targetBinding = b.targetBinding
  manifest : a.manifest.toList.Perm b.manifest.toList
  operationPlan : a.operationPlan = b.operationPlan
  applicationEvidence : a.applicationEvidence = b.applicationEvidence
  transactionEvidence : a.transactionEvidence = b.transactionEvidence

/-! ## The order never matters -/

theorem validateExpansions_perm {package : PackageReference}
    {origins arranged : List RequirementOrigin} (perm : arranged.Perm origins) :
    validateExpansions package arranged = validateExpansions package origins := by
  unfold validateExpansions
  rw [perm.all_eq]

theorem eq_nil_iff_of_perm {α : Type} {values arranged : List α} (perm : arranged.Perm values) :
    arranged = [] ↔ values = [] := by
  rw [← List.length_eq_zero_iff, perm.length_eq, List.length_eq_zero_iff]

theorem PackageRequirement.make_perm {package : PackageReference}
    {origins arranged : StdVector RequirementOrigin} (perm : arranged.toList.Perm origins.toList) :
    make package arranged = make package origins := by
  unfold make
  by_cases empty : origins.toList = []
  · rw [dif_pos empty, dif_pos ((eq_nil_iff_of_perm perm).mpr empty)]
  · rw [dif_neg empty, dif_neg (mt (eq_nil_iff_of_perm perm).mp empty)]
    exact sortDistinct_perm _ perm fun _ _ _ => rfl

theorem PackageMetadata.make_perm {summary : StdString} {description homepage : Option StdString}
    {licenses arranged : StdVector StdString} (perm : arranged.toList.Perm licenses.toList) :
    make summary description homepage arranged = make summary description homepage licenses := by
  have checks : validateMetadata summary description homepage arranged.toList =
      validateMetadata summary description homepage licenses.toList := validateMetadata_perm perm
  unfold make
  split
  · next failure failed =>
      split
      · next other otherFailed =>
          rw [failed, otherFailed] at checks
          rw [Except.error.inj checks]
      · next passed =>
          rw [failed, passed] at checks
          cases checks
  · next passed =>
      split
      · next failure failed =>
          rw [failed, passed] at checks
          cases checks
      · exact sortDistinct_perm _ perm fun _ _ _ => rfl

theorem SelectedProfile.make_perm {profile : ProfileReference} {identity : SourceProfileIdentity}
    {declarations arranged : StdVector DeclarationProvenance}
    (perm : arranged.toList.Perm declarations.toList) :
    make profile identity arranged = make profile identity declarations := by
  unfold make
  by_cases empty : declarations.toList = []
  · rw [dif_pos empty, dif_pos ((eq_nil_iff_of_perm perm).mpr empty)]
  · rw [dif_neg empty, dif_neg (mt (eq_nil_iff_of_perm perm).mp empty)]
    exact sortDistinct_perm _ perm fun _ _ _ => rfl

theorem ArchitectureBinding.make_perm
    {declaredBuild declaredTarget build target : StdVector ArchitectureReference}
    {selectedBuild selectedTarget : ArchitectureReference}
    (buildPerm : build.toList.Perm declaredBuild.toList)
    (targetPerm : target.toList.Perm declaredTarget.toList) :
    make build target selectedBuild selectedTarget =
      make declaredBuild declaredTarget selectedBuild selectedTarget := by
  unfold make sortUnique
  refine sortDistinct_perm _ buildPerm fun _ _ _ => ?_
  exact sortDistinct_perm _ targetPerm fun _ _ _ => rfl

theorem PackageSourceRecord.make_perm {sha256 : Sha256} {release : PackageRelease}
    {metadata : PackageMetadata} {requirements requirementsArranged : StdVector PackageRequirement}
    {programs programsArranged : StdVector LifecycleProgram}
    {lifecycle lifecycleArranged : StdVector LifecycleRequirement}
    {architectures : ArchitectureBinding} {profiles profilesArranged : StdVector SelectedProfile}
    {snapshot : SourceSnapshotIdentity}
    (requirementsPerm : requirementsArranged.toList.Perm requirements.toList)
    (programsPerm : programsArranged.toList.Perm programs.toList)
    (lifecyclePerm : lifecycleArranged.toList.Perm lifecycle.toList)
    (profilesPerm : profilesArranged.toList.Perm profiles.toList) :
    make sha256 release metadata requirementsArranged programsArranged lifecycleArranged
        architectures profilesArranged snapshot =
      make sha256 release metadata requirements programs lifecycle architectures profiles
        snapshot := by
  refine sortDistinct_perm _ requirementsPerm fun _ _ _ => ?_
  refine sortDistinct_perm _ programsPerm fun _ _ _ => ?_
  refine sortDistinct_perm _ lifecyclePerm fun _ _ _ => ?_
  exact sortDistinct_perm _ profilesPerm fun _ _ _ => rfl

theorem InstallationReceipt.make_perm {sha256 : Sha256} {control : InstalledControl sha256}
    {targetBinding : StateTargetBinding sha256} {manifest arranged : StdVector OwnedEntry}
    {operationPlan : OperationPlanIdentity} {applicationEvidence : ApplicationEvidenceIdentity}
    {transactionEvidence : Option TransactionEvidenceIdentity}
    (perm : arranged.toList.Perm manifest.toList) :
    make control targetBinding arranged operationPlan applicationEvidence transactionEvidence =
      make control targetBinding manifest operationPlan applicationEvidence
        transactionEvidence :=
  sortDistinct_perm _ perm fun _ _ _ => rfl

/-- Rearranged arguments agree, constructor by constructor. -/
structure IgnoresOrder (sha256 : Sha256) : Prop where
  requirement {a b : RequirementArguments} : a.Rearranged b → Agrees Eq a.construct b.construct
  metadata {a b : MetadataArguments} : a.Rearranged b → Agrees Eq a.construct b.construct
  lifecycleRequirement {a b : LifecycleRequirementArguments} :
    a.Rearranged b → Agrees Eq a.construct b.construct
  architecture {a b : ArchitectureArguments} : a.Rearranged b → Agrees Eq a.construct b.construct
  selectedProfile {a b : SelectedProfileArguments} :
    a.Rearranged b → Agrees Eq a.construct b.construct
  source {a b : SourceArguments} :
    a.Rearranged b → Agrees Eq (a.construct sha256) (b.construct sha256)
  receipt {a b : ReceiptArguments sha256} : a.Rearranged b → Agrees Eq a.construct b.construct

theorem RequirementArguments.construct_agrees {a b : RequirementArguments}
    (rearranged : a.Rearranged b) : Agrees Eq a.construct b.construct := by
  rcases a with ⟨package, origins⟩
  rcases b with ⟨_, others⟩
  obtain ⟨rfl, perm⟩ := rearranged
  exact .of_eq (PackageRequirement.make_perm perm)

theorem MetadataArguments.construct_agrees {a b : MetadataArguments}
    (rearranged : a.Rearranged b) : Agrees Eq a.construct b.construct := by
  rcases a with ⟨summary, description, homepage, licenses⟩
  rcases b with ⟨_, _, _, others⟩
  obtain ⟨rfl, rfl, rfl, perm⟩ := rearranged
  exact .of_eq (PackageMetadata.make_perm perm)

theorem LifecycleRequirementArguments.construct_agrees {a b : LifecycleRequirementArguments}
    (rearranged : a.Rearranged b) : Agrees Eq a.construct b.construct := by
  rcases a with ⟨action, requirement⟩
  rcases b with ⟨_, other⟩
  obtain ⟨rfl, nested⟩ := rearranged
  apply (RequirementArguments.construct_agrees nested).bind
  rintro constructed _ rfl
  exact .of_eq rfl

theorem ArchitectureArguments.construct_agrees {a b : ArchitectureArguments}
    (rearranged : a.Rearranged b) : Agrees Eq a.construct b.construct := by
  rcases a with ⟨build, target, selectedBuild, selectedTarget⟩
  rcases b with ⟨otherBuild, otherTarget, _, _⟩
  obtain ⟨buildPerm, targetPerm, rfl, rfl⟩ := rearranged
  exact .of_eq (ArchitectureBinding.make_perm buildPerm targetPerm)

theorem SelectedProfileArguments.construct_agrees {a b : SelectedProfileArguments}
    (rearranged : a.Rearranged b) : Agrees Eq a.construct b.construct := by
  rcases a with ⟨profile, identity, declarations⟩
  rcases b with ⟨_, _, others⟩
  obtain ⟨rfl, rfl, perm⟩ := rearranged
  exact .of_eq (SelectedProfile.make_perm perm)

theorem SourceArguments.construct_agrees (sha256 : Sha256) {a b : SourceArguments}
    (rearranged : a.Rearranged b) : Agrees Eq (a.construct sha256) (b.construct sha256) := by
  unfold SourceArguments.construct
  apply (MetadataArguments.construct_agrees rearranged.metadata).bind
  rintro metadata _ rfl
  apply (constructAll_agrees rearranged.runtimeRequirements
    RequirementArguments.construct_agrees).bind
  intro requirements otherRequirements requirementsPerm
  apply (constructAll_agrees rearranged.lifecycleRequirements
    LifecycleRequirementArguments.construct_agrees).bind
  intro lifecycle otherLifecycle lifecyclePerm
  apply (ArchitectureArguments.construct_agrees rearranged.architectures).bind
  rintro architectures _ rfl
  apply (constructAll_agrees rearranged.selectedProfiles
    SelectedProfileArguments.construct_agrees).bind
  intro profiles otherProfiles profilesPerm
  rw [rearranged.release, rearranged.snapshot]
  exact .of_eq (PackageSourceRecord.make_perm requirementsPerm rearranged.lifecyclePrograms
    lifecyclePerm profilesPerm)

theorem ReceiptArguments.construct_agrees {sha256 : Sha256} {a b : ReceiptArguments sha256}
    (rearranged : a.Rearranged b) : Agrees Eq a.construct b.construct := by
  unfold ReceiptArguments.construct
  apply (SourceArguments.construct_agrees sha256 rearranged.source).bind
  rintro source _ rfl
  have controls : Agrees Eq (InstalledControl.make source a.reason a.build)
      (InstalledControl.make source b.reason b.build) := by
    rw [rearranged.reason, rearranged.build]
    exact .of_eq rfl
  apply controls.bind
  rintro control _ rfl
  rw [rearranged.targetBinding, rearranged.operationPlan, rearranged.applicationEvidence,
    rearranged.transactionEvidence]
  exact .of_eq (InstallationReceipt.make_perm rearranged.manifest)

theorem ignoresOrder (sha256 : Sha256) : IgnoresOrder sha256 where
  requirement := RequirementArguments.construct_agrees
  metadata := MetadataArguments.construct_agrees
  lifecycleRequirement := LifecycleRequirementArguments.construct_agrees
  architecture := ArchitectureArguments.construct_agrees
  selectedProfile := SelectedProfileArguments.construct_agrees
  source := SourceArguments.construct_agrees sha256
  receipt := ReceiptArguments.construct_agrees

/-! ## Duplicates are refused exactly -/

/-- A list is refused for a shared key alone: the construction succeeds when the
`others` hold and the keys are distinct, and once the others hold, the refusal
`duplicate` says that two elements share a key. -/
structure RejectsExactly {α κ : Type} (outcome : Except Failure α) (others : Prop)
    (keys : List κ) (duplicate : Failure) : Prop where
  accepts : (∃ value, outcome = .ok value) ↔ others ∧ keys.Nodup
  rejects : others → (outcome = .error duplicate ↔ ¬ keys.Nodup)

theorem RejectsExactly.of_shared {α κ : Type} {outcome : Except Failure α} {others : Prop}
    {keys : List κ} {duplicate : Failure}
    (accepts : (∃ value, outcome = .ok value) ↔ others ∧ keys.Nodup)
    (shared : others → ¬ keys.Nodup → outcome = .error duplicate) :
    RejectsExactly outcome others keys duplicate where
  accepts := accepts
  rejects held := by
    refine ⟨fun refused distinct => ?_, shared held⟩
    obtain ⟨value, built⟩ := accepts.mpr ⟨held, distinct⟩
    rw [refused] at built
    cases built

theorem exists_checked_eq_ok {α : Type} {check : Except Failure Unit}
    {build : check = .ok () → α} :
    (∃ value, checked check build = .ok value) ↔ check = .ok () := by
  constructor
  · rintro ⟨value, built⟩
    exact (checked_eq_ok.mp built).1
  · intro passed
    exact ⟨_, checked_of_ok passed⟩

/-- Keys may be read through an injective image, such as the name of a reference. -/
theorem nodup_map_comp {α κ ν : Type} (key : α → κ) {name : κ → ν}
    (injective : Function.Injective name) (values : List α) :
    (values.map fun value => name (key value)).Nodup ↔ (values.map key).Nodup := by
  rw [← List.nodup_map_iff injective, List.map_map]
  rfl

/-- A refusal for another reason. -/
theorem RejectsExactly.refused {α κ : Type} {failure duplicate : Failure} {others : Prop}
    {keys : List κ} (fails : ¬ others) :
    RejectsExactly (.error failure : Except Failure α) others keys duplicate where
  accepts := ⟨nofun, fun both => absurd both.1 fails⟩
  rejects held := absurd held fails

/-- The same conditions may be spelled otherwise. -/
theorem RejectsExactly.congr {α κ ν : Type} {outcome : Except Failure α} {others spelled : Prop}
    {keys : List κ} {names : List ν} {duplicate : Failure}
    (rejects : RejectsExactly outcome others keys duplicate) (conditions : others ↔ spelled)
    (distinct : keys.Nodup ↔ names.Nodup) : RejectsExactly outcome spelled names duplicate where
  accepts := by
    rw [rejects.accepts, conditions, distinct]
  rejects held := by
    rw [rejects.rejects (conditions.mpr held), distinct]

section Stages

variable {α β κ ν : Type} [Less κ] [StrictTotal κ] [DecidableEq κ] {comp : α → α → Bool}
  {key : α → κ} (refines : Refines comp key) {values : StdVector α}
  {next : (sorted : SortedVector key) → sorted.toList.Perm values.toList → Except Failure β}
  {duplicate : Failure}

/-- A sort refuses its own list. -/
theorem RejectsExactly.sorted {later : Prop}
    (continues : ∀ sorted arranged, (∃ value, next sorted arranged = .ok value) ↔ later) :
    RejectsExactly (sortDistinct refines (fun _ => duplicate) values next) later
      (values.toList.map key) duplicate := by
  apply RejectsExactly.of_shared
  · exact sortDistinct_iff refines continues
  · intro _ shared
    obtain ⟨_, _, run⟩ := sortDistinct_of_shared refines shared
    exact run _ next

/-- A list that is sorted behind another one is refused once the keys of that one are
distinct. -/
theorem RejectsExactly.behind {others : Prop} {keys : List ν} {first : Failure}
    (each : ∀ sorted arranged, RejectsExactly (next sorted arranged) others keys duplicate) :
    RejectsExactly (sortDistinct refines (fun _ => first) values next)
      ((values.toList.map key).Nodup ∧ others) keys duplicate := by
  apply RejectsExactly.of_shared
  · rw [sortDistinct_iff refines fun sorted arranged => (each sorted arranged).accepts]
    exact ⟨fun ⟨⟨held, distinct⟩, before⟩ => ⟨⟨before, held⟩, distinct⟩,
      fun ⟨⟨before, held⟩, distinct⟩ => ⟨⟨held, distinct⟩, before⟩⟩
  · rintro ⟨before, held⟩ shared
    obtain ⟨sorted, arranged, run⟩ := sortDistinct_of_nodup refines before
    rw [run]
    exact ((each sorted arranged).rejects held).mpr shared

end Stages

/-- The refusal of `sort_unique`. -/
def duplicateNormalized (label : String) : Failure :=
  .stateError (ascii "duplicate normalized " ++ ascii label)

/-- `sort_unique` refuses its list. -/
theorem rejects_sortUnique {α β : Type} [Less α] [StrictTotal α] [DecidableEq α] {label : String}
    {values : StdVector α}
    {next : (sorted : SortedVector (id : α → α)) → sorted.toList.Perm values.toList →
      Except Failure β} {later : Prop}
    (continues : ∀ sorted arranged, (∃ value, next sorted arranged = .ok value) ↔ later) :
    RejectsExactly (sortUnique label values next) later values.toList
      (duplicateNormalized label) := by
  have whole : RejectsExactly (sortUnique label values next) later (values.toList.map id)
      (duplicateNormalized label) := .sorted (refines_less_key id) continues
  rwa [List.map_id] at whole

theorem PackageRequirement.rejects_origins (package : PackageReference)
    (origins : StdVector RequirementOrigin) :
    RejectsExactly (make package origins)
      (origins.toList ≠ [] ∧ validateExpansions package origins.toList = .ok ())
      origins.toList (duplicateNormalized "requirement origin") := by
  unfold make
  split
  · next empty => exact .refused fun held => held.1 empty
  · next filled =>
      rw [and_iff_right filled]
      apply rejects_sortUnique
      intro sorted arranged
      rw [exists_checked_eq_ok, validateExpansions_perm arranged]

theorem PackageMetadata.rejects_licenses (summary : StdString)
    (description homepage : Option StdString) (licenses : StdVector StdString) :
    RejectsExactly (make summary description homepage licenses)
      (validateMetadata summary description homepage licenses.toList = .ok ())
      licenses.toList (duplicateNormalized "package license") := by
  unfold make
  split
  · next failure failed =>
      rw [failed]
      exact .refused nofun
  · next passed =>
      apply rejects_sortUnique
      intro sorted arranged
      exact ⟨fun _ => passed, fun _ => ⟨_, rfl⟩⟩

theorem SelectedProfile.rejects_declarations (profile : ProfileReference)
    (identity : SourceProfileIdentity) (declarations : StdVector DeclarationProvenance) :
    RejectsExactly (make profile identity declarations) (declarations.toList ≠ [])
      declarations.toList (duplicateNormalized "selected-profile declaration") := by
  unfold make
  split
  · next empty => exact .refused fun filled => filled empty
  · next filled =>
      apply rejects_sortUnique
      intro sorted arranged
      exact ⟨fun _ => filled, fun _ => ⟨_, rfl⟩⟩

namespace ArchitectureBinding

/-- An empty declaration permits every architecture. -/
def Permits (declared : List ArchitectureReference) (selected : ArchitectureReference) : Prop :=
  declared = [] ∨ selected ∈ declared

theorem Permits.perm {declared arranged : List ArchitectureReference}
    {selected : ArchitectureReference} (perm : arranged.Perm declared) :
    Permits arranged selected ↔ Permits declared selected := by
  rw [Permits, Permits, eq_nil_iff_of_perm perm, perm.mem_iff]

theorem validateSelection_iff {build target : List ArchitectureReference}
    {selectedBuild selectedTarget : ArchitectureReference} (buildSorted : SortedBy id build)
    (targetSorted : SortedBy id target) :
    validateSelection build target selectedBuild selectedTarget = .ok () ↔
      Permits build selectedBuild ∧ Permits target selectedTarget := by
  have refused {declared : List ArchitectureReference} {selected : ArchitectureReference}
      (sorted : SortedBy id declared) :
      (!declared.isEmpty && !binarySearch selected declared) = true ↔
        ¬ Permits declared selected := by
    rw [Permits, not_or, Bool.and_eq_true, Bool.not_eq_true', Bool.not_eq_true',
      List.isEmpty_eq_false_iff, Bool.eq_false_iff, Ne, Ne, binarySearch_iff sorted]
  unfold validateSelection
  split
  · next here => exact ⟨nofun, fun both => absurd both.1 ((refused buildSorted).mp here)⟩
  · next buildPasses =>
      split
      · next here => exact ⟨nofun, fun both => absurd both.2 ((refused targetSorted).mp here)⟩
      · next targetPasses =>
          rw [refused buildSorted, not_not] at buildPasses
          rw [refused targetSorted, not_not] at targetPasses
          exact ⟨fun _ => ⟨buildPasses, targetPasses⟩, fun _ => rfl⟩

section Declared

variable (declaredBuild declaredTarget : StdVector ArchitectureReference)
  (selectedBuild selectedTarget : ArchitectureReference)

theorem rejects_declaredBuild :
    RejectsExactly (make declaredBuild declaredTarget selectedBuild selectedTarget)
      ((Permits declaredBuild.toList selectedBuild ∧
        Permits declaredTarget.toList selectedTarget) ∧ declaredTarget.toList.Nodup)
      declaredBuild.toList (duplicateNormalized "declared build architecture") := by
  apply rejects_sortUnique
  intro build buildArranged
  apply (rejects_sortUnique _).accepts
  intro target targetArranged
  rw [exists_checked_eq_ok, validateSelection_iff build.sorted target.sorted,
    Permits.perm buildArranged, Permits.perm targetArranged]

theorem rejects_declaredTarget :
    RejectsExactly (make declaredBuild declaredTarget selectedBuild selectedTarget)
      ((Permits declaredBuild.toList selectedBuild ∧
        Permits declaredTarget.toList selectedTarget) ∧ declaredBuild.toList.Nodup)
      declaredTarget.toList (duplicateNormalized "declared target architecture") := by
  have stages : RejectsExactly (make declaredBuild declaredTarget selectedBuild selectedTarget)
      ((declaredBuild.toList.map id).Nodup ∧ (Permits declaredBuild.toList selectedBuild ∧
        Permits declaredTarget.toList selectedTarget))
      declaredTarget.toList (duplicateNormalized "declared target architecture") := by
    unfold make sortUnique
    apply RejectsExactly.behind
    intro build buildArranged
    apply rejects_sortUnique
    intro target targetArranged
    rw [exists_checked_eq_ok, validateSelection_iff build.sorted target.sorted,
      Permits.perm buildArranged, Permits.perm targetArranged]
  rw [List.map_id] at stages
  exact stages.congr and_comm Iff.rfl

end Declared

end ArchitectureBinding

/-! ### The lists of a source record -/

/-- The names of the required packages. -/
def packageNames (values : List PackageRequirement) : List StdString :=
  values.map fun value => value.package.name

/-- The actions of lifecycle programs. -/
def programActions (values : List LifecycleProgram) : List LifecycleAction :=
  values.map LifecycleProgram.action

/-- The action and the package of each lifecycle requirement. -/
def actionPackages (values : List LifecycleRequirement) : List (LifecycleAction × StdString) :=
  values.map fun value => (value.action, value.requirement.package.name)

/-- The names of selected profiles. -/
def profileNames (values : List SelectedProfile) : List StdString :=
  values.map fun value => value.profile.name

/-- The paths of a manifest. -/
def manifestPaths (values : List OwnedEntry) : List StdString :=
  values.map fun value => value.path.string

theorem nodup_packageNames {values : List PackageRequirement} :
    (packageNames values).Nodup ↔ (values.map PackageRequirement.package).Nodup :=
  nodup_map_comp PackageRequirement.package (fun _ _ => CanonicalReference.name_inj) values

theorem nodup_actionPackages {values : List LifecycleRequirement} :
    (actionPackages values).Nodup ↔
      (values.map fun value => (value.action, value.requirement.package)).Nodup :=
  nodup_map_comp (fun value : LifecycleRequirement => (value.action, value.requirement.package))
    (Function.injective_id.prodMap fun _ _ => CanonicalReference.name_inj) values

theorem nodup_profileNames {values : List SelectedProfile} :
    (profileNames values).Nodup ↔ (values.map SelectedProfile.profile).Nodup :=
  nodup_map_comp SelectedProfile.profile (fun _ _ => CanonicalReference.name_inj) values

theorem nodup_manifestPaths {values : List OwnedEntry} :
    (manifestPaths values).Nodup ↔ (values.map OwnedEntry.path).Nodup :=
  nodup_map_comp OwnedEntry.path (fun _ _ => PackagePath.string_inj) values

namespace PackageSourceRecord

section Lists

variable (sha256 : Sha256) (release : PackageRelease) (metadata : PackageMetadata)
  (requirements : StdVector PackageRequirement) (programs : StdVector LifecycleProgram)
  (lifecycle : StdVector LifecycleRequirement) (architectures : ArchitectureBinding)
  (profiles : StdVector SelectedProfile) (snapshot : SourceSnapshotIdentity)

theorem rejects_runtimeRequirements :
    RejectsExactly
      (make sha256 release metadata requirements programs lifecycle architectures profiles
        snapshot)
      ((programActions programs.toList).Nodup ∧ (actionPackages lifecycle.toList).Nodup ∧
        (profileNames profiles.toList).Nodup)
      (packageNames requirements.toList)
      (.stateError (ascii "duplicate runtime requirement package")) := by
  apply RejectsExactly.congr
  · apply RejectsExactly.sorted
    intro _ _
    apply sortDistinct_iff
    intro _ _
    apply sortDistinct_iff
    intro _ _
    apply sortDistinct_iff
    intro _ _
    exact ⟨fun _ => trivial, fun _ => ⟨_, rfl⟩⟩
  · rw [nodup_actionPackages, nodup_profileNames, true_and]
    constructor
    · rintro ⟨⟨third, second⟩, first⟩
      exact ⟨first, second, third⟩
    · rintro ⟨first, second, third⟩
      exact ⟨⟨third, second⟩, first⟩
  · exact nodup_packageNames.symm

theorem rejects_lifecyclePrograms :
    RejectsExactly
      (make sha256 release metadata requirements programs lifecycle architectures profiles
        snapshot)
      ((packageNames requirements.toList).Nodup ∧ (actionPackages lifecycle.toList).Nodup ∧
        (profileNames profiles.toList).Nodup)
      (programActions programs.toList)
      (.stateError (ascii "duplicate lifecycle program action")) := by
  apply RejectsExactly.congr
  · apply RejectsExactly.behind
    intro _ _
    apply RejectsExactly.sorted
    intro _ _
    apply sortDistinct_iff
    intro _ _
    apply sortDistinct_iff
    intro _ _
    exact ⟨fun _ => trivial, fun _ => ⟨_, rfl⟩⟩
  · rw [nodup_packageNames, nodup_actionPackages, nodup_profileNames, true_and,
      and_comm (a := List.Nodup (profiles.toList.map _))]
  · exact Iff.rfl

theorem rejects_lifecycleRequirements :
    RejectsExactly
      (make sha256 release metadata requirements programs lifecycle architectures profiles
        snapshot)
      ((packageNames requirements.toList).Nodup ∧ (programActions programs.toList).Nodup ∧
        (profileNames profiles.toList).Nodup)
      (actionPackages lifecycle.toList)
      (.stateError (ascii "duplicate lifecycle requirement package for action")) := by
  apply RejectsExactly.congr
  · apply RejectsExactly.behind
    intro _ _
    apply RejectsExactly.behind
    intro _ _
    apply RejectsExactly.sorted
    intro _ _
    apply sortDistinct_iff
    intro _ _
    exact ⟨fun _ => trivial, fun _ => ⟨_, rfl⟩⟩
  · rw [nodup_packageNames, nodup_profileNames, true_and]
    rfl
  · exact nodup_actionPackages.symm

theorem rejects_selectedProfiles :
    RejectsExactly
      (make sha256 release metadata requirements programs lifecycle architectures profiles
        snapshot)
      ((packageNames requirements.toList).Nodup ∧ (programActions programs.toList).Nodup ∧
        (actionPackages lifecycle.toList).Nodup)
      (profileNames profiles.toList)
      (.stateError (ascii "duplicate selected profile")) := by
  apply RejectsExactly.congr
  · apply RejectsExactly.behind
    intro _ _
    apply RejectsExactly.behind
    intro _ _
    apply RejectsExactly.behind
    intro _ _
    apply RejectsExactly.sorted
    intro _ _
    exact ⟨fun _ => trivial, fun _ => ⟨_, rfl⟩⟩
  · rw [nodup_packageNames, nodup_actionPackages, and_true]
    rfl
  · exact nodup_profileNames.symm

end Lists

end PackageSourceRecord

theorem InstallationReceipt.rejects_manifest {sha256 : Sha256} (control : InstalledControl sha256)
    (targetBinding : StateTargetBinding sha256) (manifest : StdVector OwnedEntry)
    (operationPlan : OperationPlanIdentity) (applicationEvidence : ApplicationEvidenceIdentity)
    (transactionEvidence : Option TransactionEvidenceIdentity) :
    RejectsExactly
      (make control targetBinding manifest operationPlan applicationEvidence transactionEvidence)
      True (manifestPaths manifest.toList)
      (.stateError (ascii "duplicate path in installation receipt manifest")) := by
  apply RejectsExactly.congr
  · apply RejectsExactly.sorted
    intro _ _
    exact ⟨fun _ => trivial, fun _ => ⟨_, rfl⟩⟩
  · exact Iff.rfl
  · exact nodup_manifestPaths.symm

/-- Each of the ten lists is refused just for a shared key, whatever else the
constructor takes. -/
structure RejectsDuplicates (sha256 : Sha256) : Prop where
  origins (package : PackageReference) (origins : StdVector RequirementOrigin) :
    RejectsExactly (PackageRequirement.make package origins)
      (origins.toList ≠ [] ∧ validateExpansions package origins.toList = .ok ())
      origins.toList (duplicateNormalized "requirement origin")
  licenses (summary : StdString) (description homepage : Option StdString)
    (licenses : StdVector StdString) :
    RejectsExactly (PackageMetadata.make summary description homepage licenses)
      (validateMetadata summary description homepage licenses.toList = .ok ())
      licenses.toList (duplicateNormalized "package license")
  declarations (profile : ProfileReference) (identity : SourceProfileIdentity)
    (declarations : StdVector DeclarationProvenance) :
    RejectsExactly (SelectedProfile.make profile identity declarations)
      (declarations.toList ≠ []) declarations.toList
      (duplicateNormalized "selected-profile declaration")
  declaredBuild (build target : StdVector ArchitectureReference)
    (selectedBuild selectedTarget : ArchitectureReference) :
    RejectsExactly (ArchitectureBinding.make build target selectedBuild selectedTarget)
      ((ArchitectureBinding.Permits build.toList selectedBuild ∧
        ArchitectureBinding.Permits target.toList selectedTarget) ∧ target.toList.Nodup)
      build.toList (duplicateNormalized "declared build architecture")
  declaredTarget (build target : StdVector ArchitectureReference)
    (selectedBuild selectedTarget : ArchitectureReference) :
    RejectsExactly (ArchitectureBinding.make build target selectedBuild selectedTarget)
      ((ArchitectureBinding.Permits build.toList selectedBuild ∧
        ArchitectureBinding.Permits target.toList selectedTarget) ∧ build.toList.Nodup)
      target.toList (duplicateNormalized "declared target architecture")
  runtimeRequirements (release : PackageRelease) (metadata : PackageMetadata)
    (requirements : StdVector PackageRequirement) (programs : StdVector LifecycleProgram)
    (lifecycle : StdVector LifecycleRequirement) (architectures : ArchitectureBinding)
    (profiles : StdVector SelectedProfile) (snapshot : SourceSnapshotIdentity) :
    RejectsExactly
      (PackageSourceRecord.make sha256 release metadata requirements programs lifecycle
        architectures profiles snapshot)
      ((programActions programs.toList).Nodup ∧ (actionPackages lifecycle.toList).Nodup ∧
        (profileNames profiles.toList).Nodup)
      (packageNames requirements.toList)
      (.stateError (ascii "duplicate runtime requirement package"))
  lifecyclePrograms (release : PackageRelease) (metadata : PackageMetadata)
    (requirements : StdVector PackageRequirement) (programs : StdVector LifecycleProgram)
    (lifecycle : StdVector LifecycleRequirement) (architectures : ArchitectureBinding)
    (profiles : StdVector SelectedProfile) (snapshot : SourceSnapshotIdentity) :
    RejectsExactly
      (PackageSourceRecord.make sha256 release metadata requirements programs lifecycle
        architectures profiles snapshot)
      ((packageNames requirements.toList).Nodup ∧ (actionPackages lifecycle.toList).Nodup ∧
        (profileNames profiles.toList).Nodup)
      (programActions programs.toList)
      (.stateError (ascii "duplicate lifecycle program action"))
  lifecycleRequirements (release : PackageRelease) (metadata : PackageMetadata)
    (requirements : StdVector PackageRequirement) (programs : StdVector LifecycleProgram)
    (lifecycle : StdVector LifecycleRequirement) (architectures : ArchitectureBinding)
    (profiles : StdVector SelectedProfile) (snapshot : SourceSnapshotIdentity) :
    RejectsExactly
      (PackageSourceRecord.make sha256 release metadata requirements programs lifecycle
        architectures profiles snapshot)
      ((packageNames requirements.toList).Nodup ∧ (programActions programs.toList).Nodup ∧
        (profileNames profiles.toList).Nodup)
      (actionPackages lifecycle.toList)
      (.stateError (ascii "duplicate lifecycle requirement package for action"))
  selectedProfiles (release : PackageRelease) (metadata : PackageMetadata)
    (requirements : StdVector PackageRequirement) (programs : StdVector LifecycleProgram)
    (lifecycle : StdVector LifecycleRequirement) (architectures : ArchitectureBinding)
    (profiles : StdVector SelectedProfile) (snapshot : SourceSnapshotIdentity) :
    RejectsExactly
      (PackageSourceRecord.make sha256 release metadata requirements programs lifecycle
        architectures profiles snapshot)
      ((packageNames requirements.toList).Nodup ∧ (programActions programs.toList).Nodup ∧
        (actionPackages lifecycle.toList).Nodup)
      (profileNames profiles.toList)
      (.stateError (ascii "duplicate selected profile"))
  manifest (control : InstalledControl sha256) (targetBinding : StateTargetBinding sha256)
    (manifest : StdVector OwnedEntry) (operationPlan : OperationPlanIdentity)
    (applicationEvidence : ApplicationEvidenceIdentity)
    (transactionEvidence : Option TransactionEvidenceIdentity) :
    RejectsExactly
      (InstallationReceipt.make control targetBinding manifest operationPlan applicationEvidence
        transactionEvidence)
      True (manifestPaths manifest.toList)
      (.stateError (ascii "duplicate path in installation receipt manifest"))

/-! ## What is kept -/

theorem PackageRequirement.make_ok {package : PackageReference}
    {origins : StdVector RequirementOrigin} {value : PackageRequirement}
    (built : make package origins = .ok value) :
    value.package = package ∧ value.origins.toList.Perm origins.toList := by
  unfold make at built
  split at built
  · cases built
  · obtain ⟨sorted, arranged, built⟩ := sortDistinct_ok built
    obtain ⟨_, rfl⟩ := checked_eq_ok.mp built
    exact ⟨rfl, arranged⟩

theorem PackageMetadata.make_ok {summary : StdString} {description homepage : Option StdString}
    {licenses : StdVector StdString} {value : PackageMetadata}
    (built : make summary description homepage licenses = .ok value) :
    value.summary = summary ∧ value.description = description ∧ value.homepage = homepage ∧
      value.licenses.toList.Perm licenses.toList := by
  unfold make at built
  split at built
  · cases built
  · obtain ⟨sorted, arranged, built⟩ := sortDistinct_ok built
    cases built
    exact ⟨rfl, rfl, rfl, arranged⟩

theorem SelectedProfile.make_ok {profile : ProfileReference} {identity : SourceProfileIdentity}
    {declarations : StdVector DeclarationProvenance} {value : SelectedProfile}
    (built : make profile identity declarations = .ok value) :
    value.profile = profile ∧ value.identity = identity ∧
      value.declarations.toList.Perm declarations.toList := by
  unfold make at built
  split at built
  · cases built
  · obtain ⟨sorted, arranged, built⟩ := sortDistinct_ok built
    cases built
    exact ⟨rfl, rfl, arranged⟩

theorem ArchitectureBinding.make_ok {declaredBuild declaredTarget : StdVector ArchitectureReference}
    {selectedBuild selectedTarget : ArchitectureReference} {value : ArchitectureBinding}
    (built : make declaredBuild declaredTarget selectedBuild selectedTarget = .ok value) :
    value.declaredBuild.toList.Perm declaredBuild.toList ∧
      value.declaredTarget.toList.Perm declaredTarget.toList ∧
      value.selectedBuild = selectedBuild ∧ value.selectedTarget = selectedTarget := by
  unfold make sortUnique at built
  obtain ⟨build, buildArranged, built⟩ := sortDistinct_ok built
  obtain ⟨target, targetArranged, built⟩ := sortDistinct_ok built
  obtain ⟨_, rfl⟩ := checked_eq_ok.mp built
  exact ⟨buildArranged, targetArranged, rfl, rfl⟩

/-- A record holds what it was made of. -/
structure PackageSourceRecord.MadeOf {sha256 : Sha256} (value : PackageSourceRecord sha256)
    (release : PackageRelease) (metadata : PackageMetadata)
    (requirements : List PackageRequirement) (programs : List LifecycleProgram)
    (lifecycle : List LifecycleRequirement) (architectures : ArchitectureBinding)
    (profiles : List SelectedProfile) (snapshot : SourceSnapshotIdentity) : Prop where
  release : value.release = release
  metadata : value.metadata = metadata
  runtimeRequirements : value.runtimeRequirements.toList.Perm requirements
  lifecyclePrograms : value.lifecyclePrograms.toList.Perm programs
  lifecycleRequirements : value.lifecycleRequirements.toList.Perm lifecycle
  architectures : value.architectures = architectures
  selectedProfiles : value.selectedProfiles.toList.Perm profiles
  snapshot : value.snapshot = snapshot

theorem PackageSourceRecord.make_ok {sha256 : Sha256} {release : PackageRelease}
    {metadata : PackageMetadata} {requirements : StdVector PackageRequirement}
    {programs : StdVector LifecycleProgram} {lifecycle : StdVector LifecycleRequirement}
    {architectures : ArchitectureBinding} {profiles : StdVector SelectedProfile}
    {snapshot : SourceSnapshotIdentity} {value : PackageSourceRecord sha256}
    (built : make sha256 release metadata requirements programs lifecycle architectures profiles
      snapshot = .ok value) :
    value.MadeOf release metadata requirements.toList programs.toList lifecycle.toList
      architectures profiles.toList snapshot := by
  obtain ⟨_, requirementsArranged, built⟩ := sortDistinct_ok built
  obtain ⟨_, programsArranged, built⟩ := sortDistinct_ok built
  obtain ⟨_, lifecycleArranged, built⟩ := sortDistinct_ok built
  obtain ⟨_, profilesArranged, built⟩ := sortDistinct_ok built
  cases built
  exact ⟨rfl, rfl, requirementsArranged, programsArranged, lifecycleArranged, rfl,
    profilesArranged, rfl⟩

/-- Each constructor keeps its arguments: a list holds, in its order, just the elements
it was given. -/
structure KeepsElements (sha256 : Sha256) : Prop where
  requirement {package : PackageReference} {origins : StdVector RequirementOrigin}
    {value : PackageRequirement} : PackageRequirement.make package origins = .ok value →
      value.package = package ∧ value.origins.toList.Perm origins.toList
  metadata {summary : StdString} {description homepage : Option StdString}
    {licenses : StdVector StdString} {value : PackageMetadata} :
    PackageMetadata.make summary description homepage licenses = .ok value →
      value.summary = summary ∧ value.description = description ∧ value.homepage = homepage ∧
        value.licenses.toList.Perm licenses.toList
  selectedProfile {profile : ProfileReference} {identity : SourceProfileIdentity}
    {declarations : StdVector DeclarationProvenance} {value : SelectedProfile} :
    SelectedProfile.make profile identity declarations = .ok value →
      value.profile = profile ∧ value.identity = identity ∧
        value.declarations.toList.Perm declarations.toList
  architecture {build target : StdVector ArchitectureReference}
    {selectedBuild selectedTarget : ArchitectureReference} {value : ArchitectureBinding} :
    ArchitectureBinding.make build target selectedBuild selectedTarget = .ok value →
      value.declaredBuild.toList.Perm build.toList ∧
        value.declaredTarget.toList.Perm target.toList ∧
        value.selectedBuild = selectedBuild ∧ value.selectedTarget = selectedTarget
  source {release : PackageRelease} {metadata : PackageMetadata}
    {requirements : StdVector PackageRequirement} {programs : StdVector LifecycleProgram}
    {lifecycle : StdVector LifecycleRequirement} {architectures : ArchitectureBinding}
    {profiles : StdVector SelectedProfile} {snapshot : SourceSnapshotIdentity}
    {value : PackageSourceRecord sha256} :
    PackageSourceRecord.make sha256 release metadata requirements programs lifecycle
        architectures profiles snapshot = .ok value →
      value.MadeOf release metadata requirements.toList programs.toList lifecycle.toList
        architectures profiles.toList snapshot
  receipt {control : InstalledControl sha256} {targetBinding : StateTargetBinding sha256}
    {manifest : StdVector OwnedEntry} {operationPlan : OperationPlanIdentity}
    {applicationEvidence : ApplicationEvidenceIdentity}
    {transactionEvidence : Option TransactionEvidenceIdentity}
    {value : InstallationReceipt sha256} :
    InstallationReceipt.make control targetBinding manifest operationPlan applicationEvidence
        transactionEvidence = .ok value →
      value.control = control ∧ value.targetBinding = targetBinding ∧
        value.manifest.toList.Perm manifest.toList ∧ value.operationPlan = operationPlan ∧
        value.applicationEvidence = applicationEvidence ∧
        value.transactionEvidence = transactionEvidence

theorem keepsElements (sha256 : Sha256) : KeepsElements sha256 := by
  constructor
  · exact PackageRequirement.make_ok
  · exact PackageMetadata.make_ok
  · exact SelectedProfile.make_ok
  · exact ArchitectureBinding.make_ok
  · exact PackageSourceRecord.make_ok
  · intro control targetBinding manifest operationPlan applicationEvidence transactionEvidence
      value built
    obtain ⟨_, arranged, built⟩ := sortDistinct_ok built
    cases built
    exact ⟨rfl, rfl, arranged, rfl, rfl, rfl⟩

/-- Source records and receipts normalize every list they take: arguments rearranged
at any depth construct equal values or are refused both, a list is refused because of
its elements just when two of them share its key, and no element is lost, added or
altered. -/
theorem collections_normalized (sha256 : Sha256) :
    IgnoresOrder sha256 ∧ RejectsDuplicates sha256 ∧ KeepsElements sha256 := by
  refine ⟨ignoresOrder sha256, ?_, keepsElements sha256⟩
  constructor
  · exact PackageRequirement.rejects_origins
  · exact PackageMetadata.rejects_licenses
  · exact SelectedProfile.rejects_declarations
  · exact ArchitectureBinding.rejects_declaredBuild
  · exact ArchitectureBinding.rejects_declaredTarget
  · exact PackageSourceRecord.rejects_runtimeRequirements sha256
  · exact PackageSourceRecord.rejects_lifecyclePrograms sha256
  · exact PackageSourceRecord.rejects_lifecycleRequirements sha256
  · exact PackageSourceRecord.rejects_selectedProfiles sha256
  · exact InstallationReceipt.rejects_manifest

end Pkgstate
