import Pkgstate.CanonicalRecord
import Pkgstate.Model

/-!
# Package releases and source records

`package_release` and `package_source_record`. The record's identity and the
stored form of the record list the same fields in the same order and differ
only in how they write a digest, so the layout is one definition with the digest
writer as a parameter.
-/

namespace Pkgstate

open Wire Cpp Keyed

/-! ## Releases -/

/-- `valid_version`. -/
def validVersion (value : Bytes) : Bool :=
  !value.isEmpty && !value.contains 47 && value.all fun byte =>
    !(byte == 0 || byte == 10 || byte == 13 || byte < 0x20 || byte == 0x7f)

/-- `package_release`. -/
structure PackageRelease where
  identity : PackageReleaseIdentity
  package : PackageReference
  version : StdString
  release : UInt32
  valid : validVersion version.bytes = true ∧ release ≠ 0
deriving DecidableEq

namespace PackageRelease

/-- `name()`. -/
def name (release : PackageRelease) : StdString := release.package.name

/-- The constructor `package_release`. -/
def make (identity : PackageReleaseIdentity) (package : PackageReference) (version : StdString)
    (release : UInt32) : Except Failure PackageRelease :=
  if valid : validVersion version.bytes = true ∧ release ≠ 0 then
    .ok { identity, package, version, release, valid }
  else .error (.stateError (ascii "invalid package version or release"))

theorem make_self (value : PackageRelease) :
    make value.identity value.package value.version value.release = .ok value :=
  dif_pos value.valid

end PackageRelease

/-! ## Source records -/

/-- `lifecycle_program`s sort by their whole value and are refused by action. -/
theorem refines_lifecycleProgram_action :
    Refines (fun a b : LifecycleProgram => less a b) LifecycleProgram.action where
  asymm before := less_asymm before
  negTrans first second := not_less_trans first second
  refines before := less_prod.mpr (Or.inl before)

/-- What one source record states: the arguments of `identify`. -/
structure PackageSource where
  release : PackageRelease
  metadata : PackageMetadata
  runtimeRequirements : SortedVector PackageRequirement.package
  lifecyclePrograms : SortedVector LifecycleProgram.action
  lifecycleRequirements : SortedVector fun value : LifecycleRequirement =>
    (value.action, value.requirement.package)
  architectures : ArchitectureBinding
  selectedProfiles : SortedVector SelectedProfile.profile
  snapshot : SourceSnapshotIdentity
deriving DecidableEq

/-! ### Layout -/

/-- The fields of a provenance, as records and stored generations write them. -/
def provenanceFields (provenance : DeclarationProvenance) : Bytes :=
  stringBytes provenance.document.bytes ++ stringBytes provenance.path.bytes ++
    u32Bytes provenance.line ++ u32Bytes provenance.column

/-- The fields of one step of a profile expansion. -/
def stepFields (step : ProfileExpansionStep) : Bytes :=
  stringBytes step.profile.name.bytes ++ [toByte step.memberKind] ++
    stringBytes step.member.bytes ++ provenanceFields step.provenance

/-- The fields of one origin of a requirement. -/
def originFields (origin : RequirementOrigin) : Bytes :=
  provenanceFields origin.declaration ++ countedBytes stepFields origin.expansion.toList

/-- The fields of a requirement. -/
def requirementFields (requirement : PackageRequirement) : Bytes :=
  stringBytes requirement.package.name.bytes ++
    countedBytes originFields requirement.origins.toList

/-- The fields of a lifecycle program. -/
def lifecycleProgramFields (value : LifecycleProgram) : Bytes :=
  [toByte value.action] ++ [toByte value.value.language] ++
    stringBytes value.value.material.bytes

/-- The fields of a lifecycle requirement. -/
def lifecycleRequirementFields (value : LifecycleRequirement) : Bytes :=
  [toByte value.action] ++ requirementFields value.requirement

section Layout

variable (digest : {Tag : Type} → {domain : Tag} → TypedDigest domain → Bytes)

/-- The fields of a selected profile. -/
def selectedProfileFields (value : SelectedProfile) : Bytes :=
  stringBytes value.profile.name.bytes ++ digest value.identity ++
    countedBytes provenanceFields value.declarations.toList

/-- The fields of a release. -/
def releaseFields (release : PackageRelease) : Bytes :=
  digest release.identity ++ stringBytes release.name.bytes ++
    stringBytes release.version.bytes ++ u32Bytes release.release

/-- The fields of package metadata. -/
def metadataFields (metadata : PackageMetadata) : Bytes :=
  stringBytes metadata.summary.bytes ++
    optionalBytes (fun text : StdString => stringBytes text.bytes) metadata.description ++
    optionalBytes (fun text : StdString => stringBytes text.bytes) metadata.homepage ++
    countedBytes (fun license : StdString => stringBytes license.bytes) metadata.licenses.toList

/-- The fields of an architecture binding. -/
def architectureFields (architectures : ArchitectureBinding) : Bytes :=
  countedBytes (fun value : ArchitectureReference => stringBytes value.name.bytes)
      architectures.declaredBuild.toList ++
    countedBytes (fun value : ArchitectureReference => stringBytes value.name.bytes)
      architectures.declaredTarget.toList ++
    stringBytes architectures.selectedBuild.name.bytes ++
    stringBytes architectures.selectedTarget.name.bytes

/-- The fields of a source record, in order. -/
def sourceFields (source : PackageSource) : Bytes :=
  releaseFields digest source.release ++
    metadataFields source.metadata ++
    countedBytes requirementFields source.runtimeRequirements.toList ++
    countedBytes lifecycleProgramFields source.lifecyclePrograms.toList ++
    countedBytes lifecycleRequirementFields source.lifecycleRequirements.toList ++
    architectureFields source.architectures ++
    countedBytes (selectedProfileFields digest) source.selectedProfiles.toList ++
    digest source.snapshot

end Layout

/-! ### Records -/

/-- The canonical record of `identify`. -/
def PackageSource.record (source : PackageSource) : Bytes :=
  CanonicalRecord.header .packageSourceRecord ++ sourceFields CanonicalRecord.appendDigest source

/-- `package_source_record`. -/
structure PackageSourceRecord (sha256 : Sha256) extends PackageSource where
  identity : PackageSourceRecordIdentity
  identity_eq : identity = identifyRecord sha256 toPackageSource.record
deriving DecidableEq

namespace PackageSourceRecord

variable {sha256 : Sha256}

/-- A record is determined by what it states. -/
theorem toPackageSource_inj {a b : PackageSourceRecord sha256}
    (same : a.toPackageSource = b.toPackageSource) : a = b := by
  rcases a with ⟨a, _, aEq⟩
  rcases b with ⟨b, _, bEq⟩
  cases same
  cases aEq
  cases bEq
  rfl

/-- `package_source_record::make`. -/
def make (sha256 : Sha256) (release : PackageRelease) (metadata : PackageMetadata)
    (runtimeRequirements : StdVector PackageRequirement)
    (lifecyclePrograms : StdVector LifecycleProgram)
    (lifecycleRequirements : StdVector LifecycleRequirement)
    (architectures : ArchitectureBinding) (selectedProfiles : StdVector SelectedProfile)
    (snapshot : SourceSnapshotIdentity) : Except Failure (PackageSourceRecord sha256) :=
  sortDistinct (refines_less_key PackageRequirement.package)
    (fun _ => Failure.stateError (ascii "duplicate runtime requirement package"))
    runtimeRequirements fun runtimeRequirements _ =>
  sortDistinct refines_lifecycleProgram_action
    (fun _ => Failure.stateError (ascii "duplicate lifecycle program action"))
    lifecyclePrograms fun lifecyclePrograms _ =>
  sortDistinct (refines_less_key fun value : LifecycleRequirement =>
      (value.action, value.requirement.package))
    (fun _ => Failure.stateError
      (ascii "duplicate lifecycle requirement package for action"))
    lifecycleRequirements fun lifecycleRequirements _ =>
  sortDistinct (refines_less_key SelectedProfile.profile)
    (fun _ => Failure.stateError (ascii "duplicate selected profile"))
    selectedProfiles fun selectedProfiles _ =>
  .ok
    { release, metadata, runtimeRequirements, lifecyclePrograms, lifecycleRequirements,
      architectures, selectedProfiles, snapshot
      identity := _
      identity_eq := rfl }

/-- `lifecycle`: the program of an action, which a cast may have made of any byte. -/
def lifecycle (record : PackageSourceRecord sha256) (action : UInt8) : Option LifecycleProgram :=
  findKey (fun program : LifecycleProgram => toByte program.action) action
    record.lifecyclePrograms.toList

theorem make_self (value : PackageSourceRecord sha256) :
    make sha256 value.release value.metadata value.runtimeRequirements.toStdVector
      value.lifecyclePrograms.toStdVector value.lifecycleRequirements.toStdVector
      value.architectures value.selectedProfiles.toStdVector value.snapshot = .ok value := by
  rw [make, sortDistinct_sorted, sortDistinct_sorted, sortDistinct_sorted, sortDistinct_sorted]
  exact congrArg Except.ok (toPackageSource_inj rfl)

end PackageSourceRecord

/-! ## The layout determines the record -/

theorem selfDelimiting_name {kind : ReferenceKind} :
    SelfDelimiting fun value : CanonicalReference kind => stringBytes value.name.bytes :=
  SelfDelimiting.string.comap CanonicalReference.name_inj

theorem selfDelimiting_provenanceFields : SelfDelimiting provenanceFields := by
  refine ⟨fun {a b s t} same => ?_⟩
  simp only [provenanceFields, List.append_assoc] at same
  obtain ⟨document, same⟩ := SelfDelimiting.string.strip same
  obtain ⟨path, same⟩ := SelfDelimiting.string.strip same
  obtain ⟨line, same⟩ := SelfDelimiting.u32.strip same
  obtain ⟨column, same⟩ := SelfDelimiting.u32.strip same
  refine ⟨DeclarationProvenance.tie_inj ?_, same⟩
  simp only [DeclarationProvenance.tie, document, path, line, column]

theorem selfDelimiting_stepFields : SelfDelimiting stepFields := by
  refine ⟨fun {a b s t} same => ?_⟩
  simp only [stepFields, List.append_assoc] at same
  obtain ⟨profile, same⟩ := selfDelimiting_name.strip same
  obtain ⟨memberKind, same⟩ := SelfDelimiting.enumeration.strip same
  obtain ⟨member, same⟩ := SelfDelimiting.string.strip same
  obtain ⟨provenance, same⟩ := selfDelimiting_provenanceFields.strip same
  refine ⟨ProfileExpansionStep.tie_inj ?_, same⟩
  simp only [ProfileExpansionStep.tie, profile, memberKind, member, provenance]

theorem selfDelimiting_originFields : SelfDelimiting originFields := by
  refine ⟨fun {a b s t} same => ?_⟩
  simp only [originFields, List.append_assoc] at same
  obtain ⟨declaration, same⟩ := selfDelimiting_provenanceFields.strip same
  obtain ⟨expansion, same⟩ := selfDelimiting_stepFields.counted.strip same
  refine ⟨RequirementOrigin.tie_inj ?_, same⟩
  simp only [RequirementOrigin.tie, declaration, expansion]

/-- Sorted vectors are delimited by their count as well. -/
theorem selfDelimiting_sorted {α κ : Type} [Less κ] {key : α → κ} {encode : α → Bytes}
    (delimiting : SelfDelimiting encode) :
    SelfDelimiting fun values : SortedVector key => countedBytes encode values.toList := by
  refine ⟨fun {a b s t} same => ?_⟩
  obtain ⟨values, tails⟩ := delimiting.counted_list a.size_lt b.size_lt same
  exact ⟨SortedVector.toList_inj values, tails⟩

theorem selfDelimiting_requirementFields : SelfDelimiting requirementFields := by
  refine ⟨fun {a b s t} same => ?_⟩
  simp only [requirementFields, List.append_assoc] at same
  obtain ⟨package, same⟩ := selfDelimiting_name.strip same
  obtain ⟨origins, same⟩ := (selfDelimiting_sorted selfDelimiting_originFields).strip same
  refine ⟨?_, same⟩
  cases a
  cases b
  cases package
  cases origins
  rfl

theorem selfDelimiting_lifecycleProgramFields : SelfDelimiting lifecycleProgramFields := by
  refine ⟨fun {a b s t} same => ?_⟩
  simp only [lifecycleProgramFields, List.append_assoc] at same
  obtain ⟨action, same⟩ := SelfDelimiting.enumeration.strip same
  obtain ⟨language, same⟩ := SelfDelimiting.enumeration.strip same
  obtain ⟨material, same⟩ := SelfDelimiting.string.strip same
  have program : a.value = b.value :=
    Program.tie_inj (by simp only [Program.tie, language, material])
  exact ⟨LifecycleProgram.tie_inj (Prod.ext action program), same⟩

theorem selfDelimiting_lifecycleRequirementFields :
    SelfDelimiting lifecycleRequirementFields := by
  refine ⟨fun {a b s t} same => ?_⟩
  simp only [lifecycleRequirementFields, List.append_assoc] at same
  obtain ⟨action, same⟩ := SelfDelimiting.enumeration.strip same
  obtain ⟨requirement, same⟩ := selfDelimiting_requirementFields.strip same
  refine ⟨?_, same⟩
  cases a
  cases b
  cases action
  cases requirement
  rfl

theorem selfDelimiting_metadataFields : SelfDelimiting metadataFields := by
  refine ⟨fun {a b s t} same => ?_⟩
  simp only [metadataFields, List.append_assoc] at same
  obtain ⟨summary, same⟩ := SelfDelimiting.string.strip same
  obtain ⟨description, same⟩ := SelfDelimiting.string.optional.strip same
  obtain ⟨homepage, same⟩ := SelfDelimiting.string.optional.strip same
  obtain ⟨licenses, same⟩ := (selfDelimiting_sorted SelfDelimiting.string).strip same
  refine ⟨?_, same⟩
  cases a
  cases b
  cases summary
  cases description
  cases homepage
  cases licenses
  rfl

theorem selfDelimiting_architectureFields : SelfDelimiting architectureFields := by
  refine ⟨fun {a b s t} same => ?_⟩
  simp only [architectureFields, List.append_assoc] at same
  obtain ⟨declaredBuild, same⟩ := (selfDelimiting_sorted selfDelimiting_name).strip same
  obtain ⟨declaredTarget, same⟩ := (selfDelimiting_sorted selfDelimiting_name).strip same
  obtain ⟨selectedBuild, same⟩ := selfDelimiting_name.strip same
  obtain ⟨selectedTarget, same⟩ := selfDelimiting_name.strip same
  refine ⟨?_, same⟩
  cases a
  cases b
  cases declaredBuild
  cases declaredTarget
  cases selectedBuild
  cases selectedTarget
  rfl

section Digest

variable {digest : {Tag : Type} → {domain : Tag} → TypedDigest domain → Bytes}
  (delimiting : ∀ {Tag : Type} {domain : Tag},
    SelfDelimiting fun value : TypedDigest domain => digest value)

include delimiting

theorem selfDelimiting_selectedProfileFields : SelfDelimiting (selectedProfileFields digest) := by
  refine ⟨fun {a b s t} same => ?_⟩
  simp only [selectedProfileFields, List.append_assoc] at same
  obtain ⟨profile, same⟩ := selfDelimiting_name.strip same
  obtain ⟨identity, same⟩ := delimiting.strip same
  obtain ⟨declarations, same⟩ :=
    (selfDelimiting_sorted selfDelimiting_provenanceFields).strip same
  refine ⟨?_, same⟩
  cases a
  cases b
  cases profile
  cases identity
  cases declarations
  rfl

theorem selfDelimiting_releaseFields : SelfDelimiting (releaseFields digest) := by
  refine ⟨fun {a b s t} same => ?_⟩
  simp only [releaseFields, PackageRelease.name, List.append_assoc] at same
  obtain ⟨identity, same⟩ := delimiting.strip same
  obtain ⟨package, same⟩ := selfDelimiting_name.strip same
  obtain ⟨version, same⟩ := SelfDelimiting.string.strip same
  obtain ⟨release, same⟩ := SelfDelimiting.u32.strip same
  refine ⟨?_, same⟩
  cases a
  cases b
  cases identity
  cases package
  cases version
  cases release
  rfl

/-- A source record can be read off its fields in one way only. -/
theorem selfDelimiting_sourceFields : SelfDelimiting (sourceFields digest) := by
  refine ⟨fun {a b s t} same => ?_⟩
  simp only [sourceFields, List.append_assoc] at same
  obtain ⟨release, same⟩ := (selfDelimiting_releaseFields delimiting).strip same
  obtain ⟨metadata, same⟩ := selfDelimiting_metadataFields.strip same
  obtain ⟨runtimeRequirements, same⟩ :=
    (selfDelimiting_sorted selfDelimiting_requirementFields).strip same
  obtain ⟨lifecyclePrograms, same⟩ :=
    (selfDelimiting_sorted selfDelimiting_lifecycleProgramFields).strip same
  obtain ⟨lifecycleRequirements, same⟩ :=
    (selfDelimiting_sorted selfDelimiting_lifecycleRequirementFields).strip same
  obtain ⟨architectures, same⟩ := selfDelimiting_architectureFields.strip same
  obtain ⟨selectedProfiles, same⟩ :=
    (selfDelimiting_sorted (selfDelimiting_selectedProfileFields delimiting)).strip same
  obtain ⟨snapshot, same⟩ := delimiting.strip same
  refine ⟨?_, same⟩
  cases a
  cases b
  cases release
  cases metadata
  cases runtimeRequirements
  cases lifecyclePrograms
  cases lifecycleRequirements
  cases architectures
  cases selectedProfiles
  cases snapshot
  rfl

end Digest

/-- Different sources hash different records. -/
theorem PackageSource.record_inj {a b : PackageSource} (same : a.record = b.record) : a = b :=
  (selfDelimiting_sourceFields CanonicalRecord.selfDelimiting_appendDigest).injective
    (List.append_cancel_left same)

end Pkgstate
