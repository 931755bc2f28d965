import Pkgstate.PackageSourceRecord

/-!
# Installed control records

`installation_reason`, `build_provenance` and `installed_control`: why a package
is installed and which build produced it, bound to its source record.
-/

namespace Pkgstate

open Wire Cpp Keyed

/-! ## Installation reasons -/

/-- `installation_reason_kind`. -/
inductive InstallationReasonKind
  | explicitRequest
  | runtimeDependency
  | profileMembership
  | systemPolicy
deriving DecidableEq

instance : ByteEnum InstallationReasonKind where
  toByte
    | .explicitRequest => 1
    | .runtimeDependency => 2
    | .profileMembership => 3
    | .systemPolicy => 4
  ofByte
    | 1 => some .explicitRequest
    | 2 => some .runtimeDependency
    | 3 => some .profileMembership
    | 4 => some .systemPolicy
    | _ => none
  ofByte_toByte value := by cases value <;> rfl
  toByte_ofByte read := by split at read <;> cases read <;> rfl

/-- The shapes that `validate_reason` admits for each kind. -/
def reasonShape (kind : InstallationReasonKind) (package : Option PackageReference)
    (profile : Option ProfileReference) (profileIdentity : Option SourceProfileIdentity)
    (policy : Option StdString) : Bool :=
  match kind with
  | .explicitRequest =>
      package.isNone && profile.isNone && profileIdentity.isNone && policy.isNone
  | .runtimeDependency =>
      package.isSome && profile.isNone && profileIdentity.isNone && policy.isNone
  | .profileMembership =>
      package.isNone && profile.isSome && profileIdentity.isSome && policy.isNone
  | .systemPolicy =>
      package.isNone && profile.isNone && profileIdentity.isNone && policy.isSome &&
        policy.any fun text => lineSafe text.bytes

/-- `validate_reason`. -/
def validateReason (kind : InstallationReasonKind) (package : Option PackageReference)
    (profile : Option ProfileReference) (profileIdentity : Option SourceProfileIdentity)
    (policy : Option StdString) : Except Failure Unit :=
  if reasonShape kind package profile profileIdentity policy then .ok ()
  else .error (.stateError (ascii "invalid installation reason shape"))

theorem validateReason_ok {kind : InstallationReasonKind} {package : Option PackageReference}
    {profile : Option ProfileReference} {profileIdentity : Option SourceProfileIdentity}
    {policy : Option StdString}
    (valid : validateReason kind package profile profileIdentity policy = .ok ()) :
    reasonShape kind package profile profileIdentity policy = true := by
  unfold validateReason at valid
  split at valid
  · next fits => exact fits
  · cases valid

/-- `installation_reason`. -/
structure InstallationReason where
  kind : InstallationReasonKind
  issuerPackage : Option PackageReference
  issuerProfile : Option ProfileReference
  issuerProfileIdentity : Option SourceProfileIdentity
  policy : Option StdString
  valid : validateReason kind issuerPackage issuerProfile issuerProfileIdentity policy = .ok ()
deriving DecidableEq

namespace InstallationReason

/-- `installation_reason::explicit_request`. -/
def explicitRequest : InstallationReason where
  kind := .explicitRequest
  issuerPackage := none
  issuerProfile := none
  issuerProfileIdentity := none
  policy := none
  valid := rfl

/-- `installation_reason::runtime_dependency`. -/
def runtimeDependency (issuer : PackageReference) : InstallationReason where
  kind := .runtimeDependency
  issuerPackage := some issuer
  issuerProfile := none
  issuerProfileIdentity := none
  policy := none
  valid := rfl

/-- `installation_reason::profile_membership`. -/
def profileMembership (profile : ProfileReference) (identity : SourceProfileIdentity) :
    InstallationReason where
  kind := .profileMembership
  issuerPackage := none
  issuerProfile := some profile
  issuerProfileIdentity := some identity
  policy := none
  valid := rfl

/-- `installation_reason::system_policy`. -/
def systemPolicy (policy : StdString) : Except Failure InstallationReason :=
  checked (validateReason .systemPolicy none none none (some policy)) fun valid =>
    { kind := .systemPolicy
      issuerPackage := none
      issuerProfile := none
      issuerProfileIdentity := none
      policy := some policy
      valid }

/-- The four factories are the only shapes a reason has. -/
theorem shape (reason : InstallationReason) :
    reason = explicitRequest ∨
      (∃ issuer, reason = runtimeDependency issuer) ∨
      (∃ profile identity, reason = profileMembership profile identity) ∨
      (∃ policy, systemPolicy policy = .ok reason ∧
        reason.kind = .systemPolicy ∧ reason.issuerPackage = none ∧
        reason.issuerProfile = none ∧ reason.policy = some policy) := by
  rcases reason with ⟨kind, package, profile, identity, policy, valid⟩
  have fits := validateReason_ok valid
  cases kind with
  | explicitRequest =>
      simp only [reasonShape, Bool.and_eq_true, Option.isNone_iff_eq_none] at fits
      rcases fits with ⟨⟨⟨rfl, rfl⟩, rfl⟩, rfl⟩
      exact Or.inl rfl
  | runtimeDependency =>
      simp only [reasonShape, Bool.and_eq_true, Option.isNone_iff_eq_none,
        Option.isSome_iff_exists] at fits
      rcases fits with ⟨⟨⟨⟨issuer, rfl⟩, rfl⟩, rfl⟩, rfl⟩
      exact Or.inr (Or.inl ⟨issuer, rfl⟩)
  | profileMembership =>
      simp only [reasonShape, Bool.and_eq_true, Option.isNone_iff_eq_none,
        Option.isSome_iff_exists] at fits
      rcases fits with ⟨⟨⟨rfl, ⟨profile, rfl⟩⟩, ⟨identity, rfl⟩⟩, rfl⟩
      exact Or.inr (Or.inr (Or.inl ⟨profile, identity, rfl⟩))
  | systemPolicy =>
      simp only [reasonShape, Bool.and_eq_true, Option.isNone_iff_eq_none,
        Option.isSome_iff_exists] at fits
      rcases fits with ⟨⟨⟨⟨rfl, rfl⟩, rfl⟩, ⟨policy, rfl⟩⟩, _⟩
      exact Or.inr (Or.inr (Or.inr ⟨policy, checked_of_ok valid, rfl, rfl, rfl, rfl⟩))

end InstallationReason

/-! ## Build provenance -/

/-- `build_provenance`. -/
structure BuildProvenance where
  sourceRecord : PackageSourceRecordIdentity
  request : BuildRequestIdentity
  buildInputs : BuildInputSetIdentity
  environmentPolicy : EnvironmentPolicyIdentity
  buildPolicy : BuildPolicyIdentity
  buildResult : BuildResultIdentity
  payloadManifest : PayloadManifestIdentity
  artifact : BuildArtifactIdentity
  artifactContent : ArtifactContentIdentity
  artifactBinding : ArtifactBindingIdentity
  executionEvidence : ExecutionEvidenceIdentity
  buildImage : BuildImageIdentity
  artifactImage : ArtifactImageIdentity
  artifactInspection : ArtifactInspectionIdentity
deriving DecidableEq

/-! ## Layout -/

section Layout

variable (digest : {Tag : Type} → {domain : Tag} → TypedDigest domain → Bytes)

/-- The issuing profile and its identity, written together. -/
def issuerProfileFields (issuer : ProfileReference × SourceProfileIdentity) : Bytes :=
  stringBytes issuer.1.name.bytes ++ digest issuer.2

/-- The issuing profile of a reason; its constructor admits the identity with
the profile only. -/
def InstallationReason.issuer (reason : InstallationReason) :
    Option (ProfileReference × SourceProfileIdentity) :=
  match reason.issuerProfile, reason.issuerProfileIdentity with
  | some profile, some identity => some (profile, identity)
  | _, _ => none

/-- The fields of an installation reason. -/
def reasonFields (reason : InstallationReason) : Bytes :=
  [toByte reason.kind] ++
    optionalBytes (fun value : PackageReference => stringBytes value.name.bytes)
      reason.issuerPackage ++
    optionalBytes (issuerProfileFields digest) reason.issuer ++
    optionalBytes (fun text : StdString => stringBytes text.bytes) reason.policy

/-- The fields of a build provenance. -/
def buildFields (build : BuildProvenance) : Bytes :=
  digest build.sourceRecord ++ digest build.request ++ digest build.buildInputs ++
    digest build.environmentPolicy ++ digest build.buildPolicy ++ digest build.buildResult ++
    digest build.payloadManifest ++ digest build.artifact ++ digest build.artifactContent ++
    digest build.artifactBinding ++ digest build.executionEvidence ++ digest build.buildImage ++
    digest build.artifactImage ++ digest build.artifactInspection

end Layout

/-- A profile and its identity come together, so a reason has an issuer exactly
when it has an issuing profile. -/
theorem InstallationReason.profile_isSome (reason : InstallationReason) :
    reason.issuerProfile.isSome = reason.issuerProfileIdentity.isSome := by
  have fits := validateReason_ok reason.valid
  cases kind : reason.kind <;>
    simp only [kind, reasonShape, Bool.and_eq_true, Option.isNone_iff_eq_none] at fits <;>
    simp [fits]

/-- The issuer holds both halves of what the reason retains. -/
theorem InstallationReason.issuer_halves (reason : InstallationReason) :
    reason.issuerProfile = reason.issuer.map Prod.fst ∧
      reason.issuerProfileIdentity = reason.issuer.map Prod.snd := by
  have together := reason.profile_isSome
  unfold InstallationReason.issuer
  cases profile : reason.issuerProfile with
  | none =>
      rw [profile] at together
      exact ⟨rfl, Option.not_isSome_iff_eq_none.mp (by rw [← together]; exact Bool.false_ne_true)⟩
  | some profile' =>
      rw [profile] at together
      obtain ⟨identity', identity⟩ := Option.isSome_iff_exists.mp together.symm
      rw [identity]
      exact ⟨rfl, rfl⟩

theorem InstallationReason.ext_issuer {a b : InstallationReason} (kind : a.kind = b.kind)
    (package : a.issuerPackage = b.issuerPackage) (issuer : a.issuer = b.issuer)
    (policy : a.policy = b.policy) : a = b := by
  have profile : a.issuerProfile = b.issuerProfile := by
    rw [a.issuer_halves.1, issuer, b.issuer_halves.1]
  have identity : a.issuerProfileIdentity = b.issuerProfileIdentity := by
    rw [a.issuer_halves.2, issuer, b.issuer_halves.2]
  cases a
  cases b
  cases kind
  cases package
  cases profile
  cases identity
  cases policy
  rfl

section Digest

variable {digest : {Tag : Type} → {domain : Tag} → TypedDigest domain → Bytes}
  (delimiting : ∀ {Tag : Type} {domain : Tag},
    SelfDelimiting fun value : TypedDigest domain => digest value)

include delimiting

theorem selfDelimiting_issuerProfileFields : SelfDelimiting (issuerProfileFields digest) := by
  refine ⟨fun {a b s t} same => ?_⟩
  simp only [issuerProfileFields, List.append_assoc] at same
  obtain ⟨profile, same⟩ := selfDelimiting_name.strip same
  obtain ⟨identity, same⟩ := delimiting.strip same
  exact ⟨Prod.ext profile identity, same⟩

theorem selfDelimiting_reasonFields : SelfDelimiting (reasonFields digest) := by
  refine ⟨fun {a b s t} same => ?_⟩
  simp only [reasonFields, List.append_assoc] at same
  obtain ⟨kind, same⟩ := SelfDelimiting.enumeration.strip same
  obtain ⟨package, same⟩ := selfDelimiting_name.optional.strip same
  obtain ⟨issuer, same⟩ := (selfDelimiting_issuerProfileFields delimiting).optional.strip same
  obtain ⟨policy, same⟩ := SelfDelimiting.string.optional.strip same
  exact ⟨InstallationReason.ext_issuer kind package issuer policy, same⟩

theorem selfDelimiting_buildFields : SelfDelimiting (buildFields digest) := by
  refine ⟨fun {a b s t} same => ?_⟩
  simp only [buildFields, List.append_assoc] at same
  obtain ⟨sourceRecord, same⟩ := delimiting.strip same
  obtain ⟨request, same⟩ := delimiting.strip same
  obtain ⟨buildInputs, same⟩ := delimiting.strip same
  obtain ⟨environmentPolicy, same⟩ := delimiting.strip same
  obtain ⟨buildPolicy, same⟩ := delimiting.strip same
  obtain ⟨buildResult, same⟩ := delimiting.strip same
  obtain ⟨payloadManifest, same⟩ := delimiting.strip same
  obtain ⟨artifact, same⟩ := delimiting.strip same
  obtain ⟨artifactContent, same⟩ := delimiting.strip same
  obtain ⟨artifactBinding, same⟩ := delimiting.strip same
  obtain ⟨executionEvidence, same⟩ := delimiting.strip same
  obtain ⟨buildImage, same⟩ := delimiting.strip same
  obtain ⟨artifactImage, same⟩ := delimiting.strip same
  obtain ⟨artifactInspection, same⟩ := delimiting.strip same
  refine ⟨?_, same⟩
  cases a
  cases b
  cases sourceRecord
  cases request
  cases buildInputs
  cases environmentPolicy
  cases buildPolicy
  cases buildResult
  cases payloadManifest
  cases artifact
  cases artifactContent
  cases artifactBinding
  cases executionEvidence
  cases buildImage
  cases artifactImage
  cases artifactInspection
  rfl

end Digest
/-! ## Control records -/

/-- The canonical record of `identify`. -/
def installedControlRecord {sha256 : Sha256} (source : PackageSourceRecord sha256)
    (reason : InstallationReason) (build : BuildProvenance) : Bytes :=
  CanonicalRecord.header .installedControl ++ CanonicalRecord.appendDigest source.identity ++
    reasonFields CanonicalRecord.appendDigest reason ++
    buildFields CanonicalRecord.appendDigest build

/-- `installed_control`. -/
structure InstalledControl (sha256 : Sha256) where
  source : PackageSourceRecord sha256
  reason : InstallationReason
  build : BuildProvenance
  bound : build.sourceRecord = source.identity
  identity : InstalledControlIdentity
  identity_eq : identity = identifyRecord sha256 (installedControlRecord source reason build)
deriving DecidableEq

namespace InstalledControl

variable {sha256 : Sha256}

theorem ext_fields {a b : InstalledControl sha256} (source : a.source = b.source)
    (reason : a.reason = b.reason) (build : a.build = b.build) : a = b := by
  rcases a with ⟨_, _, _, _, _, aEq⟩
  rcases b with ⟨_, _, _, _, _, bEq⟩
  cases source
  cases reason
  cases build
  cases aEq
  cases bEq
  rfl

/-- `installed_control::make`. -/
def make (source : PackageSourceRecord sha256) (reason : InstallationReason)
    (build : BuildProvenance) : Except Failure (InstalledControl sha256) :=
  if bound : build.sourceRecord = source.identity then
    .ok { source, reason, build, bound
          identity := _
          identity_eq := rfl }
  else .error (.stateError
    (ascii "build provenance does not bind the package source record"))

theorem make_self (value : InstalledControl sha256) :
    make value.source value.reason value.build = .ok value :=
  (dif_pos value.bound).trans (congrArg Except.ok (ext_fields rfl rfl rfl))

/-- The canonical record the control's identity hashes. -/
def record (control : InstalledControl sha256) : Bytes :=
  installedControlRecord control.source control.reason control.build

/-- Equal control records state the same source identity, reason and build. -/
theorem record_inj {a b : InstalledControl sha256} (same : a.record = b.record) :
    a.source.identity = b.source.identity ∧ a.reason = b.reason ∧ a.build = b.build := by
  have ended : a.record ++ [] = b.record ++ [] := by rw [same]
  simp only [record, installedControlRecord, List.append_assoc, List.append_cancel_left_eq]
    at ended
  obtain ⟨source, ended⟩ := CanonicalRecord.selfDelimiting_appendDigest.strip ended
  obtain ⟨reason, ended⟩ :=
    (selfDelimiting_reasonFields CanonicalRecord.selfDelimiting_appendDigest).strip ended
  obtain ⟨build, _⟩ :=
    (selfDelimiting_buildFields CanonicalRecord.selfDelimiting_appendDigest).strip ended
  exact ⟨source, reason, build⟩

end InstalledControl

end Pkgstate
