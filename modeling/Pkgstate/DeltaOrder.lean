import Pkgstate.PublicationRequest
import Pkgstate.SortUnique

/-!
# The order of package-state deltas

`operator<` of `package_state_delta` compares the six parts that `operator==`
compares, but the proposed package is an `installed_package`, whose `operator<`
looks at the package reference only, and that the name of the delta has decided
before. The order is therefore a weak one: it puts deltas apart exactly where they
differ in another part (`trichotomy_iff_separated`), and two installations of
different builds of one package under one plan are neither equal nor ordered
(`install_unordered`).
-/

namespace Pkgstate

open Wire Cpp Keyed

variable {sha256 : Sha256}

/-! ## The comparisons of the parts -/

instance : Equal DigestValue :=
  ⟨fun a b => equal a.representationVersion b.representationVersion &&
    equal a.algorithm.toUInt16 b.algorithm.toUInt16 && equal a.bytes b.bytes⟩

instance : LawfulEqual DigestValue where
  equal_iff {a b} := by
    change (_ && _ && _) = true ↔ a = b
    rw [Bool.and_eq_true, Bool.and_eq_true, LawfulEqual.equal_iff, LawfulEqual.equal_iff,
      LawfulEqual.equal_iff]
    constructor
    · rintro ⟨_, bytes⟩
      exact DigestValue.bytes_inj bytes
    · rintro rfl
      exact ⟨⟨rfl, rfl⟩, rfl⟩

instance {Tag : Type} {domain : Tag} : Equal (TypedDigest domain) := .on TypedDigest.value
instance {Tag : Type} {domain : Tag} : LawfulEqual (TypedDigest domain) :=
  .on TypedDigest.value TypedDigest.value_inj

instance : Less PackageStateDeltaKind := .on toByte
instance : StrictTotal PackageStateDeltaKind := .on toByte ByteEnum.toByte_inj
instance : Equal PackageStateDeltaKind := .on toByte
instance : LawfulEqual PackageStateDeltaKind := .on toByte ByteEnum.toByte_inj

namespace InstallationReceipt

/-- `operator==`: the identity, and then part by part. The parts compare member by
member in their turn. -/
instance : Equal (InstallationReceipt sha256) :=
  ⟨fun a b => equal a.identity b.identity &&
    (decide (a.control = b.control) && decide (a.targetBinding = b.targetBinding) &&
      decide (a.manifest = b.manifest) && equal a.operationPlan b.operationPlan &&
      equal a.applicationEvidence b.applicationEvidence &&
      equal a.transactionEvidence b.transactionEvidence)⟩

instance : LawfulEqual (InstallationReceipt sha256) where
  equal_iff {a b} := by
    change (_ && (_ && _ && _ && _ && _ && _)) = true ↔ a = b
    simp only [Bool.and_eq_true, LawfulEqual.equal_iff, decide_eq_true_iff]
    constructor
    · rintro ⟨_, ⟨⟨⟨⟨control, targetBinding⟩, manifest⟩, plan⟩, evidence⟩, transaction⟩
      exact ext_fields control targetBinding manifest plan evidence transaction
    · rintro rfl
      exact ⟨rfl, ⟨⟨⟨⟨rfl, rfl⟩, rfl⟩, rfl⟩, rfl⟩, rfl⟩

end InstallationReceipt

namespace InstalledPackage

/-- `operator<`: "Order installed packages by canonical package reference." -/
instance : Less (InstalledPackage sha256) := .on fun package => package.release.package
instance : StrictWeak (InstalledPackage sha256) :=
  .on fun package : InstalledPackage sha256 => package.release.package

/-- `operator==`: identity and receipt. -/
instance : Equal (InstalledPackage sha256) :=
  ⟨fun a b => equal a.identity b.identity && equal a.receipt b.receipt⟩

instance : LawfulEqual (InstalledPackage sha256) where
  equal_iff {a b} := by
    change (_ && _) = true ↔ a = b
    rw [Bool.and_eq_true, LawfulEqual.equal_iff, LawfulEqual.equal_iff]
    constructor
    · rintro ⟨_, receipt⟩
      exact receipt_inj receipt
    · rintro rfl
      exact ⟨rfl, rfl⟩

/-- Packages tie when they have one name. -/
theorem tied_iff_name {a b : InstalledPackage sha256} : Tied a b ↔ a.name = b.name := by
  change Tied a.release.package b.release.package ↔ _
  rw [tied_iff]
  constructor
  · intro same
    exact congrArg CanonicalReference.name same
  · intro same
    exact CanonicalReference.name_inj same

end InstalledPackage

/-! ## The comparisons of deltas -/

namespace PackageStateDelta

/-- `std::tie` of `operator<`. -/
@[reducible] def tie (delta : PackageStateDelta sha256) :=
  (delta.packageName, delta.kind, delta.expectedPackage, delta.proposedPackage,
    delta.operationPlan, delta.applicationEvidence)

theorem tie_inj {a b : PackageStateDelta sha256} (same : a.tie = b.tie) : a = b := by
  cases a
  cases b
  cases same
  rfl

instance : Less (PackageStateDelta sha256) := .on tie
instance : StrictWeak (PackageStateDelta sha256) := .on tie

/-- `operator==`. -/
instance : Equal (PackageStateDelta sha256) :=
  ⟨fun a b => equal a.kind b.kind && equal a.packageName b.packageName &&
    equal a.expectedPackage b.expectedPackage && equal a.proposedPackage b.proposedPackage &&
    equal a.operationPlan b.operationPlan && equal a.applicationEvidence b.applicationEvidence⟩

instance : LawfulEqual (PackageStateDelta sha256) where
  equal_iff {a b} := by
    change (_ && _ && _ && _ && _ && _) = true ↔ a = b
    simp only [Bool.and_eq_true, LawfulEqual.equal_iff]
    constructor
    · rintro ⟨⟨⟨⟨⟨kind, name⟩, expected⟩, proposed⟩, plan⟩, evidence⟩
      apply tie_inj
      simp only [tie, kind, name, expected, proposed, plan, evidence]
    · rintro rfl
      exact ⟨⟨⟨⟨⟨rfl, rfl⟩, rfl⟩, rfl⟩, rfl⟩, rfl⟩

/-- Two deltas that agree in every part but the proposed package agree in that as
well. -/
def Separated (a b : PackageStateDelta sha256) : Prop :=
  a.packageName = b.packageName → a.kind = b.kind → a.expectedPackage = b.expectedPackage →
    a.operationPlan = b.operationPlan → a.applicationEvidence = b.applicationEvidence →
    a.proposedPackage = b.proposedPackage

/-- Removals propose nothing and the other deltas propose a package. -/
theorem isSome_proposedPackage (delta : PackageStateDelta sha256) :
    delta.proposedPackage.isSome = decide (delta.kind ≠ .remove) := by
  rcases delta.factory with ⟨_, kind, _, proposes, _⟩ | ⟨_, _, kind, _, proposes, _⟩ |
    ⟨_, kind, _, proposes, _⟩
  · rw [kind, proposes]
    rfl
  · rw [kind, proposes]
    rfl
  · rw [kind, proposes]
    rfl

/-- Under one name and one kind the proposed packages always tie. -/
theorem tied_proposedPackage {a b : PackageStateDelta sha256}
    (name : a.packageName = b.packageName) (kind : a.kind = b.kind) :
    Tied a.proposedPackage b.proposedPackage := by
  have present : a.proposedPackage.isSome = b.proposedPackage.isSome := by
    rw [isSome_proposedPackage, isSome_proposedPackage, kind]
  rw [tied_option]
  cases aProposes : a.proposedPackage with
  | none =>
      rw [aProposes] at present
      have absent := Option.isSome_eq_false_iff.mp present.symm
      exact Or.inl ⟨rfl, Option.isNone_iff_eq_none.mp absent⟩
  | some aPackage =>
      rw [aProposes] at present
      obtain ⟨bPackage, bProposes⟩ := Option.isSome_iff_exists.mp present.symm
      refine Or.inr ⟨aPackage, bPackage, rfl, bProposes, InstalledPackage.tied_iff_name.mpr ?_⟩
      rw [a.proposed_name aProposes, b.proposed_name bProposes, name]

/-- The order leaves the proposed package out: deltas tie when the other five parts
are equal. -/
theorem tied_iff_parts {a b : PackageStateDelta sha256} :
    Tied a b ↔ a.packageName = b.packageName ∧ a.kind = b.kind ∧
      a.expectedPackage = b.expectedPackage ∧ a.operationPlan = b.operationPlan ∧
      a.applicationEvidence = b.applicationEvidence := by
  change Tied a.tie b.tie ↔ _
  rw [tied_tuple, tied_tuple, tied_tuple, tied_tuple, tied_tuple]
  simp only [tied_iff]
  constructor
  · rintro ⟨name, kind, expected, _, plan, evidence⟩
    exact ⟨name, kind, expected, plan, evidence⟩
  · rintro ⟨name, kind, expected, plan, evidence⟩
    exact ⟨name, kind, expected, tied_proposedPackage name kind, plan, evidence⟩

theorem trichotomy_iff_separated {a b : PackageStateDelta sha256} :
    Trichotomy a b ↔ Separated a b := by
  rw [trichotomy_iff, tied_iff_parts]
  constructor
  · intro agree name kind expected plan evidence
    rw [agree ⟨name, kind, expected, plan, evidence⟩]
  · rintro separated ⟨name, kind, expected, plan, evidence⟩
    apply tie_inj
    simp only [tie, name, kind, expected, plan, evidence,
      separated name kind expected plan evidence]

/-- The order is transitive, and it agrees with equality on just the pairs of deltas
that another part than the proposed package tells apart. -/
theorem order_agrees (sha256 : Sha256) :
    (∀ a b : PackageStateDelta sha256, Trichotomy a b ↔ Separated a b) ∧
      ∀ a b c : PackageStateDelta sha256,
        less a b = true → less b c = true → less a c = true :=
  ⟨fun _ _ => trichotomy_iff_separated, fun _ _ _ => StrictWeak.trans⟩

/-- Two packages of one name, installed under one plan and one evidence, differ in
their manifests alone: their installations are different and neither precedes the
other. -/
theorem install_unordered :
    ∃ a b : PackageStateDelta Sha256.hash,
      install Fixture.package Fixture.package.receipt.operationPlan
        Fixture.package.receipt.applicationEvidence = .ok a ∧
      install Fixture.owningPackage Fixture.owningPackage.receipt.operationPlan
        Fixture.owningPackage.receipt.applicationEvidence = .ok b ∧
      equal a b = false ∧ less a b = false ∧ less b a = false ∧ ¬ Trichotomy a b := by
  have different : installing Fixture.package ≠ installing Fixture.owningPackage := by
    intro same
    have manifests := congrArg (fun delta : PackageStateDelta Sha256.hash =>
      delta.proposedPackage.map fun package => package.manifest.length) same
    exact absurd manifests (by decide)
  have tied : Tied (installing Fixture.package) (installing Fixture.owningPackage) :=
    tied_iff_parts.mpr ⟨rfl, rfl, rfl, rfl, rfl⟩
  refine ⟨installing Fixture.package, installing Fixture.owningPackage,
    checked_of_ok (by simp [validateReceiptEvidence]),
    checked_of_ok (by simp [validateReceiptEvidence]), ?_, tied.1, tied.2, ?_⟩
  · rw [Bool.eq_false_iff, Ne, LawfulEqual.equal_iff]
    exact different
  · intro exactly
    exact different (trichotomy_iff.mp exactly tied)

end PackageStateDelta

end Pkgstate
