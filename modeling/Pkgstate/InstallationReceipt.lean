import Pkgstate.InstalledControl
import Pkgstate.OwnedEntry
import Pkgstate.StateTargetBinding

/-!
# Installation receipts and installed packages

`installation_receipt` binds a control record, a target and a manifest sorted by
path; `installed_package` is a receipt under an identity of its own.
-/

namespace Pkgstate

open Wire Cpp Keyed

/-- `installation_receipt_schema_version`. -/
def installationReceiptSchemaVersion : UInt16 := 1

/-! ## Receipts -/

/-- The canonical record of `identify`. -/
def installationReceiptRecord {sha256 : Sha256} (control : InstalledControl sha256)
    (targetBinding : StateTargetBinding sha256) (manifest : List OwnedEntry)
    (operationPlan : OperationPlanIdentity) (applicationEvidence : ApplicationEvidenceIdentity)
    (transactionEvidence : Option TransactionEvidenceIdentity) : Bytes :=
  CanonicalRecord.header .installationReceipt ++
    u16Bytes installationReceiptSchemaVersion ++
    CanonicalRecord.appendDigest control.identity ++
    CanonicalRecord.appendDigest targetBinding.identity ++
    countedBytes (entryFields CanonicalRecord.appendDigest) manifest ++
    CanonicalRecord.appendDigest operationPlan ++
    CanonicalRecord.appendDigest applicationEvidence ++
    optionalBytes (fun value : TransactionEvidenceIdentity => CanonicalRecord.appendDigest value)
      transactionEvidence

/-- `installation_receipt`. -/
structure InstallationReceipt (sha256 : Sha256) where
  control : InstalledControl sha256
  targetBinding : StateTargetBinding sha256
  manifest : SortedVector OwnedEntry.path
  operationPlan : OperationPlanIdentity
  applicationEvidence : ApplicationEvidenceIdentity
  transactionEvidence : Option TransactionEvidenceIdentity
  identity : InstallationReceiptIdentity
  identity_eq : identity = identifyRecord sha256 (installationReceiptRecord control targetBinding
    manifest.toList operationPlan applicationEvidence transactionEvidence)
deriving DecidableEq

namespace InstallationReceipt

variable {sha256 : Sha256}

theorem ext_fields {a b : InstallationReceipt sha256} (control : a.control = b.control)
    (targetBinding : a.targetBinding = b.targetBinding) (manifest : a.manifest = b.manifest)
    (operationPlan : a.operationPlan = b.operationPlan)
    (applicationEvidence : a.applicationEvidence = b.applicationEvidence)
    (transactionEvidence : a.transactionEvidence = b.transactionEvidence) : a = b := by
  rcases a with ⟨_, _, _, _, _, _, _, aEq⟩
  rcases b with ⟨_, _, _, _, _, _, _, bEq⟩
  cases control
  cases targetBinding
  cases manifest
  cases operationPlan
  cases applicationEvidence
  cases transactionEvidence
  cases aEq
  cases bEq
  rfl

/-- `release()`. -/
def release (receipt : InstallationReceipt sha256) : PackageRelease :=
  receipt.control.source.release

/-- `installation_receipt::make`. -/
def make (control : InstalledControl sha256) (targetBinding : StateTargetBinding sha256)
    (manifest : StdVector OwnedEntry) (operationPlan : OperationPlanIdentity)
    (applicationEvidence : ApplicationEvidenceIdentity)
    (transactionEvidence : Option TransactionEvidenceIdentity) :
    Except Failure (InstallationReceipt sha256) :=
  sortDistinct (refines_less_key OwnedEntry.path)
    (fun _ => Failure.stateError (ascii "duplicate path in installation receipt manifest"))
    manifest fun manifest _ =>
  .ok { control, targetBinding, manifest, operationPlan, applicationEvidence,
        transactionEvidence
        identity := _
        identity_eq := rfl }

theorem make_self (value : InstallationReceipt sha256) :
    make value.control value.targetBinding value.manifest.toStdVector value.operationPlan
      value.applicationEvidence value.transactionEvidence = .ok value := by
  rw [make, sortDistinct_sorted]
  exact congrArg Except.ok (ext_fields rfl rfl rfl rfl rfl rfl)

/-- The canonical record the receipt's identity hashes. -/
def record (receipt : InstallationReceipt sha256) : Bytes :=
  installationReceiptRecord receipt.control receipt.targetBinding receipt.manifest.toList
    receipt.operationPlan receipt.applicationEvidence receipt.transactionEvidence

/-- Equal receipt records state the same control, target, manifest and
evidence. -/
theorem record_inj {a b : InstallationReceipt sha256} (same : a.record = b.record) :
    a.control.identity = b.control.identity ∧
      a.targetBinding.identity = b.targetBinding.identity ∧ a.manifest = b.manifest ∧
      a.operationPlan = b.operationPlan ∧ a.applicationEvidence = b.applicationEvidence ∧
      a.transactionEvidence = b.transactionEvidence := by
  have ended : a.record ++ [] = b.record ++ [] := by rw [same]
  simp only [record, installationReceiptRecord, List.append_assoc, List.append_cancel_left_eq]
    at ended
  have digest := @CanonicalRecord.selfDelimiting_appendDigest
  obtain ⟨control, ended⟩ := digest.strip ended
  obtain ⟨targetBinding, ended⟩ := digest.strip ended
  obtain ⟨manifest, ended⟩ :=
    (selfDelimiting_sorted (selfDelimiting_entryFields digest)).strip ended
  obtain ⟨operationPlan, ended⟩ := digest.strip ended
  obtain ⟨applicationEvidence, ended⟩ := digest.strip ended
  obtain ⟨transactionEvidence, _⟩ := digest.optional.strip ended
  exact ⟨control, targetBinding, manifest, operationPlan, applicationEvidence,
    transactionEvidence⟩

end InstallationReceipt

/-! ## Packages -/

/-- The canonical record of `installed_package::make`. -/
def installedPackageRecord {sha256 : Sha256} (receipt : InstallationReceipt sha256) : Bytes :=
  CanonicalRecord.header .installedPackage ++ CanonicalRecord.appendDigest receipt.identity

/-- `installed_package`. -/
structure InstalledPackage (sha256 : Sha256) where
  receipt : InstallationReceipt sha256
  identity : InstalledPackageIdentity
  identity_eq : identity = identifyRecord sha256 (installedPackageRecord receipt)
deriving DecidableEq

namespace InstalledPackage

variable {sha256 : Sha256}

theorem receipt_inj {a b : InstalledPackage sha256} (same : a.receipt = b.receipt) : a = b := by
  rcases a with ⟨_, _, aEq⟩
  rcases b with ⟨_, _, bEq⟩
  cases same
  cases aEq
  cases bEq
  rfl

/-- `installed_package::make`. -/
def make (receipt : InstallationReceipt sha256) : InstalledPackage sha256 :=
  { receipt
    identity := _
    identity_eq := rfl }

theorem make_self (value : InstalledPackage sha256) : make value.receipt = value :=
  receipt_inj rfl

/-- `release()`. -/
def release (package : InstalledPackage sha256) : PackageRelease := package.receipt.release

/-- `release().name()`. -/
def name (package : InstalledPackage sha256) : StdString := package.release.name

/-- `target_binding()`. -/
def targetBinding (package : InstalledPackage sha256) : StateTargetBinding sha256 :=
  package.receipt.targetBinding

/-- `manifest()`. -/
def manifest (package : InstalledPackage sha256) : List OwnedEntry :=
  package.receipt.manifest.toList

/-- `find`. -/
def find (package : InstalledPackage sha256) (path : PackagePath) : Option OwnedEntry :=
  findKey OwnedEntry.path path package.manifest

/-- `owns`. -/
def owns (package : InstalledPackage sha256) (path : PackagePath) : Bool :=
  (package.find path).isSome

/-- The search in the manifest finds whatever path an entry has. -/
theorem owns_iff {package : InstalledPackage sha256} {path : PackagePath} :
    package.owns path = true ↔ ∃ entry ∈ package.manifest, entry.path = path := by
  rw [owns, Option.isSome_iff_exists]
  exact exists_congr fun entry => findKey_eq_some package.receipt.manifest.sorted

/-- The records hashed while building a package, innermost first. -/
def records (package : InstalledPackage sha256) : List Bytes :=
  [package.receipt.targetBinding.toTargetAuthorities.record,
    package.receipt.control.source.toPackageSource.record,
    package.receipt.control.record,
    package.receipt.record,
    installedPackageRecord package.receipt]

/-- The chain of hashed records: unless two of them collide, packages of one
identity are equal in every field. -/
theorem eq_of_identity_eq {records : List Bytes} (free : CollisionFree sha256 records)
    {a b : InstalledPackage sha256} (aHashed : a.records ⊆ records)
    (bHashed : b.records ⊆ records) (same : a.identity = b.identity) : a = b := by
  simp only [InstalledPackage.records, List.cons_subset, List.nil_subset, and_true]
    at aHashed bHashed
  rcases aHashed with ⟨aTarget, aSource, aControl, aReceipt, aPackage⟩
  rcases bHashed with ⟨bTarget, bSource, bControl, bReceipt, bPackage⟩
  rw [a.identity_eq, b.identity_eq] at same
  have receipts := CanonicalRecord.selfDelimiting_appendDigest.injective
    (List.append_cancel_left (free.record_eq aPackage bPackage same))
  rw [a.receipt.identity_eq, b.receipt.identity_eq] at receipts
  obtain ⟨control, target, manifest, plan, application, transaction⟩ :=
    InstallationReceipt.record_inj (free.record_eq aReceipt bReceipt receipts)
  have targets := StateTargetBinding.eq_of_identity_eq free aTarget bTarget target
  rw [a.receipt.control.identity_eq, b.receipt.control.identity_eq] at control
  obtain ⟨source, reason, build⟩ :=
    InstalledControl.record_inj (free.record_eq aControl bControl control)
  rw [a.receipt.control.source.identity_eq, b.receipt.control.source.identity_eq] at source
  have sources := PackageSourceRecord.toPackageSource_inj
    (PackageSource.record_inj (free.record_eq aSource bSource source))
  exact receipt_inj (InstallationReceipt.ext_fields
    (InstalledControl.ext_fields sources reason build) targets manifest plan application
    transaction)

end InstalledPackage

end Pkgstate
