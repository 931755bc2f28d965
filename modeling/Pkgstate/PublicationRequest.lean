import Pkgstate.Fixtures

/-!
# Publication requests

`package_state_delta` and `state_publication_request`. A request is built
against one snapshot; `Admits` says what that snapshot has to hold for each
delta, and `make_iff` that `make` accepts exactly the consistent deltas, in
whatever order they come.
-/

namespace Pkgstate

open Wire Cpp Keyed

variable {sha256 : Sha256}

/-- `state_publication_request_schema_version`. -/
def statePublicationRequestSchemaVersion : UInt16 := 1

/-! ## Deltas -/

/-- `package_state_delta_kind`. -/
inductive PackageStateDeltaKind
  | install
  | replace
  | remove
deriving DecidableEq

instance : ByteEnum PackageStateDeltaKind where
  toByte
    | .install => 1
    | .replace => 2
    | .remove => 3
  ofByte
    | 1 => some .install
    | 2 => some .replace
    | 3 => some .remove
    | _ => none
  ofByte_toByte value := by cases value <;> rfl
  toByte_ofByte read := by split at read <;> cases read <;> rfl

/-- `validate_package_name`. -/
def validatePackageName (name : Bytes) : Except Failure Unit :=
  requireLineSafe name "publication delta package name must not be empty"
    "publication delta package name is not line-safe"

/-- `validate_receipt_evidence`. -/
def validateReceiptEvidence (proposed : InstalledPackage sha256)
    (operationPlan : OperationPlanIdentity) (applicationEvidence : ApplicationEvidenceIdentity) :
    Except Failure Unit :=
  if proposed.receipt.operationPlan ≠ operationPlan ∨
      proposed.receipt.applicationEvidence ≠ applicationEvidence then
    .error (.stateError (ascii "proposed installation receipt does not retain matching plan and application evidence for package " ++ proposed.name.bytes))
  else .ok ()

/-- What the three factories establish about the fields of a delta. -/
def DeltaShape (kind : PackageStateDeltaKind) (packageName : StdString)
    (expectedPackage : Option InstalledPackageIdentity)
    (proposedPackage : Option (InstalledPackage sha256)) (operationPlan : OperationPlanIdentity)
    (applicationEvidence : ApplicationEvidenceIdentity) : Prop :=
  match kind, expectedPackage, proposedPackage with
  | .install, none, some proposed =>
      proposed.name = packageName ∧
        validateReceiptEvidence proposed operationPlan applicationEvidence = .ok ()
  | .replace, some expected, some proposed =>
      proposed.name = packageName ∧
        validateReceiptEvidence proposed operationPlan applicationEvidence = .ok () ∧
        expected ≠ proposed.identity
  | .remove, some _, none => validatePackageName packageName.bytes = .ok ()
  | _, _, _ => False

/-- `package_state_delta`. -/
structure PackageStateDelta (sha256 : Sha256) where
  kind : PackageStateDeltaKind
  packageName : StdString
  expectedPackage : Option InstalledPackageIdentity
  proposedPackage : Option (InstalledPackage sha256)
  operationPlan : OperationPlanIdentity
  applicationEvidence : ApplicationEvidenceIdentity
  shape : DeltaShape kind packageName expectedPackage proposedPackage operationPlan
    applicationEvidence
deriving DecidableEq

namespace PackageStateDelta

/-- `package_state_delta::install`. -/
def install (proposed : InstalledPackage sha256) (operationPlan : OperationPlanIdentity)
    (applicationEvidence : ApplicationEvidenceIdentity) :
    Except Failure (PackageStateDelta sha256) :=
  checked (validateReceiptEvidence proposed operationPlan applicationEvidence) fun retained =>
    { kind := .install
      packageName := proposed.name
      expectedPackage := none
      proposedPackage := some proposed
      operationPlan, applicationEvidence
      shape := ⟨rfl, retained⟩ }

/-- `package_state_delta::replace`. -/
def replace (expectedPackage : InstalledPackageIdentity) (proposed : InstalledPackage sha256)
    (operationPlan : OperationPlanIdentity) (applicationEvidence : ApplicationEvidenceIdentity) :
    Except Failure (PackageStateDelta sha256) :=
  match retained : validateReceiptEvidence proposed operationPlan applicationEvidence with
  | .error failure => .error failure
  | .ok () =>
      if changes : expectedPackage = proposed.identity then
        .error (.stateError (ascii "replacement delta does not change installed package"))
      else .ok
        { kind := .replace
          packageName := proposed.name
          expectedPackage := some expectedPackage
          proposedPackage := some proposed
          operationPlan, applicationEvidence
          shape := ⟨rfl, retained, changes⟩ }

/-- `package_state_delta::remove`. -/
def remove (packageName : StdString) (expectedPackage : InstalledPackageIdentity)
    (operationPlan : OperationPlanIdentity) (applicationEvidence : ApplicationEvidenceIdentity) :
    Except Failure (PackageStateDelta sha256) :=
  checked (validatePackageName packageName.bytes) fun named =>
    { kind := .remove
      packageName
      expectedPackage := some expectedPackage
      proposedPackage := none
      operationPlan, applicationEvidence
      shape := named }

/-- Every delta is what one of the three factories returns. -/
theorem factory (delta : PackageStateDelta sha256) :
    (∃ proposed, delta.kind = .install ∧ delta.expectedPackage = none ∧
        delta.proposedPackage = some proposed ∧ proposed.name = delta.packageName ∧
        install proposed delta.operationPlan delta.applicationEvidence = .ok delta) ∨
      (∃ expected proposed, delta.kind = .replace ∧ delta.expectedPackage = some expected ∧
        delta.proposedPackage = some proposed ∧ proposed.name = delta.packageName ∧
        expected ≠ proposed.identity ∧
        replace expected proposed delta.operationPlan delta.applicationEvidence = .ok delta) ∨
      (∃ expected, delta.kind = .remove ∧ delta.expectedPackage = some expected ∧
        delta.proposedPackage = none ∧
        remove delta.packageName expected delta.operationPlan delta.applicationEvidence =
          .ok delta) := by
  rcases delta with ⟨kind, packageName, expected, proposed, plan, evidence, shape⟩
  cases kind with
  | install =>
      cases expected with
      | some expected => cases proposed <;> exact shape.elim
      | none =>
          cases proposed with
          | none => exact shape.elim
          | some proposed =>
              obtain ⟨rfl, retained⟩ := id shape
              exact Or.inl ⟨proposed, rfl, rfl, rfl, rfl, checked_of_ok retained⟩
  | replace =>
      cases expected with
      | none => cases proposed <;> exact shape.elim
      | some expected =>
          cases proposed with
          | none => exact shape.elim
          | some proposed =>
              obtain ⟨rfl, retained, changes⟩ := id shape
              refine Or.inr (Or.inl ⟨expected, proposed, rfl, rfl, rfl, rfl, changes, ?_⟩)
              unfold replace
              split
              · next failed =>
                  rw [retained] at failed
                  cases failed
              · exact dif_neg changes
  | remove =>
      cases expected with
      | none => cases proposed <;> exact shape.elim
      | some expected =>
          cases proposed with
          | some proposed => exact shape.elim
          | none => exact Or.inr (Or.inr ⟨expected, rfl, rfl, rfl, checked_of_ok shape⟩)

/-- A proposed package has the name of its delta. -/
theorem proposed_name (delta : PackageStateDelta sha256) {proposed : InstalledPackage sha256}
    (proposes : delta.proposedPackage = some proposed) : proposed.name = delta.packageName := by
  rcases delta.factory with ⟨other, _, _, here, named, _⟩ | ⟨_, other, _, _, here, named, _⟩ |
    ⟨_, _, _, here, _⟩
  · rw [here] at proposes
    exact Option.some.inj proposes ▸ named
  · rw [here] at proposes
    exact Option.some.inj proposes ▸ named
  · rw [here] at proposes
    cases proposes

theorem validateReceiptEvidence_iff {proposed : InstalledPackage sha256}
    {operationPlan : OperationPlanIdentity} {applicationEvidence : ApplicationEvidenceIdentity} :
    validateReceiptEvidence proposed operationPlan applicationEvidence = .ok () ↔
      proposed.receipt.operationPlan = operationPlan ∧
        proposed.receipt.applicationEvidence = applicationEvidence := by
  rw [validateReceiptEvidence, check_eq_ok, not_or, not_not, not_not]

/-- A proposed package is installed or replaces another, and its receipt retains the
plan and the application evidence of its delta. -/
theorem proposed_evidence (delta : PackageStateDelta sha256) {proposed : InstalledPackage sha256}
    (proposes : delta.proposedPackage = some proposed) :
    (delta.kind = .install ∨ delta.kind = .replace) ∧
      proposed.receipt.operationPlan = delta.operationPlan ∧
      proposed.receipt.applicationEvidence = delta.applicationEvidence := by
  rcases delta with ⟨kind, packageName, expected, package, plan, evidence, shape⟩
  cases proposes
  cases kind with
  | install =>
      cases expected with
      | some expected => exact shape.elim
      | none => exact ⟨Or.inl rfl, validateReceiptEvidence_iff.mp shape.2⟩
  | replace =>
      cases expected with
      | none => exact shape.elim
      | some expected => exact ⟨Or.inr rfl, validateReceiptEvidence_iff.mp shape.2.1⟩
  | remove => cases expected <;> exact shape.elim

/-- Every delta but a removal proposes a package. -/
theorem exists_proposed (delta : PackageStateDelta sha256) (kept : delta.kind ≠ .remove) :
    ∃ proposed, delta.proposedPackage = some proposed := by
  rcases delta.factory with ⟨proposed, _, _, proposes, _⟩ | ⟨_, proposed, _, _, proposes, _⟩ |
    ⟨_, removes, _⟩
  · exact ⟨proposed, proposes⟩
  · exact ⟨proposed, proposes⟩
  · exact absurd removes kept

/-- No delta proposes the package it expects. -/
theorem proposed_ne_expected (delta : PackageStateDelta sha256) :
    delta.proposedPackage.map InstalledPackage.identity ≠ delta.expectedPackage := by
  rcases delta.factory with ⟨_, _, expects, proposes, _⟩ |
    ⟨_, _, _, expects, proposes, _, changes, _⟩ | ⟨_, _, expects, proposes, _⟩
  · simp [expects, proposes]
  · simpa [expects, proposes] using Ne.symm changes
  · simp [expects, proposes]

/-- `install_delta`: the installation of a package, with its own evidence. -/
def installing (package : InstalledPackage sha256) : PackageStateDelta sha256 where
  kind := .install
  packageName := package.name
  expectedPackage := none
  proposedPackage := some package
  operationPlan := package.receipt.operationPlan
  applicationEvidence := package.receipt.applicationEvidence
  shape := ⟨rfl, by simp [validateReceiptEvidence]⟩

/-- The replacement of an installed package by another, with the evidence of the new
one. -/
def replacing {expected : InstalledPackageIdentity} (package : InstalledPackage sha256)
    (changes : expected ≠ package.identity) : PackageStateDelta sha256 where
  kind := .replace
  packageName := package.name
  expectedPackage := some expected
  proposedPackage := some package
  operationPlan := package.receipt.operationPlan
  applicationEvidence := package.receipt.applicationEvidence
  shape := ⟨rfl, validateReceiptEvidence_iff.mpr ⟨rfl, rfl⟩, changes⟩

/-- The removal of a package. -/
def removing (package : InstalledPackage sha256) : PackageStateDelta sha256 where
  kind := .remove
  packageName := package.name
  expectedPackage := some package.identity
  proposedPackage := none
  operationPlan := package.receipt.operationPlan
  applicationEvidence := package.receipt.applicationEvidence
  shape := requireLineSafe_iff.mpr package.release.package.lineSafe

end PackageStateDelta

/-! ## Requests -/

/-- The fields of one delta in the record of a request. -/
def deltaFields (delta : PackageStateDelta sha256) : Bytes :=
  [toByte delta.kind] ++ stringBytes delta.packageName.bytes ++
    CanonicalRecord.appendDigest delta.operationPlan ++
    CanonicalRecord.appendDigest delta.applicationEvidence ++
    optionalBytes (fun expected : InstalledPackageIdentity =>
      CanonicalRecord.appendDigest expected) delta.expectedPackage ++
    optionalBytes (fun proposed : InstalledPackage sha256 =>
      CanonicalRecord.appendDigest proposed.identity) delta.proposedPackage

/-- The canonical record of `identify_request`. -/
def publicationRequestRecord (expectedSnapshot : InstalledStateSnapshotIdentity)
    (targetBinding : StateTargetBinding sha256) (deltas : List (PackageStateDelta sha256))
    (transactionEvidence : Option TransactionEvidenceIdentity) : Bytes :=
  CanonicalRecord.header .statePublicationRequest ++
    u16Bytes statePublicationRequestSchemaVersion ++
    CanonicalRecord.appendDigest expectedSnapshot ++
    CanonicalRecord.appendDigest targetBinding.identity ++
    countedBytes deltaFields deltas ++
    optionalBytes (fun value : TransactionEvidenceIdentity => CanonicalRecord.appendDigest value)
      transactionEvidence

/-- The switch of `validate_against_snapshot`. -/
def validateCurrent (expected : Snapshot sha256) (delta : PackageStateDelta sha256) :
    Except Failure Unit :=
  match delta.kind, expected.findPackage delta.packageName with
  | .install, some _ =>
      .error (.stateError
        (ascii "install delta requires package absence: " ++ delta.packageName.bytes))
  | .install, none => .ok ()
  | .replace, none | .remove, none =>
      .error (.stateError
        (ascii "publication delta requires installed package: " ++ delta.packageName.bytes))
  | .replace, some current | .remove, some current =>
      if delta.expectedPackage = some current.identity then .ok ()
      else .error (.stateError
        (ascii "publication delta old package does not match expected snapshot: " ++
          delta.packageName.bytes))

/-- The checks of `validate_against_snapshot` on the proposed package. -/
def validateProposed (expected : Snapshot sha256) (delta : PackageStateDelta sha256) :
    Except Failure Unit :=
  match delta.proposedPackage with
  | none => .ok ()
  | some proposed =>
      if proposed.name ≠ delta.packageName then
        .error (.stateError (ascii "proposed installed package name does not match delta"))
      else if proposed.targetBinding ≠ expected.targetBinding then
        .error (.stateError
          (ascii "proposed installed package belongs to another target: " ++
            delta.packageName.bytes))
      else .ok ()

/-- `validate_against_snapshot`. -/
def validateAgainstSnapshot (expected : Snapshot sha256) (delta : PackageStateDelta sha256) :
    Except Failure Unit := do
  validateCurrent expected delta
  validateProposed expected delta

/-- The loop of `state_publication_request::make`. -/
def validateDeltas (expected : Snapshot sha256)
    (transactionEvidence : Option TransactionEvidenceIdentity) :
    List (PackageStateDelta sha256) → Except Failure Unit
  | [] => .ok ()
  | delta :: rest => do
      validateAgainstSnapshot expected delta
      if delta.proposedPackage.any fun proposed =>
          decide (proposed.receipt.transactionEvidence ≠ transactionEvidence) then
        .error (.stateError
          (ascii "proposed installation receipt transaction evidence mismatch"))
      else validateDeltas expected transactionEvidence rest

/-- What a snapshot holds when it admits a delta: the expected package, or the
absence the delta requires, and the target of the proposed one. -/
structure Admits (expected : Snapshot sha256) (delta : PackageStateDelta sha256) : Prop where
  current : delta.expectedPackage =
    (expected.findPackage delta.packageName).map InstalledPackage.identity
  target {proposed : InstalledPackage sha256} : delta.proposedPackage = some proposed →
    proposed.targetBinding = expected.targetBinding

theorem Admits.installing {expected : Snapshot sha256} {package : InstalledPackage sha256}
    (absent : expected.findPackage package.name = none)
    (target : package.targetBinding = expected.targetBinding) :
    Admits expected (.installing package) := by
  constructor
  · change none = (expected.findPackage package.name).map InstalledPackage.identity
    rw [absent, Option.map_none]
  · intro proposed proposes
    cases proposes
    exact target

theorem Admits.replacing {expected : Snapshot sha256} {current package : InstalledPackage sha256}
    (member : current ∈ expected.packages) (named : current.name = package.name)
    (target : package.targetBinding = expected.targetBinding)
    (changes : current.identity ≠ package.identity) :
    Admits expected (.replacing package changes) := by
  constructor
  · change some current.identity =
      (expected.findPackage package.name).map InstalledPackage.identity
    rw [Snapshot.findPackage_eq_some.mpr ⟨member, named⟩, Option.map_some]
  · intro proposed proposes
    cases proposes
    exact target

theorem Admits.removing {expected : Snapshot sha256} {package : InstalledPackage sha256}
    (member : package ∈ expected.packages) : Admits expected (.removing package) := by
  constructor
  · change some package.identity =
      (expected.findPackage package.name).map InstalledPackage.identity
    rw [Snapshot.findPackage_eq_some.mpr ⟨member, rfl⟩, Option.map_some]
  · intro proposed proposes
    cases proposes

/-- An installation is admitted only where its package is absent. -/
theorem Admits.absent {expected : Snapshot sha256} {delta : PackageStateDelta sha256}
    (admits : Admits expected delta) (installs : delta.kind = .install) :
    ∀ package ∈ expected.packages, package.name ≠ delta.packageName := by
  apply Snapshot.findPackage_eq_none.mp
  have current := admits.current
  rcases delta.factory with ⟨_, _, expects, _⟩ | ⟨_, _, kind, _⟩ | ⟨_, kind, _⟩
  · rw [expects] at current
    exact Option.map_eq_none_iff.mp current.symm
  · rw [kind] at installs
    cases installs
  · rw [kind] at installs
    cases installs

/-- A replacement or a removal is admitted only where the snapshot holds the
package it expects. -/
theorem Admits.present {expected : Snapshot sha256} {delta : PackageStateDelta sha256}
    (admits : Admits expected delta) (changes : delta.kind = .replace ∨ delta.kind = .remove) :
    ∃ current ∈ expected.packages,
      current.name = delta.packageName ∧ delta.expectedPackage = some current.identity := by
  obtain ⟨identity, expects⟩ : ∃ identity, delta.expectedPackage = some identity := by
    rcases delta.factory with ⟨_, kind, _⟩ | ⟨_, _, _, expects, _⟩ | ⟨_, _, expects, _⟩
    · rw [kind] at changes
      rcases changes with impossible | impossible <;> cases impossible
    · exact ⟨_, expects⟩
    · exact ⟨_, expects⟩
  have current := admits.current
  rw [expects] at current
  obtain ⟨package, found, rfl⟩ := Option.map_eq_some_iff.mp current.symm
  obtain ⟨member, named⟩ := Snapshot.findPackage_eq_some.mp found
  exact ⟨package, member, named, expects⟩

theorem Admits.of_current {expected : Snapshot sha256} {delta : PackageStateDelta sha256}
    (absent : delta.kind = .install →
      ∀ package ∈ expected.packages, package.name ≠ delta.packageName)
    (present : delta.kind = .replace ∨ delta.kind = .remove →
      ∃ current ∈ expected.packages,
        current.name = delta.packageName ∧ delta.expectedPackage = some current.identity)
    (target : ∀ {proposed : InstalledPackage sha256}, delta.proposedPackage = some proposed →
      proposed.targetBinding = expected.targetBinding) : Admits expected delta := by
  refine ⟨?_, target⟩
  have held (changes : delta.kind = .replace ∨ delta.kind = .remove) :
      delta.expectedPackage =
        (expected.findPackage delta.packageName).map InstalledPackage.identity := by
    obtain ⟨package, member, named, expects⟩ := present changes
    rw [Snapshot.findPackage_eq_some.mpr ⟨member, named⟩, expects, Option.map_some]
  rcases delta.factory with ⟨_, kind, expects, _⟩ | ⟨_, _, kind, _⟩ | ⟨_, kind, _⟩
  · rw [Snapshot.findPackage_eq_none.mpr (absent kind), expects, Option.map_none]
  · exact held (Or.inl kind)
  · exact held (Or.inr kind)

theorem validateCurrent_iff {expected : Snapshot sha256} {delta : PackageStateDelta sha256} :
    validateCurrent expected delta = .ok () ↔ delta.expectedPackage =
      (expected.findPackage delta.packageName).map InstalledPackage.identity := by
  unfold validateCurrent
  rcases delta.factory with ⟨_, kind, expects, _⟩ | ⟨_, _, kind, expects, _⟩ |
    ⟨_, kind, expects, _⟩
  all_goals
    rw [kind, expects]
    cases expected.findPackage delta.packageName with
    | none => simp
    | some current => simp

theorem validateProposed_iff {expected : Snapshot sha256} {delta : PackageStateDelta sha256} :
    validateProposed expected delta = .ok () ↔ ∀ {proposed : InstalledPackage sha256},
      delta.proposedPackage = some proposed →
        proposed.targetBinding = expected.targetBinding := by
  unfold validateProposed
  cases proposes : delta.proposedPackage with
  | none => simp
  | some proposed => simp [delta.proposed_name proposes]

theorem validateAgainstSnapshot_iff {expected : Snapshot sha256}
    {delta : PackageStateDelta sha256} :
    validateAgainstSnapshot expected delta = .ok () ↔ Admits expected delta := by
  constructor
  · intro passed
    cases current : validateCurrent expected delta with
    | error failure =>
        rw [validateAgainstSnapshot, current] at passed
        cases passed
    | ok checks =>
        rw [validateAgainstSnapshot, current] at passed
        exact ⟨validateCurrent_iff.mp current, validateProposed_iff.mp passed⟩
  · rintro ⟨current, target⟩
    rw [validateAgainstSnapshot, validateCurrent_iff.mpr current]
    exact validateProposed_iff.mpr target

/-- A delta's proposed package retains the transaction evidence. -/
def RetainsEvidence (transactionEvidence : Option TransactionEvidenceIdentity)
    (delta : PackageStateDelta sha256) : Prop :=
  ∀ proposed, delta.proposedPackage = some proposed →
    proposed.receipt.transactionEvidence = transactionEvidence

theorem RetainsEvidence.installing (package : InstalledPackage sha256) :
    RetainsEvidence package.receipt.transactionEvidence (.installing package) := by
  intro proposed proposes
  cases proposes
  rfl

theorem RetainsEvidence.replacing {expected : InstalledPackageIdentity}
    (package : InstalledPackage sha256) (changes : expected ≠ package.identity) :
    RetainsEvidence package.receipt.transactionEvidence (.replacing package changes) := by
  intro proposed proposes
  cases proposes
  rfl

theorem RetainsEvidence.removing (transactionEvidence : Option TransactionEvidenceIdentity)
    (package : InstalledPackage sha256) :
    RetainsEvidence transactionEvidence (.removing package) := by
  intro proposed proposes
  cases proposes

theorem validateDeltas_iff {expected : Snapshot sha256}
    {transactionEvidence : Option TransactionEvidenceIdentity}
    {deltas : List (PackageStateDelta sha256)} :
    validateDeltas expected transactionEvidence deltas = .ok () ↔
      ∀ delta ∈ deltas, Admits expected delta ∧ RetainsEvidence transactionEvidence delta := by
  induction deltas with
  | nil => exact ⟨fun _ _ member => (List.not_mem_nil member).elim, fun _ => rfl⟩
  | cons delta rest ih =>
      have retains : (delta.proposedPackage.any fun proposed =>
          decide (proposed.receipt.transactionEvidence ≠ transactionEvidence)) = false ↔
          RetainsEvidence transactionEvidence delta := by
        unfold RetainsEvidence
        cases delta.proposedPackage <;> simp
      rw [List.forall_mem_cons, ← ih, ← retains]
      cases admits : validateAgainstSnapshot expected delta with
      | error failure =>
          have refused : ¬ Admits expected delta := fun accepted => by
            rw [validateAgainstSnapshot_iff.mpr accepted] at admits
            cases admits
          rw [validateDeltas, admits]
          exact ⟨nofun, fun all => absurd all.1.1 refused⟩
      | ok checks =>
          have accepted := validateAgainstSnapshot_iff.mp admits
          rw [validateDeltas, admits]
          change (if _ then _ else _) = _ ↔ _
          cases delta.proposedPackage.any fun proposed =>
            decide (proposed.receipt.transactionEvidence ≠ transactionEvidence) with
          | true => exact ⟨nofun, fun all => (by cases all.1.2)⟩
          | false => exact ⟨fun passed => ⟨⟨accepted, rfl⟩, passed⟩, fun all => all.2⟩

/-- `state_publication_request`. -/
structure StatePublicationRequest (sha256 : Sha256) where
  expectedSnapshot : InstalledStateSnapshotIdentity
  targetBinding : StateTargetBinding sha256
  deltas : SortedVector (@PackageStateDelta.packageName sha256)
  transactionEvidence : Option TransactionEvidenceIdentity
  identity : StatePublicationRequestIdentity
  nonempty : deltas.toList ≠ []
  composed : ¬ (1 < deltas.toList.length ∧ transactionEvidence = none)
  evidence : ∀ delta ∈ deltas.toList, RetainsEvidence transactionEvidence delta
  target : ∀ delta ∈ deltas.toList, ∀ proposed, delta.proposedPackage = some proposed →
    proposed.targetBinding = targetBinding
  identity_eq : identity = identifyRecord sha256 (publicationRequestRecord expectedSnapshot
    targetBinding deltas.toList transactionEvidence)

namespace StatePublicationRequest

theorem ext_fields {a b : StatePublicationRequest sha256}
    (expectedSnapshot : a.expectedSnapshot = b.expectedSnapshot)
    (targetBinding : a.targetBinding = b.targetBinding) (deltas : a.deltas = b.deltas)
    (transactionEvidence : a.transactionEvidence = b.transactionEvidence) : a = b := by
  rcases a with ⟨_, _, _, _, _, _, _, _, _, aEq⟩
  rcases b with ⟨_, _, _, _, _, _, _, _, _, bEq⟩
  cases expectedSnapshot
  cases targetBinding
  cases deltas
  cases transactionEvidence
  cases aEq
  cases bEq
  rfl

/-- `state_publication_request::make`. -/
def make (expectedSnapshot : Snapshot sha256) (deltas : StdVector (PackageStateDelta sha256))
    (transactionEvidence : Option TransactionEvidenceIdentity) :
    Except Failure (StatePublicationRequest sha256) :=
  if nonempty : deltas.toList = [] then
    .error (.stateError (ascii "state-publication request requires at least one delta"))
  else sortDistinct (refines_less_key PackageStateDelta.packageName)
    (fun delta => Failure.stateError
      (ascii "conflicting publication deltas for package: " ++ delta.packageName.bytes))
    deltas fun deltas arranged =>
    if composed : 1 < deltas.toList.length ∧ transactionEvidence = none then
      .error (.stateError
        (ascii "composed state-publication request requires transaction evidence"))
    else checked (validateDeltas expectedSnapshot transactionEvidence deltas.toList) fun valid =>
      { expectedSnapshot := expectedSnapshot.identity
        targetBinding := expectedSnapshot.targetBinding
        deltas, transactionEvidence
        identity := _
        nonempty := fun empty => nonempty (List.perm_nil.mp (empty ▸ arranged.symm))
        composed
        evidence := fun delta member => (validateDeltas_iff.mp valid delta member).2
        target := fun delta member _ => (validateDeltas_iff.mp valid delta member).1.target
        identity_eq := rfl }

/-- The request could have been built against this snapshot. -/
structure MadeAgainst (request : StatePublicationRequest sha256) (expected : Snapshot sha256) :
    Prop where
  expectedSnapshot : request.expectedSnapshot = expected.identity
  targetBinding : request.targetBinding = expected.targetBinding
  admits : ∀ delta ∈ request.deltas.toList, Admits expected delta

theorem make_ok {expected : Snapshot sha256} {deltas : StdVector (PackageStateDelta sha256)}
    {transactionEvidence : Option TransactionEvidenceIdentity}
    {request : StatePublicationRequest sha256}
    (built : make expected deltas transactionEvidence = .ok request) :
    request.MadeAgainst expected ∧ request.deltas.toList.Perm deltas.toList ∧
      request.transactionEvidence = transactionEvidence := by
  unfold make at built
  split at built
  · cases built
  · obtain ⟨sorted, arranged, built⟩ := sortDistinct_ok built
    split at built
    · cases built
    · obtain ⟨valid, rfl⟩ := checked_eq_ok.mp built
      exact ⟨⟨rfl, rfl, fun delta member => (validateDeltas_iff.mp valid delta member).1⟩,
        arranged, rfl⟩

/-- A request built against a snapshot is rebuilt by `make` from its own
deltas. -/
theorem make_self {request : StatePublicationRequest sha256} {expected : Snapshot sha256}
    (made : request.MadeAgainst expected) :
    make expected request.deltas.toStdVector request.transactionEvidence = .ok request := by
  have valid : validateDeltas expected request.transactionEvidence request.deltas.toList =
      .ok () :=
    validateDeltas_iff.mpr fun delta member =>
      ⟨made.admits delta member, request.evidence delta member⟩
  rw [make, dif_neg request.nonempty, sortDistinct_sorted, dif_neg request.composed,
    checked_of_ok valid]
  exact congrArg Except.ok (ext_fields made.expectedSnapshot.symm made.targetBinding.symm rfl rfl)

/-- Admitted deltas of different packages make a request. -/
theorem make_of_admits {expected : Snapshot sha256} {deltas : StdVector (PackageStateDelta sha256)}
    {transactionEvidence : Option TransactionEvidenceIdentity} (nonempty : deltas.toList ≠ [])
    (names : (deltas.toList.map PackageStateDelta.packageName).Nodup)
    (composed : ¬ (1 < deltas.toList.length ∧ transactionEvidence = none))
    (admits : ∀ delta ∈ deltas.toList,
      Admits expected delta ∧ RetainsEvidence transactionEvidence delta) :
    ∃ request, make expected deltas transactionEvidence = .ok request := by
  obtain ⟨sorted, arranged, resumed⟩ :=
    sortDistinct_of_nodup (refines_less_key PackageStateDelta.packageName) names
  have valid : validateDeltas expected transactionEvidence sorted.toList = .ok () :=
    validateDeltas_iff.mpr fun delta member => admits delta (arranged.mem_iff.mp member)
  rw [make, dif_neg nonempty, resumed, dif_neg (arranged.length_eq ▸ composed),
    checked_of_ok valid]
  exact ⟨_, rfl⟩

/-- One admitted delta makes a request. -/
theorem make_singleton {expected : Snapshot sha256} {delta : PackageStateDelta sha256}
    {transactionEvidence : Option TransactionEvidenceIdentity} (admits : Admits expected delta)
    (retains : RetainsEvidence transactionEvidence delta) :
    ∃ request, make expected (.singleton delta) transactionEvidence = .ok request := by
  refine make_of_admits (List.cons_ne_nil delta []) (List.nodup_singleton _) ?_ ?_
  · intro composed
    exact Nat.lt_irrefl 1 composed.1
  · intro other member
    rw [List.mem_singleton.mp member]
    exact ⟨admits, retains⟩

theorem deltas_singleton {expected : Snapshot sha256} {delta : PackageStateDelta sha256}
    {transactionEvidence : Option TransactionEvidenceIdentity}
    {request : StatePublicationRequest sha256}
    (built : make expected (.singleton delta) transactionEvidence = .ok request) :
    request.deltas.toList = [delta] :=
  List.perm_singleton.mp (make_ok built).2.1

/-- What `make` asks of its deltas, whatever their order. -/
structure Consistent (expected : Snapshot sha256) (deltas : List (PackageStateDelta sha256))
    (transactionEvidence : Option TransactionEvidenceIdentity) : Prop where
  nonempty : deltas ≠ []
  names : (deltas.map PackageStateDelta.packageName).Nodup
  composed : 1 < deltas.length → transactionEvidence ≠ none
  installs : ∀ delta ∈ deltas, delta.kind = .install →
    ∀ package ∈ expected.packages, package.name ≠ delta.packageName
  changes : ∀ delta ∈ deltas, delta.kind = .replace ∨ delta.kind = .remove →
    ∃ current ∈ expected.packages,
      current.name = delta.packageName ∧ delta.expectedPackage = some current.identity
  proposes : ∀ delta ∈ deltas, ∀ proposed, delta.proposedPackage = some proposed →
    proposed.targetBinding = expected.targetBinding ∧
      proposed.receipt.transactionEvidence = transactionEvidence

theorem Consistent.of_perm {expected : Snapshot sha256}
    {deltas others : List (PackageStateDelta sha256)}
    {transactionEvidence : Option TransactionEvidenceIdentity}
    (consistent : Consistent expected others transactionEvidence) (perm : deltas.Perm others) :
    Consistent expected deltas transactionEvidence where
  nonempty empty := consistent.nonempty (List.nil_perm.mp (empty ▸ perm))
  names := (perm.map PackageStateDelta.packageName).nodup_iff.mpr consistent.names
  composed several := consistent.composed (perm.length_eq ▸ several)
  installs delta member := consistent.installs delta (perm.mem_iff.mp member)
  changes delta member := consistent.changes delta (perm.mem_iff.mp member)
  proposes delta member := consistent.proposes delta (perm.mem_iff.mp member)

theorem Consistent.of_make {expected : Snapshot sha256}
    {deltas : StdVector (PackageStateDelta sha256)}
    {transactionEvidence : Option TransactionEvidenceIdentity}
    {request : StatePublicationRequest sha256}
    (built : make expected deltas transactionEvidence = .ok request) :
    Consistent expected deltas.toList transactionEvidence := by
  obtain ⟨made, arranged, rfl⟩ := make_ok built
  have sorted : Consistent expected request.deltas.toList request.transactionEvidence := by
    constructor
    · exact request.nonempty
    · exact nodup_map_key request.deltas.sorted
    · intro several none
      exact request.composed ⟨several, none⟩
    · intro delta member installs
      exact (made.admits delta member).absent installs
    · intro delta member changes
      exact (made.admits delta member).present changes
    · intro delta member proposed proposes
      exact ⟨(made.admits delta member).target proposes,
        request.evidence delta member proposed proposes⟩
  exact sorted.of_perm arranged.symm

theorem make_of_consistent {expected : Snapshot sha256}
    {deltas : StdVector (PackageStateDelta sha256)}
    {transactionEvidence : Option TransactionEvidenceIdentity}
    (consistent : Consistent expected deltas.toList transactionEvidence) :
    ∃ request, make expected deltas transactionEvidence = .ok request := by
  refine make_of_admits consistent.nonempty consistent.names ?_ ?_
  · intro ⟨several, missing⟩
    exact consistent.composed several missing
  · intro delta member
    refine ⟨?_, fun proposed proposes => (consistent.proposes delta member proposed proposes).2⟩
    refine .of_current ?_ ?_ fun proposes => (consistent.proposes delta member _ proposes).1
    · exact consistent.installs delta member
    · exact consistent.changes delta member

/-- Deltas in another order make the same request. -/
theorem make_of_perm {expected : Snapshot sha256}
    {deltas others : StdVector (PackageStateDelta sha256)}
    {transactionEvidence : Option TransactionEvidenceIdentity}
    {request : StatePublicationRequest sha256}
    (built : make expected others transactionEvidence = .ok request)
    (perm : deltas.toList.Perm others.toList) :
    make expected deltas transactionEvidence = .ok request := by
  obtain ⟨rebuilt, again⟩ := make_of_consistent ((Consistent.of_make built).of_perm perm)
  obtain ⟨made, arranged, evidence⟩ := make_ok built
  obtain ⟨madeAgain, arrangedAgain, evidenceAgain⟩ := make_ok again
  have sorted : rebuilt.deltas.toList = request.deltas.toList := by
    apply rebuilt.deltas.sorted.ext request.deltas.sorted
    intro delta
    exact ((arrangedAgain.trans perm).trans arranged.symm).mem_iff
  rw [again]
  exact congrArg Except.ok (ext_fields
    (madeAgain.expectedSnapshot.trans made.expectedSnapshot.symm)
    (madeAgain.targetBinding.trans made.targetBinding.symm)
    (SortedVector.toList_inj sorted) (evidenceAgain.trans evidence.symm))

/-- Installed packages can be removed together. -/
theorem make_removing {expected : Snapshot sha256} {packages : StdVector (InstalledPackage sha256)}
    (transaction : TransactionEvidenceIdentity) (nonempty : packages.toList ≠ [])
    (installed : packages.toList.Perm expected.packages) :
    ∃ request, make expected (packages.map .removing) (some transaction) = .ok request := by
  refine make_of_admits ?_ ?_ ?_ ?_
  · intro none
    exact nonempty (List.map_eq_nil_iff.mp none)
  · change ((packages.toList.map PackageStateDelta.removing).map _).Nodup
    rw [List.map_map]
    exact (installed.map InstalledPackage.name).nodup_iff.mpr (nodup_map_key expected.sorted)
  · intro composed
    cases composed.2
  · intro delta member
    obtain ⟨package, inPackages, rfl⟩ := List.mem_map.mp member
    exact ⟨.removing (installed.mem_iff.mp inPackages), .removing _ package⟩

/-- `make` accepts exactly the consistent deltas and ignores their order: it
succeeds just when they are consistent with the snapshot, gives the same request
for every arrangement of them, and sorts them strictly by package name. -/
theorem make_iff (expected : Snapshot sha256) (deltas : StdVector (PackageStateDelta sha256))
    (transactionEvidence : Option TransactionEvidenceIdentity) :
    ((∃ request, make expected deltas transactionEvidence = .ok request) ↔
      Consistent expected deltas.toList transactionEvidence) ∧
    (∀ arranged : StdVector (PackageStateDelta sha256), arranged.toList.Perm deltas.toList →
      ∀ request, make expected arranged transactionEvidence = .ok request ↔
        make expected deltas transactionEvidence = .ok request) ∧
    ∀ request, make expected deltas transactionEvidence = .ok request →
      request.deltas.toList.Perm deltas.toList ∧
      SortedBy PackageStateDelta.packageName request.deltas.toList := by
  refine ⟨⟨?_, make_of_consistent⟩, ?_, ?_⟩
  · intro ⟨request, built⟩
    exact .of_make built
  · intro arranged perm request
    exact ⟨fun built => make_of_perm built perm.symm, fun built => make_of_perm built perm⟩
  · intro request built
    exact ⟨(make_ok built).2.1, request.deltas.sorted⟩

theorem make_iff_removals :
    ∃ (expected : Snapshot Sha256.hash)
      (deltas arranged : StdVector (PackageStateDelta Sha256.hash))
      (transaction : TransactionEvidenceIdentity) (request : StatePublicationRequest Sha256.hash),
      arranged ≠ deltas ∧ make expected deltas (some transaction) = .ok request ∧
      make expected arranged (some transaction) = .ok request := by
  obtain ⟨expected, installed⟩ := make_numberedPackages Fixture.binding
    (show 2 ≤ 256 ^ 3 by decide)
  let packages : StdVector (InstalledPackage Sha256.hash) :=
    ⟨numberedPackages Fixture.binding 2, by rw [length_numberedPackages]; decide⟩
  let deltas : StdVector (PackageStateDelta Sha256.hash) := packages.map .removing
  let arranged : StdVector (PackageStateDelta Sha256.hash) :=
    ⟨deltas.toList.reverse, by rw [List.length_reverse]; exact deltas.size_lt⟩
  have nonempty : packages.toList ≠ [] := List.cons_ne_nil _ _
  have present : packages.toList.Perm expected.packages := (Snapshot.make_ok installed).2.symm
  obtain ⟨request, built⟩ := make_removing (Fixture.identity 100) nonempty present
  refine ⟨expected, deltas, arranged, Fixture.identity 100, request, ?_, built, ?_⟩
  · intro same
    have names := congrArg (fun deltas => deltas.toList.map PackageStateDelta.packageName) same
    exact absurd names (by decide +kernel)
  · exact ((make_iff expected deltas (some (Fixture.identity 100))).2.1 arranged
      (List.reverse_perm _) request).mpr built

end StatePublicationRequest

end Pkgstate
