import Pkgstate.Base.Sha256
import Pkgstate.Snapshot

/-!
# State fixtures

Packages without manifest entries, after `empty_package` of
`tests/fixtures/state.h`. They claim no path, so any of them with different names
make a snapshot, over any hash function, and there are packages of millions of
names (`make_numberedPackages`). No two of the records hashed for the samples have
one digest (`Fixture.collisionFree`).
-/

namespace Pkgstate

open Wire Cpp Keyed

variable {sha256 : Sha256}

/-! ## Sample packages -/

namespace Fixture

/-- `identity`: thirty-two bytes that count up from `seed`. -/
def identity {Tag : Type} {domain : Tag} (seed : UInt8) : TypedDigest domain :=
  .fromSha256 ⟨((List.range 32).map fun index => seed + index.toUInt8).toArray, by simp⟩

/-- `target`. -/
def target (sha256 : Sha256) (seed : UInt8) : StateTargetBinding sha256 :=
  .make sha256 (identity seed) (identity (seed + 1)) (identity (seed + 2)) (identity (seed + 3))
    (identity (seed + 4))

-- The expected identity is the one in `state_target_binding_test.cpp`.
example : (StateTargetBinding.make Sha256.hash (.fromSha256 (.replicate 32 0))
    (.fromSha256 (.replicate 32 0x11)) (.fromSha256 (.replicate 32 0x22))
    (.fromSha256 (.replicate 32 0x33)) (.fromSha256 (.replicate 32 0x44))).identity.string.bytes =
      ascii "v1:sha256:31ad5e9313cc0fc611acd1b374b015940945ebe6768f9782ef9f298de3765bb0" := by
  decide +kernel

/-- The architecture of every sample. -/
def architecture : ArchitectureReference where
  name := ⟨ascii "x86_64", by decide⟩
  canonical := by decide

/-- `source`, without requirements, programs and profiles. -/
def source (sha256 : Sha256) (name : PackageReference) (seed : UInt8) :
    PackageSourceRecord sha256 where
  release :=
    { identity := identity seed
      package := name
      version := ⟨ascii "1.2.3", by decide⟩
      release := 1
      valid := by decide }
  metadata :=
    { summary := ⟨ascii "Example package", by decide⟩
      description := none
      homepage := none
      licenses := ⟨.singleton ⟨ascii "GPL-3.0-or-later", by decide⟩, List.pairwise_singleton _ _⟩
      valid := by decide }
  runtimeRequirements := ⟨⟨[], by decide⟩, List.Pairwise.nil⟩
  lifecyclePrograms := ⟨⟨[], by decide⟩, List.Pairwise.nil⟩
  lifecycleRequirements := ⟨⟨[], by decide⟩, List.Pairwise.nil⟩
  architectures :=
    { declaredBuild := ⟨⟨[], by decide⟩, List.Pairwise.nil⟩
      declaredTarget := ⟨⟨[], by decide⟩, List.Pairwise.nil⟩
      selectedBuild := architecture
      selectedTarget := architecture
      permitted := rfl }
  selectedProfiles := ⟨⟨[], by decide⟩, List.Pairwise.nil⟩
  snapshot := identity (seed + 2)
  identity := _
  identity_eq := rfl

/-- `build`. -/
def build (source : PackageSourceRecordIdentity) (seed : UInt8) : BuildProvenance where
  sourceRecord := source
  request := identity (seed + 4)
  buildInputs := identity (seed + 6)
  environmentPolicy := identity (seed + 7)
  buildPolicy := identity (seed + 8)
  buildResult := identity (seed + 9)
  payloadManifest := identity (seed + 10)
  artifact := identity (seed + 11)
  artifactContent := identity (seed + 12)
  artifactBinding := identity (seed + 13)
  executionEvidence := identity (seed + 14)
  buildImage := identity (seed + 15)
  artifactImage := identity (seed + 16)
  artifactInspection := identity (seed + 17)

/-- `control`. -/
def control (sha256 : Sha256) (name : PackageReference) (seed : UInt8) :
    InstalledControl sha256 where
  source := source sha256 name seed
  reason := .explicitRequest
  build := build (source sha256 name seed).identity seed
  bound := rfl
  identity := _
  identity_eq := rfl

/-- `empty_package`. -/
def emptyPackage (binding : StateTargetBinding sha256)
    (transaction : Option TransactionEvidenceIdentity) (seed : UInt8) (name : PackageReference) :
    InstalledPackage sha256 :=
  .make
    { control := control sha256 name seed
      targetBinding := binding
      manifest := ⟨⟨[], by decide⟩, List.Pairwise.nil⟩
      operationPlan := identity (seed + 18)
      applicationEvidence := identity (seed + 19)
      transactionEvidence := transaction
      identity := _
      identity_eq := rfl }

/-- The target of the samples, over SHA-256. -/
abbrev binding : StateTargetBinding Sha256.hash := target Sha256.hash 1

/-- The transaction evidence of the samples. -/
abbrev transaction : TransactionEvidenceIdentity := identity 100

end Fixture

/-! ## Packages of many names -/

/-- A package name for each number of three bytes. -/
def numberedName (number : Nat) : PackageReference where
  name :=
    { bytes := 112 :: (bigEndian 3 number).flatMap DigestValue.hexPair
      size_lt := by
        rw [List.length_cons, DigestValue.length_flatMap_hexPair, length_bigEndian]
        decide }
  canonical := by
    have digits : ∀ index : Fin 256, ∀ byte ∈ DigestValue.hexPair (UInt8.ofFin index),
        48 ≤ byte ∧ byte ≤ 57 ∨ 97 ≤ byte ∧ byte ≤ 122 := by
      decide +kernel
    simp only [canonicalAtom, ReferenceKind.allowAt, Bool.false_eq_true, if_false,
      Bool.and_eq_true, List.all_eq_true]
    refine ⟨by decide, ?_⟩
    intro byte member
    obtain ⟨number, _, inPair⟩ := List.mem_flatMap.mp member
    rcases digits number.toFin byte inPair with ⟨low, high⟩ | ⟨low, high⟩
    all_goals simp [low, high]

theorem length_numberedName (number : Nat) : (numberedName number).name.bytes.length = 7 := by
  change (112 :: (bigEndian 3 number).flatMap DigestValue.hexPair).length = 7
  rw [List.length_cons, DigestValue.length_flatMap_hexPair, length_bigEndian]

theorem numberedName_inj {a b : Nat} (aLt : a < 256 ^ 3) (bLt : b < 256 ^ 3)
    (same : (numberedName a).name = (numberedName b).name) : a = b := by
  have digits : (bigEndian 3 a).flatMap DigestValue.hexPair =
      (bigEndian 3 b).flatMap DigestValue.hexPair :=
    (List.cons.inj (congrArg StdString.bytes same)).2
  have parsed := DigestValue.parseHexPairs_flatMap (bigEndian 3 a)
  rw [digits, DigestValue.parseHexPairs_flatMap] at parsed
  exact bigEndian_inj aLt bLt (Except.ok.inj parsed).symm

/-- The package of a number. -/
def numberedPackage (binding : StateTargetBinding sha256) (number : Nat) :
    InstalledPackage sha256 :=
  Fixture.emptyPackage binding (some Fixture.transaction) 20 (numberedName number)

/-- So many packages, with one name each. -/
def numberedPackages (binding : StateTargetBinding sha256) (count : Nat) :
    List (InstalledPackage sha256) :=
  (List.range count).map (numberedPackage binding)

theorem length_numberedPackages (binding : StateTargetBinding sha256) (count : Nat) :
    (numberedPackages binding count).length = count := by
  rw [numberedPackages, List.length_map, List.length_range]

theorem mem_numberedPackages {binding : StateTargetBinding sha256} {count : Nat}
    {package : InstalledPackage sha256} (member : package ∈ numberedPackages binding count) :
    package.targetBinding = binding ∧ package.manifest = [] ∧ package.name.bytes.length = 7 := by
  obtain ⟨number, _, rfl⟩ := List.mem_map.mp member
  exact ⟨rfl, rfl, length_numberedName number⟩

theorem nodup_numberedPackages (binding : StateTargetBinding sha256) {count : Nat}
    (few : count ≤ 256 ^ 3) :
    ((numberedPackages binding count).map InstalledPackage.name).Nodup := by
  rw [numberedPackages, List.map_map]
  refine List.Nodup.map_on ?_ List.nodup_range
  intro a aMember b bMember same
  have aLt := List.mem_range.mp aMember
  have bLt := List.mem_range.mp bMember
  exact numberedName_inj (by omega) (by omega) same

/-- The packages of the samples. -/
def Fixture.package : InstalledPackage Sha256.hash := numberedPackage binding 0

def Fixture.second : InstalledPackage Sha256.hash := numberedPackage binding 1

def Fixture.third : InstalledPackage Sha256.hash := numberedPackage binding 2

/-- A directory `usr`. -/
def Fixture.directory : OwnedEntry where
  path := { string := ⟨ascii "usr", by decide⟩, normal := by decide }
  object :=
    { kind := .directory
      mode := 0o755
      uid := 0
      gid := 0
      mtime := { seconds := 0, nanoseconds := 0, valid := by decide }
      size := none
      regularContent := none
      symlinkTarget := none
      device := none
      hardlinkAnchor := none
      valid := by decide }
  origin := .incomingPayload
  rejected := none

/-- The first package of the samples, with the directory in its manifest. -/
def Fixture.owningPackage : InstalledPackage Sha256.hash :=
  .make
    { package.receipt with
      manifest := ⟨.singleton directory, List.pairwise_singleton _ _⟩
      identity := _
      identity_eq := rfl }

theorem Fixture.owningPackage_name : owningPackage.name = package.name :=
  calc
    owningPackage.name = (numberedName 0).name := rfl
    _ = package.name := rfl

/-- The storage format of a backend. -/
def Fixture.storageFormat : StdString := ⟨ascii "generations/1", by decide⟩

theorem Fixture.lineSafe_storageFormat : LineSafe storageFormat.bytes :=
  requireLineSafe_iff.mp (show requireLineSafe storageFormat.bytes "" "" = .ok () by decide)

/-- All packages of the samples. -/
def Fixture.packages : List (InstalledPackage Sha256.hash) :=
  [package, second, third, owningPackage]

/-! ## Sample states -/

/-- The ownership record of a state in which no path is owned. -/
def Fixture.unownedRecord : Bytes :=
  CanonicalRecord.header .ownershipInventory ++ u64Bytes 0 ++ []

/-- The ownership record of a state in which one package owns the directory. -/
def Fixture.owningRecord (owner : InstalledPackage sha256) : Bytes :=
  CanonicalRecord.header .ownershipInventory ++ u64Bytes 1 ++
    (stringBytes directory.path.string.bytes ++
      countedBytes (fun owner : InstalledPackageIdentity =>
        CanonicalRecord.appendDigest owner) [owner.identity] ++ [])

/-- The record of a state whose packages own nothing. -/
def Fixture.stateRecord (binding : StateTargetBinding sha256)
    (packages : List (InstalledPackage sha256)) : Bytes :=
  snapshotRecord binding packages (identifyRecord sha256 unownedRecord)

/-- The records hashed for the source and the control of a numbered package. -/
def Fixture.controlRecords (number : Nat) : List Bytes :=
  [(source Sha256.hash (numberedName number) 20).toPackageSource.record,
    (control Sha256.hash (numberedName number) 20).record]

/-- The records hashed for the receipt and the identity of a package. -/
def Fixture.receiptRecords (package : InstalledPackage Sha256.hash) : List Bytes :=
  [package.receipt.record, installedPackageRecord package.receipt]

/-- The records hashed for the packages of the samples and for states of them. -/
def Fixture.records : List Bytes :=
  binding.toTargetAuthorities.record ::
    ([0, 1, 2].flatMap controlRecords ++ packages.flatMap receiptRecords ++
      [unownedRecord, owningRecord owningPackage, stateRecord binding [],
        stateRecord binding [package]])

/-- No two records of the samples have one digest. -/
theorem Fixture.collisionFree : CollisionFree Sha256.hash records := by
  decide +kernel

theorem Fixture.records_of_package {sample : InstalledPackage Sha256.hash}
    (member : sample ∈ packages) : sample.records ⊆ records := by
  have listed (number : Nat) (low : number ∈ [0, 1, 2]) : binding.toTargetAuthorities.record ::
      (controlRecords number ++ receiptRecords sample) ⊆ records := by
    refine List.cons_subset_cons _ (List.append_subset.mpr ⟨?_, ?_⟩)
    · intro record hashed
      exact List.mem_append_left _ (List.mem_append_left _ (List.mem_flatMap.mpr ⟨_, low, hashed⟩))
    · intro record hashed
      exact List.mem_append_left _
        (List.mem_append_right _ (List.mem_flatMap.mpr ⟨_, member, hashed⟩))
  have split := member
  simp only [packages, List.mem_cons, List.not_mem_nil, or_false] at split
  rcases split with rfl | rfl | rfl | rfl
  · exact listed 0 (by decide)
  · exact listed 1 (by decide)
  · exact listed 2 (by decide)
  · exact listed 0 (by decide)

theorem Fixture.numberedPackages_subset : numberedPackages binding 2 ⊆ packages := by
  intro package member
  exact List.mem_append_left [third, owningPackage] member

theorem Fixture.package_mem : package ∈ numberedPackages binding 2 :=
  List.mem_map.mpr ⟨0, by decide, rfl⟩

/-- Packages of the samples have different identities. -/
theorem Fixture.distinctIdentities {samples : List (InstalledPackage Sha256.hash)}
    (subset : samples ⊆ packages) : Snapshot.DistinctIdentities samples :=
  Snapshot.distinctIdentities_of_collisionFree collisionFree
    fun _ member => records_of_package (subset member)

theorem Fixture.bound {sample : InstalledPackage Sha256.hash} (member : sample ∈ packages) :
    sample.targetBinding = binding := by
  simp only [packages, List.mem_cons, List.not_mem_nil, or_false] at member
  rcases member with rfl | rfl | rfl | rfl <;> rfl

/-- Sorted packages of the samples make a state. -/
theorem Fixture.exists_state {samples : List (InstalledPackage Sha256.hash)}
    (subset : samples ⊆ packages) (sorted : SortedBy InstalledPackage.name samples) :
    ∃ state, Snapshot.make binding samples = .ok state ∧ state.packages = samples := by
  obtain ⟨state, built⟩ := Snapshot.make_of_distinct (fun _ member => bound (subset member))
    (nodup_map_key sorted) (distinctIdentities subset)
  have perm := (Snapshot.make_ok built).2
  exact ⟨state, built, state.sorted.ext sorted fun _ => perm.mem_iff⟩

theorem Fixture.ownershipRecord_unowned {samples : List (InstalledPackage Sha256.hash)}
    (claims : ownershipClaims samples = []) :
    ownershipRecord (gather (ownershipClaims samples)) = .ok unownedRecord := by
  rw [claims]
  rfl

theorem Fixture.ownershipRecord_owning {samples : List (InstalledPackage Sha256.hash)}
    (claims : ownershipClaims samples = [(directory.path.string, owningPackage.identity)]) :
    ownershipRecord (gather (ownershipClaims samples)) = .ok (owningRecord owningPackage) := by
  rw [claims]
  rfl

/-- The state of the samples with its package installed. -/
def Fixture.installed : Snapshot Sha256.hash :=
  .unowned binding [package] (List.pairwise_singleton _ _)
    (fun _ member => List.mem_singleton.mp member ▸ rfl)
    (fun _ member => List.mem_singleton.mp member ▸ rfl)

/-- The state of the samples with two packages. -/
def Fixture.installedPair : Snapshot Sha256.hash :=
  .unowned binding (numberedPackages binding 2) (List.pairwise_pair.mpr (by decide +kernel))
    (fun _ member => (mem_numberedPackages member).1)
    (fun _ member => (mem_numberedPackages member).2.1)

theorem Fixture.installed_subset : installed.packages ⊆ numberedPackages binding 2 :=
  fun _ member => List.mem_singleton.mp member ▸ package_mem

theorem Fixture.installed_samples : installed.packages ⊆ packages :=
  List.Subset.trans installed_subset numberedPackages_subset

/-- The numbered packages make a snapshot. -/
theorem make_numberedPackages (binding : StateTargetBinding sha256) {count : Nat}
    (few : count ≤ 256 ^ 3) :
    ∃ result, Snapshot.make binding (numberedPackages binding count) = .ok result :=
  Snapshot.make_of_unowned (fun _ member => (mem_numberedPackages member).1)
    (nodup_numberedPackages binding few) (fun _ member => (mem_numberedPackages member).2.1)

end Pkgstate
