import Pkgstate.CanonicalRecord
import Pkgstate.PackagePath

/-!
# Owned entries

`owned_entry`: one path of a package's manifest, the installed object at it and
where that object came from.
-/

namespace Pkgstate

open Wire Cpp

/-! ## Enumerations -/

/-- `owned_object_kind`. -/
inductive OwnedObjectKind
  | regular
  | directory
  | symlink
  | fifo
  | characterDevice
  | blockDevice
  | socket
  | other
deriving DecidableEq

instance : ByteEnum OwnedObjectKind where
  toByte
    | .regular => 1
    | .directory => 2
    | .symlink => 3
    | .fifo => 4
    | .characterDevice => 5
    | .blockDevice => 6
    | .socket => 7
    | .other => 8
  ofByte
    | 1 => some .regular
    | 2 => some .directory
    | 3 => some .symlink
    | 4 => some .fifo
    | 5 => some .characterDevice
    | 6 => some .blockDevice
    | 7 => some .socket
    | 8 => some .other
    | _ => none
  ofByte_toByte value := by cases value <;> rfl
  toByte_ofByte read := by split at read <;> cases read <;> rfl

/-- `active_object_origin`. -/
inductive ActiveObjectOrigin
  | incomingPayload
  | retainedExisting
deriving DecidableEq

instance : ByteEnum ActiveObjectOrigin where
  toByte
    | .incomingPayload => 1
    | .retainedExisting => 2
  ofByte
    | 1 => some .incomingPayload
    | 2 => some .retainedExisting
    | _ => none
  ofByte_toByte value := by cases value <;> rfl
  toByte_ofByte read := by split at read <;> cases read <;> rfl

/-- `rejected_object_side`. -/
inductive RejectedObjectSide
  | incoming
  | priorInstalled
deriving DecidableEq

instance : ByteEnum RejectedObjectSide where
  toByte
    | .incoming => 1
    | .priorInstalled => 2
  ofByte
    | 1 => some .incoming
    | 2 => some .priorInstalled
    | _ => none
  ofByte_toByte value := by cases value <;> rfl
  toByte_ofByte read := by split at read <;> cases read <;> rfl

/-! ## Object metadata -/

/-- `installed_object_timestamp`. -/
structure InstalledObjectTimestamp where
  seconds : Int64
  nanoseconds : UInt32
  valid : nanoseconds < 1000000000
deriving DecidableEq

namespace InstalledObjectTimestamp

/-- The constructor `installed_object_timestamp`. -/
def make (seconds : Int64) (nanoseconds : UInt32) : Except Failure InstalledObjectTimestamp :=
  if valid : nanoseconds < 1000000000 then .ok { seconds, nanoseconds, valid }
  else .error (.stateError (ascii "installed object nanoseconds are out of range"))

theorem make_self (value : InstalledObjectTimestamp) :
    make value.seconds value.nanoseconds = .ok value :=
  dif_pos value.valid

end InstalledObjectTimestamp

/-- `installed_device_number`. -/
structure InstalledDeviceNumber where
  major : UInt64
  minor : UInt64
deriving DecidableEq

/-- `text_safe` of `owned_entry.cpp`: no control bytes at all. -/
def targetTextSafe (value : Bytes) : Bool :=
  !value.isEmpty && value.all fun byte =>
    !(byte == 0 || byte == 10 || byte == 13 || byte < 0x20 || byte == 0x7f)

/-- `validate_object_shape`. -/
def validateObjectShape (kind : OwnedObjectKind) (size : Option UInt64)
    (regularContent : Option InstalledRegularContentIdentity) (symlinkTarget : Option StdString)
    (device : Option InstalledDeviceNumber) (hardlinkAnchor : Option PackagePath) :
    Except Failure Unit :=
  let regular := kind == .regular
  let symlink := kind == .symlink
  let deviceObject := kind == .characterDevice || kind == .blockDevice
  if regular != size.isSome || regular != regularContent.isSome then
    .error (.stateError (ascii "regular installed object lacks size or content identity"))
  else if !regular && hardlinkAnchor.isSome then
    .error (.stateError (ascii "non-regular installed object has a hard-link anchor"))
  else if symlink != symlinkTarget.isSome then
    .error (.stateError (ascii "installed symlink target shape is invalid"))
  else if symlinkTarget.any fun target => !targetTextSafe target.bytes then
    .error (.stateError (ascii "installed symlink target is invalid"))
  else if deviceObject != device.isSome then
    .error (.stateError (ascii "installed device-number shape is invalid"))
  else .ok ()

/-- The checks of the `installed_object_metadata` constructor after its kind. -/
def validateObject (kind : OwnedObjectKind) (mode : UInt32) (size : Option UInt64)
    (regularContent : Option InstalledRegularContentIdentity) (symlinkTarget : Option StdString)
    (device : Option InstalledDeviceNumber) (hardlinkAnchor : Option PackagePath) :
    Except Failure Unit :=
  if mode &&& ~~~4095 ≠ 0 then
    .error (.stateError (ascii "installed object mode contains type or unknown bits"))
  else validateObjectShape kind size regularContent symlinkTarget device hardlinkAnchor

/-- `installed_object_metadata`. -/
structure InstalledObjectMetadata where
  kind : OwnedObjectKind
  mode : UInt32
  uid : UInt64
  gid : UInt64
  mtime : InstalledObjectTimestamp
  size : Option UInt64
  regularContent : Option InstalledRegularContentIdentity
  symlinkTarget : Option StdString
  device : Option InstalledDeviceNumber
  hardlinkAnchor : Option PackagePath
  valid : validateObject kind mode size regularContent symlinkTarget device hardlinkAnchor = .ok ()
deriving DecidableEq

namespace InstalledObjectMetadata

/-- The constructor `installed_object_metadata`. -/
def make (kind : UInt8) (mode : UInt32) (uid gid : UInt64) (mtime : InstalledObjectTimestamp)
    (size : Option UInt64) (regularContent : Option InstalledRegularContentIdentity)
    (symlinkTarget : Option StdString) (device : Option InstalledDeviceNumber)
    (hardlinkAnchor : Option PackagePath) : Except Failure InstalledObjectMetadata := do
  let kind ← ByteEnum.declared (.stateError (ascii "invalid owned object kind")) kind
  checked (validateObject kind mode size regularContent symlinkTarget device hardlinkAnchor)
    fun valid =>
      { kind, mode, uid, gid, mtime, size, regularContent, symlinkTarget, device,
        hardlinkAnchor, valid }

theorem make_self (value : InstalledObjectMetadata) :
    make (toByte value.kind) value.mode value.uid value.gid value.mtime value.size
      value.regularContent value.symlinkTarget value.device value.hardlinkAnchor = .ok value := by
  rw [make, ByteEnum.declared_toByte]
  exact checked_of_ok value.valid

end InstalledObjectMetadata

/-! ## Entries -/

/-- `rejected_object_reference`. -/
structure RejectedObjectReference where
  side : RejectedObjectSide
  identity : RejectedObjectIdentity
deriving DecidableEq

namespace RejectedObjectReference

/-- The constructor `rejected_object_reference`. -/
def make (side : UInt8) (identity : RejectedObjectIdentity) :
    Except Failure RejectedObjectReference := do
  let side ← ByteEnum.declared (.stateError (ascii "invalid rejected object side")) side
  pure { side, identity }

theorem make_self (value : RejectedObjectReference) :
    make (toByte value.side) value.identity = .ok value := by
  rw [make, ByteEnum.declared_toByte]
  rfl

end RejectedObjectReference

/-- `owned_entry`. -/
structure OwnedEntry where
  path : PackagePath
  object : InstalledObjectMetadata
  origin : ActiveObjectOrigin
  rejected : Option RejectedObjectReference
deriving DecidableEq

namespace OwnedEntry

/-- `owned_entry::make`. -/
def make (path : PackagePath) (object : InstalledObjectMetadata) (origin : UInt8)
    (rejected : Option RejectedObjectReference) : Except Failure OwnedEntry := do
  let origin ← ByteEnum.declared (.stateError (ascii "invalid active object origin")) origin
  pure { path, object, origin, rejected }

theorem make_self (value : OwnedEntry) :
    make value.path value.object (toByte value.origin) value.rejected = .ok value := by
  rw [make, ByteEnum.declared_toByte]
  rfl

end OwnedEntry

/-! ## Layout -/

/-- The fields of a device number. -/
def deviceFields (device : InstalledDeviceNumber) : Bytes :=
  u64Bytes device.major ++ u64Bytes device.minor

section Layout

variable (digest : {Tag : Type} → {domain : Tag} → TypedDigest domain → Bytes)

/-- The fields of an installed object. -/
def objectFields (object : InstalledObjectMetadata) : Bytes :=
  [toByte object.kind] ++ u32Bytes object.mode ++ u64Bytes object.uid ++ u64Bytes object.gid ++
    i64Bytes object.mtime.seconds ++ u32Bytes object.mtime.nanoseconds ++
    optionalBytes u64Bytes object.size ++
    optionalBytes (fun content : InstalledRegularContentIdentity => digest content)
      object.regularContent ++
    optionalBytes (fun target : StdString => stringBytes target.bytes) object.symlinkTarget ++
    optionalBytes deviceFields object.device ++
    optionalBytes (fun anchor : PackagePath => stringBytes anchor.string.bytes)
      object.hardlinkAnchor

/-- The fields of a rejected object reference. -/
def rejectedFields (rejected : RejectedObjectReference) : Bytes :=
  [toByte rejected.side] ++ digest rejected.identity

/-- The fields of an entry, as receipts hash them and generations store them. -/
def entryFields (entry : OwnedEntry) : Bytes :=
  stringBytes entry.path.string.bytes ++ objectFields digest entry.object ++
    [toByte entry.origin] ++ optionalBytes (rejectedFields digest) entry.rejected

end Layout

theorem selfDelimiting_path :
    SelfDelimiting fun path : PackagePath => stringBytes path.string.bytes :=
  SelfDelimiting.string.comap PackagePath.string_inj

theorem selfDelimiting_deviceFields : SelfDelimiting deviceFields := by
  refine ⟨fun {a b s t} same => ?_⟩
  simp only [deviceFields, List.append_assoc] at same
  obtain ⟨major, same⟩ := SelfDelimiting.u64.strip same
  obtain ⟨minor, same⟩ := SelfDelimiting.u64.strip same
  refine ⟨?_, same⟩
  cases a
  cases b
  cases major
  cases minor
  rfl

section Digest

variable {digest : {Tag : Type} → {domain : Tag} → TypedDigest domain → Bytes}
  (delimiting : ∀ {Tag : Type} {domain : Tag},
    SelfDelimiting fun value : TypedDigest domain => digest value)

include delimiting

theorem selfDelimiting_objectFields : SelfDelimiting (objectFields digest) := by
  refine ⟨fun {a b s t} same => ?_⟩
  simp only [objectFields, List.append_assoc] at same
  obtain ⟨kind, same⟩ := SelfDelimiting.enumeration.strip same
  obtain ⟨mode, same⟩ := SelfDelimiting.u32.strip same
  obtain ⟨uid, same⟩ := SelfDelimiting.u64.strip same
  obtain ⟨gid, same⟩ := SelfDelimiting.u64.strip same
  obtain ⟨seconds, same⟩ := SelfDelimiting.i64.strip same
  obtain ⟨nanoseconds, same⟩ := SelfDelimiting.u32.strip same
  obtain ⟨size, same⟩ := SelfDelimiting.u64.optional.strip same
  obtain ⟨regularContent, same⟩ := (SelfDelimiting.optional delimiting).strip same
  obtain ⟨symlinkTarget, same⟩ := SelfDelimiting.string.optional.strip same
  obtain ⟨device, same⟩ := selfDelimiting_deviceFields.optional.strip same
  obtain ⟨hardlinkAnchor, same⟩ := selfDelimiting_path.optional.strip same
  refine ⟨?_, same⟩
  rcases a with ⟨_, _, _, _, ⟨_, _, _⟩, _, _, _, _, _, _⟩
  rcases b with ⟨_, _, _, _, ⟨_, _, _⟩, _, _, _, _, _, _⟩
  cases kind
  cases mode
  cases uid
  cases gid
  cases seconds
  cases nanoseconds
  cases size
  cases regularContent
  cases symlinkTarget
  cases device
  cases hardlinkAnchor
  rfl

theorem selfDelimiting_rejectedFields : SelfDelimiting (rejectedFields digest) := by
  refine ⟨fun {a b s t} same => ?_⟩
  simp only [rejectedFields, List.append_assoc] at same
  obtain ⟨side, same⟩ := SelfDelimiting.enumeration.strip same
  obtain ⟨identity, same⟩ := delimiting.strip same
  refine ⟨?_, same⟩
  cases a
  cases b
  cases side
  cases identity
  rfl

theorem selfDelimiting_entryFields : SelfDelimiting (entryFields digest) := by
  refine ⟨fun {a b s t} same => ?_⟩
  simp only [entryFields, List.append_assoc] at same
  obtain ⟨path, same⟩ := selfDelimiting_path.strip same
  obtain ⟨object, same⟩ := (selfDelimiting_objectFields delimiting).strip same
  obtain ⟨origin, same⟩ := SelfDelimiting.enumeration.strip same
  obtain ⟨rejected, same⟩ := (selfDelimiting_rejectedFields delimiting).optional.strip same
  refine ⟨?_, same⟩
  cases a
  cases b
  cases path
  cases object
  cases origin
  cases rejected
  rfl

end Digest

end Pkgstate
