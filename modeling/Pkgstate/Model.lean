import Pkgstate.Digest

/-!
# Source-level model values

The validated values of `model.h`. Every constructor is translated as a `make`
function that runs the source's checks in the source's order; each structure
keeps the fact that they passed, so that an invalid value cannot be built and
rebuilding a value from its own fields always succeeds (the `make_self`
theorems).
-/

namespace Pkgstate

open Wire Cpp Keyed

/-! ## Text predicates -/

/-- `canonical_atom`: a lowercase letter, then letters, digits and `+._-`, after
an `@` when one is asked for. -/
def canonicalAtom (value : Bytes) (allowAt : Bool) : Bool :=
  let isLower (byte : UInt8) : Bool := 97 ≤ byte && byte ≤ 122
  let isDigit (byte : UInt8) : Bool := 48 ≤ byte && byte ≤ 57
  let isMark (byte : UInt8) : Bool := byte == 43 || byte == 46 || byte == 95 || byte == 45
  let atom (body : Bytes) : Bool :=
    match body with
    | [] => false
    | first :: rest =>
        isLower first && rest.all fun byte => isLower byte || isDigit byte || isMark byte
  if allowAt then
    match value with
    | 64 :: body => atom body
    | _ => false
  else atom value

/-- `line_safe`: not empty and without control bytes. -/
def lineSafe (value : Bytes) : Bool :=
  !value.isEmpty && value.all fun byte =>
    !(byte == 0 || byte == 10 || byte == 13 || byte < 0x20 || byte == 0x7f)

/-- `text_safe`: line feeds and tabs are allowed as well. -/
def textSafe (value : Bytes) : Bool :=
  !value.isEmpty && value.all fun byte =>
    !(byte == 0 || (byte < 0x20 && byte != 10 && byte != 9) || byte == 0x7f)

/-- `sort_unique(values, label)`. -/
def sortUnique {α β : Type} [Less α] [StrictTotal α] [DecidableEq α] (label : String)
    (values : StdVector α)
    (next : (sorted : SortedVector (id : α → α)) → sorted.toList.Perm values.toList →
      Except Failure β) : Except Failure β :=
  sortDistinct (refines_less_key id)
    (fun _ => .stateError (ascii "duplicate normalized " ++ ascii label)) values next

theorem sortUnique_sorted {α β : Type} [Less α] [StrictTotal α] [DecidableEq α] (label : String)
    (values : SortedVector (id : α → α))
    (next : (sorted : SortedVector (id : α → α)) → sorted.toList.Perm values.toList →
      Except Failure β) :
    sortUnique label values.toStdVector next = next values (List.Perm.refl _) :=
  sortDistinct_sorted values next

/-! ## Enumerations -/

/-- `lifecycle_action`. -/
inductive LifecycleAction
  | preInstall
  | postInstall
  | preRemove
  | postRemove
deriving DecidableEq

instance : ByteEnum LifecycleAction where
  toByte
    | .preInstall => 1
    | .postInstall => 2
    | .preRemove => 3
    | .postRemove => 4
  ofByte
    | 1 => some .preInstall
    | 2 => some .postInstall
    | 3 => some .preRemove
    | 4 => some .postRemove
    | _ => none
  ofByte_toByte value := by cases value <;> rfl
  toByte_ofByte read := by split at read <;> cases read <;> rfl

/-- `program_language`. -/
inductive ProgramLanguage
  | posixShell
deriving DecidableEq

instance : ByteEnum ProgramLanguage where
  toByte
    | .posixShell => 1
  ofByte
    | 1 => some .posixShell
    | _ => none
  ofByte_toByte value := by cases value; rfl
  toByte_ofByte read := by
    split at read <;> cases read
    rfl

/-- `requirement_member_kind`. -/
inductive RequirementMemberKind
  | package
  | profile
deriving DecidableEq

instance : ByteEnum RequirementMemberKind where
  toByte
    | .package => 1
    | .profile => 2
  ofByte
    | 1 => some .package
    | 2 => some .profile
    | _ => none
  ofByte_toByte value := by cases value <;> rfl
  toByte_ofByte read := by split at read <;> cases read <;> rfl

instance : Less LifecycleAction := .on toByte
instance : StrictTotal LifecycleAction := .on toByte ByteEnum.toByte_inj

instance : Less ProgramLanguage := .on toByte
instance : StrictTotal ProgramLanguage := .on toByte ByteEnum.toByte_inj

instance : Less RequirementMemberKind := .on toByte
instance : StrictTotal RequirementMemberKind := .on toByte ByteEnum.toByte_inj

/-- `validate_lifecycle`. -/
def validateLifecycle (action : UInt8) : Except Failure LifecycleAction :=
  ByteEnum.declared (.stateError (ascii "invalid lifecycle action")) action

/-- `validate_program_language`. -/
def validateProgramLanguage (language : UInt8) : Except Failure ProgramLanguage :=
  ByteEnum.declared (.stateError (ascii "invalid program language")) language

/-! ## References -/

/-- The classes of canonical names. -/
inductive ReferenceKind
  | package
  | profile
  | architecture
deriving DecidableEq

/-- Whether the name starts with an `@`. -/
def ReferenceKind.allowAt : ReferenceKind → Bool
  | .package => false
  | .profile => true
  | .architecture => false

/-- What the refusal calls the name. -/
def ReferenceKind.invalid : ReferenceKind → Bytes
  | .package => ascii "invalid canonical package reference: "
  | .profile => ascii "invalid canonical profile reference: "
  | .architecture => ascii "invalid canonical architecture reference: "

/-- A canonical name of one class. -/
structure CanonicalReference (kind : ReferenceKind) where
  name : StdString
  canonical : canonicalAtom name.bytes kind.allowAt = true
deriving DecidableEq

/-- `package_reference`. -/
abbrev PackageReference := CanonicalReference .package

/-- `profile_reference`. -/
abbrev ProfileReference := CanonicalReference .profile

/-- `architecture_reference`. -/
abbrev ArchitectureReference := CanonicalReference .architecture

namespace CanonicalReference

variable {kind : ReferenceKind}

theorem name_inj {a b : CanonicalReference kind} (same : a.name = b.name) : a = b := by
  cases a
  cases b
  cases same
  rfl

instance : Less (CanonicalReference kind) := .on CanonicalReference.name
instance : StrictTotal (CanonicalReference kind) := .on CanonicalReference.name name_inj

/-- The constructors of the three classes. -/
def make (name : StdString) : Except Failure (CanonicalReference kind) :=
  if canonical : canonicalAtom name.bytes kind.allowAt = true then .ok ⟨name, canonical⟩
  else .error (.identityError (kind.invalid ++ name.bytes))

theorem make_self (reference : CanonicalReference kind) :
    (make reference.name : Except Failure (CanonicalReference kind)) = .ok reference :=
  dif_pos reference.canonical

/-- Canonical package names stay on one line. -/
theorem lineSafe (reference : PackageReference) :
    LineSafe reference.name.bytes := by
  rcases reference with ⟨⟨bytes, _⟩, canonical⟩
  cases bytes with
  | nil => cases canonical
  | cons first rest =>
      simp only [canonicalAtom, ReferenceKind.allowAt, Bool.false_eq_true, if_false,
        Bool.and_eq_true, List.all_eq_true, decide_eq_true_eq] at canonical
      refine ⟨List.cons_ne_nil _ _, ?_⟩
      intro byte member
      rcases List.mem_cons.mp member with rfl | later
      · refine ⟨?_, ?_, ?_⟩ <;>
          (rintro rfl
           exact absurd canonical.1 (by decide))
      · have letter := canonical.2 byte later
        refine ⟨?_, ?_, ?_⟩ <;>
          (rintro rfl
           exact absurd letter (by decide))

end CanonicalReference

/-! ## Declarations and requirements -/

/-- `declaration_provenance`. -/
structure DeclarationProvenance where
  document : StdString
  path : StdString
  line : UInt32
  column : UInt32
  valid : lineSafe document.bytes = true ∧ lineSafe path.bytes = true ∧ line ≠ 0 ∧ column ≠ 0
deriving DecidableEq

namespace DeclarationProvenance

/-- The tuple its `operator<` compares. -/
def tie (value : DeclarationProvenance) : StdString × StdString × UInt32 × UInt32 :=
  (value.document, value.path, value.line, value.column)

theorem tie_inj {a b : DeclarationProvenance} (same : a.tie = b.tie) : a = b := by
  cases a
  cases b
  cases same
  rfl

instance : Less DeclarationProvenance := .on tie
instance : StrictTotal DeclarationProvenance := .on tie tie_inj

/-- The constructor `declaration_provenance`. -/
def make (document path : StdString) (line column : UInt32) :
    Except Failure DeclarationProvenance :=
  if valid : lineSafe document.bytes = true ∧ lineSafe path.bytes = true ∧ line ≠ 0 ∧ column ≠ 0
  then .ok { document, path, line, column, valid }
  else .error (.stateError (ascii "invalid declaration provenance"))

theorem make_self (value : DeclarationProvenance) :
    make value.document value.path value.line value.column = .ok value :=
  dif_pos value.valid

end DeclarationProvenance

/-- `validate_member`, for a declared kind. -/
def validateMember (kind : RequirementMemberKind) (member : StdString) : Except Failure Unit :=
  match kind with
  | .package => do
      let (_ : PackageReference) ← CanonicalReference.make member
      pure ()
  | .profile => do
      let (_ : ProfileReference) ← CanonicalReference.make member
      pure ()

/-- `profile_expansion_step`. -/
structure ProfileExpansionStep where
  profile : ProfileReference
  memberKind : RequirementMemberKind
  member : StdString
  provenance : DeclarationProvenance
  valid : validateMember memberKind member = .ok ()
deriving DecidableEq

namespace ProfileExpansionStep

/-- The tuple its `operator<` compares. -/
def tie (value : ProfileExpansionStep) :
    ProfileReference × RequirementMemberKind × StdString × DeclarationProvenance :=
  (value.profile, value.memberKind, value.member, value.provenance)

theorem tie_inj {a b : ProfileExpansionStep} (same : a.tie = b.tie) : a = b := by
  cases a
  cases b
  cases same
  rfl

instance : Less ProfileExpansionStep := .on tie
instance : StrictTotal ProfileExpansionStep := .on tie tie_inj

/-- The constructor `profile_expansion_step`. -/
def make (profile : ProfileReference) (memberKind : UInt8) (member : StdString)
    (provenance : DeclarationProvenance) : Except Failure ProfileExpansionStep := do
  let memberKind ← ByteEnum.declared
    (.stateError (ascii "invalid requirement member kind")) memberKind
  checked (validateMember memberKind member) fun valid =>
    { profile, memberKind, member, provenance, valid }

theorem make_self (value : ProfileExpansionStep) :
    make value.profile (toByte value.memberKind) value.member value.provenance = .ok value := by
  rw [make, ByteEnum.declared_toByte]
  exact checked_of_ok value.valid

end ProfileExpansionStep

/-- `requirement_origin`. -/
structure RequirementOrigin where
  declaration : DeclarationProvenance
  expansion : StdVector ProfileExpansionStep
deriving DecidableEq

namespace RequirementOrigin

/-- The tuple its `operator<` compares. -/
def tie (value : RequirementOrigin) : DeclarationProvenance × StdVector ProfileExpansionStep :=
  (value.declaration, value.expansion)

theorem tie_inj {a b : RequirementOrigin} (same : a.tie = b.tie) : a = b := by
  cases a
  cases b
  cases same
  rfl

instance : Less RequirementOrigin := .on tie
instance : StrictTotal RequirementOrigin := .on tie tie_inj

end RequirementOrigin

/-- The loop of the `package_requirement` constructor: an expansion ends at the
required package. -/
def validateExpansions (package : PackageReference) (origins : List RequirementOrigin) :
    Except Failure Unit :=
  if origins.all fun origin =>
      match origin.expansion.toList.getLast? with
      | none => true
      | some leaf => leaf.memberKind == .package && leaf.member == package.name
  then .ok ()
  else .error (.stateError
    (ascii "profile expansion does not terminate at requirement package"))

/-- `package_requirement`. -/
structure PackageRequirement where
  package : PackageReference
  origins : SortedVector (id : RequirementOrigin → RequirementOrigin)
  retained : origins.toList ≠ []
  terminates : validateExpansions package origins.toList = .ok ()
deriving DecidableEq

namespace PackageRequirement

/-- The constructor `package_requirement`. -/
def make (package : PackageReference) (origins : StdVector RequirementOrigin) :
    Except Failure PackageRequirement :=
  if retained : origins.toList = [] then
    .error (.stateError (ascii "package requirement has no retained origin"))
  else sortUnique "requirement origin" origins fun sorted arranged =>
    checked (validateExpansions package sorted.toList) fun terminates =>
      { package
        origins := sorted
        retained := fun empty => retained (List.perm_nil.mp (empty ▸ arranged.symm))
        terminates }

theorem make_self (value : PackageRequirement) :
    make value.package value.origins.toStdVector = .ok value := by
  rw [make, dif_neg value.retained, sortUnique_sorted]
  exact checked_of_ok value.terminates

end PackageRequirement

/-! ## Programs -/

/-- `program`. -/
structure Program where
  language : ProgramLanguage
  material : StdString
  valid : textSafe material.bytes = true
deriving DecidableEq

namespace Program

/-- The tuple its `operator<` compares. -/
def tie (value : Program) : ProgramLanguage × StdString := (value.language, value.material)

theorem tie_inj {a b : Program} (same : a.tie = b.tie) : a = b := by
  cases a
  cases b
  cases same
  rfl

instance : Less Program := .on tie
instance : StrictTotal Program := .on tie tie_inj

/-- The constructor `program`. -/
def make (language : UInt8) (material : StdString) : Except Failure Program := do
  let language ← validateProgramLanguage language
  if valid : textSafe material.bytes = true then .ok { language, material, valid }
  else .error (.stateError (ascii "invalid empty or binary program"))

theorem make_self (value : Program) : make (toByte value.language) value.material = .ok value := by
  rw [make, validateProgramLanguage, ByteEnum.declared_toByte]
  exact dif_pos value.valid

end Program

/-- `lifecycle_program`. -/
structure LifecycleProgram where
  action : LifecycleAction
  value : Program
deriving DecidableEq

namespace LifecycleProgram

/-- The tuple its `operator<` compares. -/
def tie (value : LifecycleProgram) : LifecycleAction × Program := (value.action, value.value)

theorem tie_inj {a b : LifecycleProgram} (same : a.tie = b.tie) : a = b := by
  cases a
  cases b
  cases same
  rfl

instance : Less LifecycleProgram := .on tie
instance : StrictTotal LifecycleProgram := .on tie tie_inj

/-- The constructor `lifecycle_program`. -/
def make (action : UInt8) (value : Program) : Except Failure LifecycleProgram := do
  let action ← validateLifecycle action
  pure { action, value }

theorem make_self (value : LifecycleProgram) :
    make (toByte value.action) value.value = .ok value := by
  rw [make, validateLifecycle, ByteEnum.declared_toByte]
  rfl

end LifecycleProgram

/-- `lifecycle_requirement`. -/
structure LifecycleRequirement where
  action : LifecycleAction
  requirement : PackageRequirement
deriving DecidableEq

namespace LifecycleRequirement

/-- The constructor `lifecycle_requirement`. -/
def make (action : UInt8) (requirement : PackageRequirement) :
    Except Failure LifecycleRequirement := do
  let action ← validateLifecycle action
  pure { action, requirement }

theorem make_self (value : LifecycleRequirement) :
    make (toByte value.action) value.requirement = .ok value := by
  rw [make, validateLifecycle, ByteEnum.declared_toByte]
  rfl

end LifecycleRequirement

/-! ## Metadata, profiles and architectures -/

/-- The checks of the `package_metadata` constructor. -/
def validateMetadata (summary : StdString) (description homepage : Option StdString)
    (licenses : List StdString) : Except Failure Unit :=
  if !lineSafe summary.bytes || description.any (fun text => !textSafe text.bytes) ||
      homepage.any (fun text => !lineSafe text.bytes) || licenses.isEmpty then
    .error (.stateError (ascii "invalid package metadata"))
  else if licenses.any fun license => !lineSafe license.bytes then
    .error (.stateError (ascii "invalid package license"))
  else .ok ()

theorem validateMetadata_perm {summary : StdString} {description homepage : Option StdString}
    {licenses arranged : List StdString} (perm : arranged.Perm licenses) :
    validateMetadata summary description homepage arranged =
      validateMetadata summary description homepage licenses := by
  simp only [validateMetadata, perm.any_eq, perm.isEmpty_eq]

/-- `package_metadata`. -/
structure PackageMetadata where
  summary : StdString
  description : Option StdString
  homepage : Option StdString
  licenses : SortedVector (id : StdString → StdString)
  valid : validateMetadata summary description homepage licenses.toList = .ok ()
deriving DecidableEq

namespace PackageMetadata

/-- The constructor `package_metadata`. -/
def make (summary : StdString) (description homepage : Option StdString)
    (licenses : StdVector StdString) : Except Failure PackageMetadata :=
  match valid : validateMetadata summary description homepage licenses.toList with
  | .error failure => .error failure
  | .ok () => sortUnique "package license" licenses fun sorted arranged =>
      .ok { summary, description, homepage
            licenses := sorted
            valid := (validateMetadata_perm arranged).trans valid }

theorem make_self (value : PackageMetadata) :
    make value.summary value.description value.homepage value.licenses.toStdVector =
      .ok value := by
  unfold make
  split
  · next failed =>
      rw [value.valid] at failed
      cases failed
  · rw [sortUnique_sorted]

end PackageMetadata

/-- `selected_profile`. -/
structure SelectedProfile where
  profile : ProfileReference
  identity : SourceProfileIdentity
  declarations : SortedVector (id : DeclarationProvenance → DeclarationProvenance)
  issued : declarations.toList ≠ []
deriving DecidableEq

namespace SelectedProfile

/-- The constructor `selected_profile`. -/
def make (profile : ProfileReference) (identity : SourceProfileIdentity)
    (declarations : StdVector DeclarationProvenance) : Except Failure SelectedProfile :=
  if issued : declarations.toList = [] then
    .error (.stateError (ascii "selected profile has no issuing declaration"))
  else sortUnique "selected-profile declaration" declarations fun sorted arranged =>
    .ok { profile, identity
          declarations := sorted
          issued := fun empty => issued (List.perm_nil.mp (empty ▸ arranged.symm)) }

theorem make_self (value : SelectedProfile) :
    make value.profile value.identity value.declarations.toStdVector = .ok value := by
  rw [make, dif_neg value.issued, sortUnique_sorted]

end SelectedProfile

/-- The membership checks of `architecture_binding::make`. -/
def validateSelection (declaredBuild declaredTarget : List ArchitectureReference)
    (selectedBuild selectedTarget : ArchitectureReference) : Except Failure Unit :=
  if !declaredBuild.isEmpty && !binarySearch selectedBuild declaredBuild then
    .error (.stateError (ascii "selected build architecture is not permitted by source"))
  else if !declaredTarget.isEmpty && !binarySearch selectedTarget declaredTarget then
    .error (.stateError (ascii "selected target architecture is not permitted by source"))
  else .ok ()

/-- `architecture_binding`. -/
structure ArchitectureBinding where
  declaredBuild : SortedVector (id : ArchitectureReference → ArchitectureReference)
  declaredTarget : SortedVector (id : ArchitectureReference → ArchitectureReference)
  selectedBuild : ArchitectureReference
  selectedTarget : ArchitectureReference
  permitted : validateSelection declaredBuild.toList declaredTarget.toList selectedBuild
    selectedTarget = .ok ()
deriving DecidableEq

namespace ArchitectureBinding

/-- `architecture_binding::make`. -/
def make (declaredBuild declaredTarget : StdVector ArchitectureReference)
    (selectedBuild selectedTarget : ArchitectureReference) : Except Failure ArchitectureBinding :=
  sortUnique "declared build architecture" declaredBuild fun declaredBuild _ =>
    sortUnique "declared target architecture" declaredTarget fun declaredTarget _ =>
      checked (validateSelection declaredBuild.toList declaredTarget.toList selectedBuild
          selectedTarget) fun permitted =>
        { declaredBuild, declaredTarget, selectedBuild, selectedTarget, permitted }

theorem make_self (value : ArchitectureBinding) :
    make value.declaredBuild.toStdVector value.declaredTarget.toStdVector value.selectedBuild
      value.selectedTarget = .ok value := by
  rw [make, sortUnique_sorted, sortUnique_sorted]
  exact checked_of_ok value.permitted

end ArchitectureBinding

end Pkgstate
