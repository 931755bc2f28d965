import Pkgstate.CanonicalRecord

/-!
# Target bindings

`state_target_binding`: the five identities that name one managed target, and
the identity of their record.
-/

namespace Pkgstate

open Wire Cpp

/-- The five authorities of a binding: the arguments of `identify_binding`. -/
structure TargetAuthorities where
  managedTarget : ManagedTargetIdentity
  stateStore : StateStoreIdentity
  rootView : RootViewIdentity
  stateBackend : StateBackendIdentity
  publicationDomain : PublicationDomainIdentity
deriving DecidableEq

section Layout

variable (digest : {Tag : Type} → {domain : Tag} → TypedDigest domain → Bytes)

/-- The fields of a binding, in the order of `identify_binding` and of
`encode_binding_fields`. -/
def bindingFields (authorities : TargetAuthorities) : Bytes :=
  digest authorities.managedTarget ++ digest authorities.stateStore ++
    digest authorities.rootView ++ digest authorities.stateBackend ++
    digest authorities.publicationDomain

end Layout

theorem selfDelimiting_bindingFields
    {digest : {Tag : Type} → {domain : Tag} → TypedDigest domain → Bytes}
    (delimiting : ∀ {Tag : Type} {domain : Tag},
      SelfDelimiting fun value : TypedDigest domain => digest value) :
    SelfDelimiting (bindingFields digest) := by
  refine ⟨fun {a b s t} same => ?_⟩
  simp only [bindingFields, List.append_assoc] at same
  obtain ⟨managedTarget, same⟩ := delimiting.strip same
  obtain ⟨stateStore, same⟩ := delimiting.strip same
  obtain ⟨rootView, same⟩ := delimiting.strip same
  obtain ⟨stateBackend, same⟩ := delimiting.strip same
  obtain ⟨publicationDomain, same⟩ := delimiting.strip same
  refine ⟨?_, same⟩
  cases a
  cases b
  cases managedTarget
  cases stateStore
  cases rootView
  cases stateBackend
  cases publicationDomain
  rfl

/-- The canonical record of `identify_binding`. -/
def TargetAuthorities.record (authorities : TargetAuthorities) : Bytes :=
  CanonicalRecord.header .stateTargetBinding ++
    bindingFields CanonicalRecord.appendDigest authorities

/-- Different authorities hash different records. -/
theorem TargetAuthorities.record_inj {a b : TargetAuthorities} (same : a.record = b.record) :
    a = b :=
  (selfDelimiting_bindingFields CanonicalRecord.selfDelimiting_appendDigest).injective
    (List.append_cancel_left same)

/-- `state_target_binding`. -/
structure StateTargetBinding (sha256 : Sha256) extends TargetAuthorities where
  identity : StateTargetBindingIdentity
  identity_eq : identity = identifyRecord sha256 toTargetAuthorities.record
deriving DecidableEq

namespace StateTargetBinding

variable {sha256 : Sha256}

theorem toTargetAuthorities_inj {a b : StateTargetBinding sha256}
    (same : a.toTargetAuthorities = b.toTargetAuthorities) : a = b := by
  rcases a with ⟨a, _, aEq⟩
  rcases b with ⟨b, _, bEq⟩
  cases same
  cases aEq
  cases bEq
  rfl

/-- Unless the records of two targets collide, targets of one identity are equal. -/
theorem eq_of_identity_eq {records : List Bytes} (free : CollisionFree sha256 records)
    {a b : StateTargetBinding sha256} (aHashed : a.toTargetAuthorities.record ∈ records)
    (bHashed : b.toTargetAuthorities.record ∈ records) (same : a.identity = b.identity) :
    a = b := by
  rw [a.identity_eq, b.identity_eq] at same
  exact toTargetAuthorities_inj
    (TargetAuthorities.record_inj (free.record_eq aHashed bHashed same))

/-- `state_target_binding::make`. -/
def make (sha256 : Sha256) (managedTarget : ManagedTargetIdentity)
    (stateStore : StateStoreIdentity) (rootView : RootViewIdentity)
    (stateBackend : StateBackendIdentity) (publicationDomain : PublicationDomainIdentity) :
    StateTargetBinding sha256 :=
  { managedTarget, stateStore, rootView, stateBackend, publicationDomain
    identity := _
    identity_eq := rfl }

theorem make_self (value : StateTargetBinding sha256) :
    make sha256 value.managedTarget value.stateStore value.rootView value.stateBackend
      value.publicationDomain = value :=
  toTargetAuthorities_inj rfl

end StateTargetBinding

end Pkgstate
