import Pkgstate.CanonicalRecord

/-!
# The framing of canonical records

A `canonical_record` starts with a magic, a version and its domain, and then holds
whatever its caller appends. Every call writes a field that says where it ends, so
no content forges another record: records of different domains are not even
prefixes of each other, and records of one domain that were written by calls of the
same kinds were written with the same arguments (`framing_injective`).
-/

namespace Pkgstate

open Wire Cpp

namespace CanonicalRecord

/-- A call of one of the `append` functions. Both overloads of `append_bytes` write
the size and the bytes. -/
inductive Call
  | appendBool (value : Bool)
  | appendU8 (value : UInt8)
  | appendU16 (value : UInt16)
  | appendU32 (value : UInt32)
  | appendU64 (value : UInt64)
  | appendI64 (value : Int64)
  | appendBytes (value : StdString)
  | appendDigest (value : DigestValue)

/-- Which of the `append` functions is called. -/
inductive CallKind
  | appendBool
  | appendU8
  | appendU16
  | appendU32
  | appendU64
  | appendI64
  | appendBytes
  | appendDigest
deriving DecidableEq

namespace Call

/-- The function that a call calls. -/
def kind : Call → CallKind
  | .appendBool _ => .appendBool
  | .appendU8 _ => .appendU8
  | .appendU16 _ => .appendU16
  | .appendU32 _ => .appendU32
  | .appendU64 _ => .appendU64
  | .appendI64 _ => .appendI64
  | .appendBytes _ => .appendBytes
  | .appendDigest _ => .appendDigest

/-- The bytes that a call pushes back. -/
def bytes : Call → Bytes
  | .appendBool value => boolBytes value
  | .appendU8 value => [value]
  | .appendU16 value => u16Bytes value
  | .appendU32 value => u32Bytes value
  | .appendU64 value => u64Bytes value
  | .appendI64 value => i64Bytes value
  | .appendBytes value => stringBytes value.bytes
  | .appendDigest value => CanonicalRecord.appendDigest (⟨value⟩ : TypedDigest ())

/-- The field of each kind is self-delimiting. -/
theorem strip {a b : Call} {s t : Bytes} (kinds : a.kind = b.kind)
    (same : a.bytes ++ s = b.bytes ++ t) : a = b ∧ s = t := by
  cases a with
  | appendBool left =>
      cases b with
      | appendBool right =>
          obtain ⟨rfl, tails⟩ := SelfDelimiting.boolean.strip same
          exact ⟨rfl, tails⟩
      | _ => cases kinds
  | appendU8 left =>
      cases b with
      | appendU8 right =>
          obtain ⟨rfl, tails⟩ := SelfDelimiting.u8.strip same
          exact ⟨rfl, tails⟩
      | _ => cases kinds
  | appendU16 left =>
      cases b with
      | appendU16 right =>
          obtain ⟨rfl, tails⟩ := SelfDelimiting.u16.strip same
          exact ⟨rfl, tails⟩
      | _ => cases kinds
  | appendU32 left =>
      cases b with
      | appendU32 right =>
          obtain ⟨rfl, tails⟩ := SelfDelimiting.u32.strip same
          exact ⟨rfl, tails⟩
      | _ => cases kinds
  | appendU64 left =>
      cases b with
      | appendU64 right =>
          obtain ⟨rfl, tails⟩ := SelfDelimiting.u64.strip same
          exact ⟨rfl, tails⟩
      | _ => cases kinds
  | appendI64 left =>
      cases b with
      | appendI64 right =>
          obtain ⟨rfl, tails⟩ := SelfDelimiting.i64.strip same
          exact ⟨rfl, tails⟩
      | _ => cases kinds
  | appendBytes left =>
      cases b with
      | appendBytes right =>
          obtain ⟨rfl, tails⟩ := SelfDelimiting.string.strip same
          exact ⟨rfl, tails⟩
      | _ => cases kinds
  | appendDigest left =>
      cases b with
      | appendDigest right =>
          obtain ⟨digests, tails⟩ := selfDelimiting_appendDigest.strip same
          cases digests
          exact ⟨rfl, tails⟩
      | _ => cases kinds

end Call

/-! ## Records -/

/-- The constructor `canonical_record(domain)`, for any text. -/
def construct (domain : StdString) : Except Failure Bytes := do
  validateDomain domain.bytes
  pure (recordMagic ++ (u16Bytes canonicalRecordEncodingVersion ++ stringBytes domain.bytes))

/-- A call appends to the bytes of the record. -/
def append (record : Bytes) (call : Call) : Bytes := record ++ call.bytes

/-- `bytes()` after the constructor and some calls. -/
def record (domain : StdString) (calls : List Call) : Except Failure Bytes := do
  let bytes ← construct domain
  pure (calls.foldl append bytes)

/-- The records of the identities are built by this constructor. -/
theorem construct_canonicalDomain (domain : IdentityDomain) (size_lt) :
    construct ⟨domain.canonicalDomain, size_lt⟩ = .ok (header domain) := by
  rw [construct, validateDomain_canonicalDomain]
  rfl

theorem foldl_append (bytes : Bytes) (calls : List Call) :
    calls.foldl append bytes = bytes ++ calls.flatMap Call.bytes := by
  induction calls generalizing bytes with
  | nil => exact (List.append_nil bytes).symm
  | cons call calls ih => rw [List.foldl_cons, ih, append, List.append_assoc, List.flatMap_cons]

theorem record_eq_ok {domain : StdString} {calls : List Call} {bytes : Bytes}
    (built : record domain calls = .ok bytes) :
    bytes = recordMagic ++ (u16Bytes canonicalRecordEncodingVersion ++
      (stringBytes domain.bytes ++ calls.flatMap Call.bytes)) := by
  obtain ⟨start, constructed, built⟩ := bind_eq_ok.mp built
  obtain ⟨_, _, constructed⟩ := bind_eq_ok.mp constructed
  cases constructed
  cases built
  rw [foldl_append, List.append_assoc, List.append_assoc]

/-- Records that continue to one byte string have one domain and the same fields
behind it. -/
theorem strip_record {first second : StdString} {calls others : List Call}
    {left right s t : Bytes} (leftBuilt : record first calls = .ok left)
    (rightBuilt : record second others = .ok right) (same : left ++ s = right ++ t) :
    first = second ∧ calls.flatMap Call.bytes ++ s = others.flatMap Call.bytes ++ t := by
  rw [record_eq_ok leftBuilt, record_eq_ok rightBuilt] at same
  simp only [List.append_assoc, List.append_cancel_left_eq] at same
  exact SelfDelimiting.string.strip same

/-- The framing separates domains, whatever was appended, and under one domain it
determines the arguments of the calls from their kinds. -/
theorem framing_injective {first second : StdString} {calls others : List Call}
    {left right : Bytes} (leftBuilt : record first calls = .ok left)
    (rightBuilt : record second others = .ok right) :
    (first ≠ second → left ≠ right ∧ ¬ left <+: right ∧ ¬ right <+: left) ∧
      (first = second → calls.map Call.kind = others.map Call.kind → left = right →
        calls = others) := by
  constructor
  · intro different
    have leftPrefix : ¬ left <+: right := by
      rintro ⟨rest, whole⟩
      exact different (strip_record leftBuilt rightBuilt (whole.trans (right.append_nil).symm)).1
    have rightPrefix : ¬ right <+: left := by
      rintro ⟨rest, whole⟩
      exact different
        (strip_record rightBuilt leftBuilt (whole.trans (left.append_nil).symm)).1.symm
    refine ⟨?_, leftPrefix, rightPrefix⟩
    rintro rfl
    exact leftPrefix (List.prefix_refl left)
  · rintro _ kinds rfl
    obtain ⟨_, fields⟩ := strip_record (s := []) (t := []) leftBuilt rightBuilt rfl
    exact (SelfDelimiting.flatMap_of_kinds Call.strip kinds fields).1

theorem framing_injective_domains :
    ∃ (first second same : StdString) (left right : Bytes),
      record first [.appendBytes same] = .ok left ∧
      record second [.appendBytes same] = .ok right ∧
      left ≠ right ∧ ¬ left <+: right ∧ ¬ right <+: left := by
  let first : StdString := ⟨ascii "pkgstate/domain-a/1", by decide⟩
  let second : StdString := ⟨ascii "pkgstate/domain-b/1", by decide⟩
  let same : StdString := ⟨ascii "same", by decide⟩
  have different : first ≠ second := by
    intro equal
    exact absurd (congrArg StdString.bytes equal) (by decide)
  have leftBuilt : record first [.appendBytes same] = .ok _ := rfl
  have rightBuilt : record second [.appendBytes same] = .ok _ := rfl
  exact ⟨first, second, same, _, _, leftBuilt, rightBuilt,
    (framing_injective leftBuilt rightBuilt).1 different⟩

-- The size of the test vector in `canonical_record_test.cpp`.
example : (record ⟨ascii "pkgstate/test-vector/1", by decide⟩
    [.appendBool true, .appendU8 0x7f, .appendU16 0x0123, .appendU32 0x456789ab,
      .appendU64 0xcdef0123456789ab, .appendBytes ⟨ascii "alpha", by decide⟩,
      .appendBytes ⟨[], by decide⟩,
      .appendDigest (.fromSha256 ⟨((List.range 32).map Nat.toUInt8).toArray, by decide⟩)]).map
      List.length = .ok 122 := by
  decide +kernel

end CanonicalRecord

end Pkgstate
