import Pkgstate.Base.PrefixCode
import Pkgstate.RecordFormats

/-!
# Records written one after the other

A publication record ends with a checksum and holds no length of its own, and its body
is read against an authority. The counts and lengths of the body still say where it
ends, under every authority: the accepted records of all four formats are one prefix
code (`accepted_prefixFree`). So records need no frame, and `recordStreams_torn` says
what a torn stream of them still tells.
-/

namespace Pkgstate

open Wire Cpp

variable {sha256 : Sha256}

/-! ## Publication bodies -/

section Request

variable {a b : PackageStateDelta sha256} {s t : Bytes}

/-- The proposed package of a delta is written within the range of a string. -/
theorem length_proposedBody_le {delta : PackageStateDelta sha256}
    {package : InstalledPackage sha256} (proposes : delta.proposedPackage = some package) :
    (proposedBody package).length ≤ (deltaEncoding delta).length := by
  simp only [deltaEncoding, proposes, optionalBytes, stringBytes, Option.elim_some,
    List.length_append]
  omega

/-- What a delta is written as ends with the delta. -/
theorem deltaEncoding_strip (aSize : (deltaEncoding a).length < 2 ^ 64)
    (bSize : (deltaEncoding b).length < 2 ^ 64)
    (same : deltaEncoding a ++ s = deltaEncoding b ++ t) :
    deltaEncoding a = deltaEncoding b ∧ s = t := by
  suffices tails : s = t by
    subst tails
    exact ⟨List.append_cancel_right same, rfl⟩
  simp only [deltaEncoding, List.append_assoc] at same
  obtain ⟨_, same⟩ := SelfDelimiting.enumeration.strip same
  obtain ⟨_, same⟩ := SelfDelimiting.string.strip same
  obtain ⟨_, same⟩ := selfDelimiting_storedDigest.strip same
  obtain ⟨_, same⟩ := selfDelimiting_storedDigest.strip same
  obtain ⟨_, same⟩ := selfDelimiting_storedDigest.optional.strip same
  simp only [optionalBytes, List.append_assoc] at same
  obtain ⟨presence, same⟩ := SelfDelimiting.boolean.strip same
  cases aProposes : a.proposedPackage with
  | none =>
      cases bProposes : b.proposedPackage with
      | none => simpa [aProposes, bProposes] using same
      | some package => simp [aProposes, bProposes] at presence
  | some package =>
      cases bProposes : b.proposedPackage with
      | none => simp [aProposes, bProposes] at presence
      | some other =>
          rw [aProposes, bProposes] at same
          let aText : StdString :=
            ⟨proposedBody package, (length_proposedBody_le aProposes).trans_lt aSize⟩
          let bText : StdString :=
            ⟨proposedBody other, (length_proposedBody_le bProposes).trans_lt bSize⟩
          exact (SelfDelimiting.string.strip (a := aText) (b := bText) same).2

/-- So do deltas written one after the other. -/
theorem deltas_strip {as bs : List (PackageStateDelta sha256)} (lengths : as.length = bs.length)
    (aSize : ∀ delta ∈ as, (deltaEncoding delta).length < 2 ^ 64)
    (bSize : ∀ delta ∈ bs, (deltaEncoding delta).length < 2 ^ 64)
    (same : as.flatMap deltaEncoding ++ s = bs.flatMap deltaEncoding ++ t) : s = t := by
  induction as generalizing bs with
  | nil =>
      obtain rfl := List.length_eq_zero_iff.mp lengths.symm
      exact same
  | cons a as ih =>
      cases bs with
      | nil => cases lengths
      | cons b bs =>
          simp only [List.flatMap_cons, List.append_assoc] at same
          obtain ⟨_, rest⟩ := deltaEncoding_strip (aSize a (by simp)) (bSize b (by simp)) same
          exact ih (Nat.succ.inj lengths)
            (fun delta member => aSize delta (List.mem_cons_of_mem _ member))
            (fun delta member => bSize delta (List.mem_cons_of_mem _ member)) rest

/-- Each delta of a request takes at most the size of the body. -/
theorem length_deltaEncoding_le {request : StatePublicationRequest sha256}
    {delta : PackageStateDelta sha256} (member : delta ∈ request.deltas.toList) :
    (deltaEncoding delta).length ≤ (requestBody request).length := by
  have inside : (deltaEncoding delta).length ≤
      (request.deltas.toList.flatMap deltaEncoding).length := length_le_flatMap_of_mem member
  simp only [requestBody, countedBytes, List.length_append]
  omega

/-- A request's body ends where its fields do. -/
theorem requestBody_strip {a b : StatePublicationRequest sha256}
    (aSize : (requestBody a).length < 2 ^ 64) (bSize : (requestBody b).length < 2 ^ 64)
    (same : requestBody a ++ s = requestBody b ++ t) : requestBody a = requestBody b ∧ s = t := by
  suffices tails : s = t by
    subst tails
    exact ⟨List.append_cancel_right same, rfl⟩
  simp only [requestBody, countedBytes, List.append_assoc, List.append_cancel_left_eq] at same
  obtain ⟨_, same⟩ := selfDelimiting_storedDigest.strip same
  obtain ⟨_, same⟩ := selfDelimiting_storedDigest.strip same
  obtain ⟨_, same⟩ := selfDelimiting_storedDigest.strip same
  obtain ⟨counts, same⟩ := SelfDelimiting.u64.strip same
  have lengths : a.deltas.toList.length = b.deltas.toList.length := by
    rw [← toNat_length_toUInt64 a.deltas.size_lt, counts, toNat_length_toUInt64 b.deltas.size_lt]
  have evidence := deltas_strip lengths
    (fun delta member => (length_deltaEncoding_le member).trans_lt aSize)
    (fun delta member => (length_deltaEncoding_le member).trans_lt bSize) same
  exact (selfDelimiting_storedDigest.optional.strip evidence).2

end Request

/-- A receipt's body ends where its fields do. -/
theorem receiptBody_strip {a b : StatePublicationReceipt sha256} {s t : Bytes}
    (same : receiptBody a ++ s = receiptBody b ++ t) : receiptBody a = receiptBody b ∧ s = t := by
  suffices tails : s = t by
    subst tails
    exact ⟨List.append_cancel_right same, rfl⟩
  simp only [receiptBody, List.append_assoc, List.append_cancel_left_eq] at same
  obtain ⟨_, same⟩ := selfDelimiting_storedDigest.strip same
  obtain ⟨_, same⟩ := selfDelimiting_storedDigest.strip same
  obtain ⟨_, same⟩ := selfDelimiting_storedDigest.strip same
  obtain ⟨_, same⟩ := selfDelimiting_storedDigest.strip same
  obtain ⟨_, same⟩ := selfDelimiting_storedDigest.strip same
  obtain ⟨_, same⟩ := SelfDelimiting.string.strip same
  obtain ⟨_, same⟩ := SelfDelimiting.enumeration.strip same
  obtain ⟨_, same⟩ := SelfDelimiting.enumeration.strip same
  obtain ⟨_, same⟩ := SelfDelimiting.enumeration.strip same
  obtain ⟨_, same⟩ := selfDelimiting_storedDigest.optional.strip same
  obtain ⟨_, same⟩ := selfDelimiting_storedDigest.counted_list
    a.subordinateEvidence.size_lt b.subordinateEvidence.size_lt same
  exact same

/-! ## The prefix code -/

/-- A request's body is within the range of a string. -/
theorem requestBody_size {request : StatePublicationRequest sha256} {bytes : Bytes}
    (encoded : encodeStatePublicationRequest request = .ok bytes) :
    (requestBody request).length < 2 ^ 64 := by
  rw [encodeStatePublicationRequest_eq] at encoded
  have within := (appendChecksum_eq_ok.mp encoded).1
  simp only [maximumStatePublicationRequestEncodingSize, checksumSize] at within
  omega

/-- The records that some decoder accepts under some authority. -/
def acceptedRecords (sha256 : Sha256) : Set Bytes := {bytes | ∃ kind, Accepted sha256 kind bytes}

/-- No accepted record stands at the front of another. -/
theorem accepted_prefixFree (sha256 : Sha256) : PrefixFree (acceptedRecords sha256) := by
  intro first ⟨kind, accepted⟩ second ⟨other, otherAccepted⟩ front
  obtain rfl := accepted.kind_eq otherAccepted front
  obtain ⟨more, whole⟩ := front
  cases accepted with
  | binding decoded =>
      cases otherAccepted with
      | binding otherDecoded =>
          rw [← encode_of_decodeGenerationBinding decoded,
            ← encode_of_decodeGenerationBinding otherDecoded] at whole ⊢
          rw [(selfDelimiting_generationBinding.strip
            (whole.trans (List.append_nil _).symm)).1]
  | snapshot decoded =>
      cases otherAccepted with
      | snapshot otherDecoded =>
          obtain ⟨encoded, bound⟩ := encode_of_decodeGenerationSnapshot decoded
          obtain ⟨otherEncoded, otherBound⟩ := encode_of_decodeGenerationSnapshot otherDecoded
          rw [← encoded, ← otherEncoded] at whole ⊢
          rw [(encodeGenerationSnapshot_strip bound otherBound
            (whole.trans (List.append_nil _).symm)).1]
  | request decoded =>
      cases otherAccepted with
      | request otherDecoded =>
          have encoded := (decodeStatePublicationRequest_ok decoded).2
          have otherEncoded := (decodeStatePublicationRequest_ok otherDecoded).2
          rw [requestRecord_eq encoded, requestRecord_eq otherEncoded] at whole ⊢
          rw [List.append_assoc] at whole
          rw [(requestBody_strip (requestBody_size encoded) (requestBody_size otherEncoded)
            whole).1]
  | receipt decoded =>
      cases otherAccepted with
      | receipt otherDecoded =>
          rw [receiptRecord_eq (decodeStatePublicationReceipt_ok decoded).2,
            receiptRecord_eq (decodeStatePublicationReceipt_ok otherDecoded).2] at whole ⊢
          rw [List.append_assoc] at whole
          rw [(receiptBody_strip whole).1]

/-- No accepted record is empty. -/
theorem nil_notMem_acceptedRecords (sha256 : Sha256) : [] ∉ acceptedRecords sha256 := by
  intro ⟨kind, accepted⟩
  have empty := List.prefix_nil.mp accepted.front
  cases kind <;> cases empty

/-- Records need no frame. Every byte string is, in exactly one way, a sequence of records
that the four decoders accept, each under some authority, and a rest that no accepted
record begins. And of a stream of accepted records that is torn off anywhere just the
records that were written whole are found, in their order; what is behind them is a
proper front of the next record, or nothing. -/
theorem recordStreams_torn (sha256 : Sha256) :
    (∀ stream : Bytes, ∃ records rest, Cut (acceptedRecords sha256) stream records rest ∧
      ∀ others tail, Cut (acceptedRecords sha256) stream others tail →
        others = records ∧ tail = rest) ∧
    ∀ records : List Bytes, (∀ record ∈ records, record ∈ acceptedRecords sha256) →
      ∀ stream others tail, stream <+: records.flatten →
        Cut (acceptedRecords sha256) stream others tail →
        others <+: records ∧
          (tail ≠ [] → ∃ next, others ++ [next] <+: records ∧ tail <+: next ∧ tail ≠ next) := by
  have free := accepted_prefixFree sha256
  have nonempty := nil_notMem_acceptedRecords sha256
  refine ⟨fun stream => ?_, fun records each stream others tail front cut => ?_⟩
  · obtain ⟨records, rest, cut⟩ := exists_cut nonempty stream
    exact ⟨records, rest, cut, fun others tail other => other.unique free cut⟩
  · exact free.cut_front nonempty each front cut

/-- A binding record, and an empty generation that is torn in its last byte. -/
theorem recordStreams_torn_generation :
    ∃ records rest,
      Cut (acceptedRecords Sha256.hash) (encodeGenerationBinding Fixture.binding ++
        (encodeGenerationSnapshot (Snapshot.empty Fixture.binding)).dropLast) records rest ∧
      records = [encodeGenerationBinding Fixture.binding] ∧
      ∃ next, rest <+: next ∧ rest ≠ next := by
  let first := encodeGenerationBinding Fixture.binding
  let last := encodeGenerationSnapshot (Snapshot.empty Fixture.binding)
  have firstAccepted : first ∈ acceptedRecords Sha256.hash :=
    ⟨.binding, .binding (decodeGenerationBinding_encode Fixture.binding)⟩
  have lastAccepted : last ∈ acceptedRecords Sha256.hash :=
    ⟨.snapshot, .snapshot (decodeGenerationSnapshot_encode _ (by decide))⟩
  have large : 1 < last.length := by
    simp [last, encodeGenerationSnapshot, snapshotMagic, ascii]
  -- The torn generation begins with no record, since the whole one does not.
  have torn : Cut (acceptedRecords Sha256.hash) (first ++ last.dropLast) [first]
      last.dropLast := by
    refine .cons firstAccepted (.of_torn fun record accepted begins => ?_)
    have same := accepted_prefixFree Sha256.hash record accepted last lastAccepted
      (begins.trans (List.dropLast_prefix last))
    have size := (same ▸ begins).length_le
    rw [List.length_dropLast] at size
    omega
  have each : ∀ record ∈ [first, last], record ∈ acceptedRecords Sha256.hash := by
    simpa using ⟨firstAccepted, lastAccepted⟩
  have front : first ++ last.dropLast <+: [first, last].flatten := by
    simpa [List.prefix_append_right_inj] using List.dropLast_prefix last
  have remains : last.dropLast ≠ [] := by
    apply List.ne_nil_of_length_pos
    rw [List.length_dropLast]
    omega
  obtain ⟨next, _, part⟩ :=
    ((recordStreams_torn Sha256.hash).2 [first, last] each _ _ _ front torn).2 remains
  exact ⟨[first], last.dropLast, torn, rfl, next, part⟩

end Pkgstate
