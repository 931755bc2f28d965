import Pkgstate.GenerationCodec

/-!
# The frame of publication records

What the request codec and the receipt codec of `publication_codec.cpp` share:
the reader and its failures, the magic and version at the front of a record, and
the SHA-256 checksum at its end.
-/

namespace Pkgstate

open Wire Cpp

/-- `state_publication_codec_error(code, message)`. -/
abbrev codecError (code : StatePublicationCodecErrorCode) (message : Bytes) : Failure :=
  .statePublicationCodecError code message

/-- `checksum_size`. -/
def checksumSize : Nat := 32

/-- `maximum_collection_count`. -/
def maximumCollectionCount : Nat := 1024 * 1024

/-! ## Reading -/

/-- What the reader of this file throws. -/
def publicationFailures : ReaderFailures Failure where
  truncated label := codecError .truncated (ascii "truncated " ++ label)
  mismatch label := codecError .invalidMagic (ascii "invalid " ++ label)
  invalid label := codecError .invalidValue (ascii "invalid " ++ label)
  overlong label := codecError .truncated (label ++ ascii " length exceeds record")
  implausible label := codecError .limitExceeded (label ++ ascii " exceeds the supported bound")
  trailing := codecError .trailingData (ascii "trailing bytes in publication evidence record")
  outOfRange := .outOfRange
  maximumCount := maximumCollectionCount

/-- `catch (const error& failure) { fail(invalid_value, context + failure.what()); }`.
A codec error is no `error` and passes. -/
def rethrowAsInvalidValue {α : Type} (context : Bytes) : Except Failure α → Except Failure α
  | .ok value => .ok value
  | .error failure =>
      match failure.what? with
      | some what => .error (codecError .invalidValue (context ++ what))
      | none => .error failure

namespace Publication

/-- `u16(label)`. -/
abbrev u16 (label : String) : Decoder Failure UInt16 := Reader.u16 publicationFailures (ascii label)

/-- `bytes(label)`. -/
abbrev text (label : String) : Decoder Failure StdString :=
  Reader.bytes publicationFailures (ascii label)

/-- A presence byte and, behind it, an optional value. -/
abbrev optional {α : Type} (label : String) (decoder : Decoder Failure α) :
    Decoder Failure (Option α) :=
  Reader.optional publicationFailures (ascii label) decoder

/-- A count and the loop that reads as many values. -/
abbrev counted {α : Type} (label : String) (decoder : Decoder Failure α) :
    Decoder Failure (StdVector α) :=
  Reader.counted publicationFailures (ascii label) decoder

/-- `read_digest`. -/
def digest {Tag : Type} {domain : Tag} (label : String) :
    Decoder Failure (TypedDigest domain) := do
  let text ← text label
  Reader.lift (rethrowAsInvalidValue (ascii "invalid " ++ ascii label ++ ascii ": ")
    (TypedDigest.parse text.bytes))

/-- `read_delta_kind`, `read_outcome`, `read_durability` and `read_atomicity`: one
declared byte. -/
def enumeration {α : Type} [ByteEnum α] (label : String) : Decoder Failure α := do
  let byte ← Reader.u8 publicationFailures (ascii label)
  Reader.lift (ByteEnum.declared (codecError .invalidValue (ascii "invalid " ++ ascii label)) byte)

theorem decodes_text (label : String) (value : StdString) :
    Decodes (text label) (stringBytes value.bytes) value :=
  decodes_bytes publicationFailures (ascii label) value

theorem decodes_digest {Tag : Type} {domain : Tag} (label : String) (value : TypedDigest domain) :
    Decodes (digest label) (storedDigest value) value := by
  apply (decodes_text label value.string).bind_pure
  rw [value.parse_string]
  rfl

theorem decodes_enumeration {α : Type} [ByteEnum α] (label : String) (value : α) :
    Decodes (enumeration label) [toByte value] value := by
  apply (decodes_u8 publicationFailures (ascii label) (toByte value)).bind_pure
  rw [ByteEnum.declared_toByte]
  rfl

end Publication

/-! ## The front of a record -/

/-- `has_prefix`. -/
def hasPrefix (bytes expected : Bytes) : Bool := expected.isPrefixOf bytes

/-- `read_request_prefix` and `read_receipt_prefix`, for the record called `name`. -/
def readPrefix (name : String) (magic : Bytes) (version : UInt16) (body : Bytes) :
    Decoder Failure Unit :=
  if !hasPrefix body magic then
    Reader.fail (codecError .invalidMagic (ascii ("invalid " ++ name ++ " magic")))
  else do
    Reader.expect publicationFailures magic (ascii (name ++ " magic"))
    let found ← Publication.u16 (name ++ " encoding version")
    if found ≠ version then
      Reader.fail (codecError .unsupportedVersion
        (ascii ("unsupported " ++ name ++ " encoding version")))
    else pure ()

theorem hasPrefix_append (expected second rest : Bytes) :
    hasPrefix (expected ++ second ++ rest) expected = true := by
  rw [List.append_assoc]
  exact List.isPrefixOf_iff_prefix.mpr (List.prefix_append _ _)

theorem decodes_front (name : String) {magic body : Bytes} (version : UInt16)
    (front : hasPrefix body magic = true) :
    Decodes (readPrefix name magic version body) (magic ++ u16Bytes version) () := by
  unfold readPrefix
  rw [front]
  apply (decodes_expect publicationFailures magic _).bind
  apply (decodes_u16 publicationFailures _ version).bind_pure
  rw [if_neg (not_not.mpr rfl)]

/-! ## The checksum -/

section Checksum

variable (sha256 : Sha256)

/-- `append_checksum`, and the bytes written so far. -/
def appendChecksum (written : Bytes) (maximumSize : Nat) : Except Failure Bytes :=
  if written.length > maximumSize - checksumSize then
    .error (codecError .limitExceeded
      (ascii "publication evidence encoding exceeds the supported size"))
  else .ok (written ++ (sha256 written).toList)

/-- `verified_body`. -/
def verifiedBody (encoding : Bytes) (maximumSize : Nat) : Except Failure Bytes :=
  if encoding.length > maximumSize then
    .error (codecError .limitExceeded
      (ascii "publication evidence encoding exceeds the supported size"))
  else if encoding.length < checksumSize then
    .error (codecError .truncated (ascii "publication evidence encoding is truncated"))
  else
    let body := encoding.take (encoding.length - checksumSize)
    if (sha256 body).toList ≠ encoding.drop (encoding.length - checksumSize) then
      .error (codecError .checksumMismatch
        (ascii "publication evidence checksum does not match"))
    else .ok body

end Checksum

variable {sha256 : Sha256}

theorem appendChecksum_eq_ok {written bytes : Bytes} {maximumSize : Nat} :
    appendChecksum sha256 written maximumSize = .ok bytes ↔
      written.length ≤ maximumSize - checksumSize ∧
        written ++ (sha256 written).toList = bytes := by
  unfold appendChecksum
  split
  · next excess => exact ⟨nofun, fun within => by omega⟩
  · next within =>
      rw [Except.ok.injEq]
      exact ⟨fun same => ⟨by omega, same⟩, fun both => both.2⟩

/-- The body of a record is what its checksum was appended to. -/
theorem verifiedBody_of_appendChecksum {written bytes : Bytes} {maximumSize : Nat}
    (room : checksumSize ≤ maximumSize)
    (appended : appendChecksum sha256 written maximumSize = .ok bytes) :
    verifiedBody sha256 bytes maximumSize = .ok written := by
  obtain ⟨within, rfl⟩ := appendChecksum_eq_ok.mp appended
  have size : (written ++ (sha256 written).toList).length = written.length + checksumSize := by
    rw [List.length_append, Vector.length_toList, checksumSize]
  have body : (written ++ (sha256 written).toList).length - checksumSize = written.length := by
    omega
  unfold verifiedBody
  rw [if_neg (by omega), if_neg (by omega), body, List.take_left, List.drop_left]
  exact if_neg (not_not.mpr rfl)

/-- Two bodies with the same checked bytes are the same. -/
theorem appendChecksum_inj {first second bytes : Bytes} {maximumSize : Nat}
    (firstAppended : appendChecksum sha256 first maximumSize = .ok bytes)
    (secondAppended : appendChecksum sha256 second maximumSize = .ok bytes) : first = second := by
  obtain ⟨_, same⟩ := appendChecksum_eq_ok.mp firstAppended
  obtain ⟨_, rfl⟩ := appendChecksum_eq_ok.mp secondAppended
  exact (List.append_inj' same (by rw [Vector.length_toList, Vector.length_toList])).1

/-- What a rethrown computation returns, the computation returned. -/
theorem rethrowAsInvalidValue_eq_ok {α : Type} {context : Bytes} {result : Except Failure α}
    {value : α} : rethrowAsInvalidValue context result = .ok value ↔ result = .ok value := by
  cases result with
  | ok other => exact Iff.rfl
  | error failure =>
      cases failure <;>
        exact ⟨nofun, nofun⟩

end Pkgstate
