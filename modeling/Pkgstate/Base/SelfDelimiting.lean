import Pkgstate.Base.Keyed

/-!
# Self-delimiting encodings

An encoding is self-delimiting when the start of a byte string determines at
most one value and where its encoding ends. Concatenating such encodings keeps
the property, so a record written field by field can be stripped field by field
from two equal byte strings; that is how the injectivity of a record layout is
proved, with no reader for it.
-/

namespace Wire

open Cpp

/-- Equal byte strings that start with the encodings of two values start with
the same value and continue in the same way. -/
structure SelfDelimiting {α : Type} (encode : α → Bytes) : Prop where
  strip {a b : α} {s t : Bytes} : encode a ++ s = encode b ++ t → a = b ∧ s = t

namespace SelfDelimiting

variable {α β : Type} {encode : α → Bytes}

/-- Encodings of one size are self-delimiting as soon as they are injective. -/
theorem of_length {size : Nat} (length : ∀ a, (encode a).length = size)
    (injective : ∀ {a b}, encode a = encode b → a = b) : SelfDelimiting encode where
  strip {a b} _ _ same := by
    obtain ⟨heads, tails⟩ := List.append_inj same ((length a).trans (length b).symm)
    exact ⟨injective heads, tails⟩

theorem injective (delimiting : SelfDelimiting encode) {a b : α} (same : encode a = encode b) :
    a = b := by
  have whole : encode a ++ [] = encode b ++ [] := by rw [same]
  exact (delimiting.strip whole).1

/-- A value is written through an injective image of it. -/
theorem comap (delimiting : SelfDelimiting encode) {image : β → α}
    (injective : ∀ {a b}, image a = image b → a = b) :
    SelfDelimiting fun value => encode (image value) where
  strip same := by
    obtain ⟨images, tails⟩ := delimiting.strip same
    exact ⟨injective images, tails⟩

/-! ## Integers and strings -/

theorem u8 : SelfDelimiting fun value : UInt8 => [value] :=
  of_length (fun _ => rfl) fun same => (List.cons.inj same).1

theorem enumeration {α : Type} [ByteEnum α] : SelfDelimiting fun value : α => [toByte value] :=
  u8.comap ByteEnum.toByte_inj

theorem u16 : SelfDelimiting u16Bytes :=
  of_length length_u16Bytes fun {a b} same =>
    UInt16.toNat.inj (bigEndian_inj (show a.toNat < 256 ^ 2 from a.toNat_lt) b.toNat_lt same)

theorem u32 : SelfDelimiting u32Bytes :=
  of_length length_u32Bytes fun {a b} same =>
    UInt32.toNat.inj (bigEndian_inj (show a.toNat < 256 ^ 4 from a.toNat_lt) b.toNat_lt same)

theorem u64 : SelfDelimiting u64Bytes :=
  of_length length_u64Bytes fun {a b} same =>
    UInt64.toNat.inj (bigEndian_inj (show a.toNat < 256 ^ 8 from a.toNat_lt) b.toNat_lt same)

theorem boolean : SelfDelimiting boolBytes := by
  refine of_length (fun _ => rfl) fun {a b} same => ?_
  cases a <;> cases b <;> first | rfl | cases same

theorem i64 : SelfDelimiting i64Bytes := by
  refine ⟨fun {a b s t} same => ?_⟩
  simp only [i64Bytes, List.append_assoc] at same
  obtain ⟨signs, same⟩ := boolean.strip same
  obtain ⟨magnitudes, tails⟩ := u64.strip same
  refine ⟨?_, tails⟩
  apply Int64.toInt.inj
  rw [← signed_i64Magnitude a, ← signed_i64Magnitude b, signs, magnitudes]

/-- A string of bounded size is delimited by its size. -/
theorem string : SelfDelimiting fun value : StdString => stringBytes value.bytes := by
  refine ⟨fun {a b s t} same => ?_⟩
  simp only [stringBytes, List.append_assoc] at same
  obtain ⟨sizes, same⟩ := u64.strip same
  have lengths : a.bytes.length = b.bytes.length := by
    rw [← toNat_length_toUInt64 a.size_lt, sizes, toNat_length_toUInt64 b.size_lt]
  obtain ⟨bytes, tails⟩ := List.append_inj same lengths
  exact ⟨StdString.bytes_inj bytes, tails⟩

/-! ## Sequences and optionals -/

/-- Two sequences of one size, written without a separator, whose values can be stripped
in pairs. -/
theorem flatMap_of_pairs {as bs : List α} {s t : Bytes}
    (strip : List.Forall₂ (fun a b => ∀ s t, encode a ++ s = encode b ++ t → a = b ∧ s = t) as bs)
    (same : as.flatMap encode ++ s = bs.flatMap encode ++ t) : as = bs ∧ s = t := by
  induction strip with
  | nil => exact ⟨rfl, same⟩
  | cons head _ ih =>
      simp only [List.flatMap_cons, List.append_assoc] at same
      obtain ⟨rfl, rest⟩ := head _ _ same
      obtain ⟨rfl, tails⟩ := ih rest
      exact ⟨rfl, tails⟩

/-- Two sequences of one size whose values can be stripped. -/
theorem flatMap_of_strip {as bs : List α} {s t : Bytes} (lengths : as.length = bs.length)
    (strip : ∀ a ∈ as, ∀ b ∈ bs, ∀ s t, encode a ++ s = encode b ++ t → a = b ∧ s = t)
    (same : as.flatMap encode ++ s = bs.flatMap encode ++ t) : as = bs ∧ s = t := by
  refine flatMap_of_pairs (List.forall₂_iff_zip.mpr ⟨lengths, fun paired => ?_⟩) same
  obtain ⟨aMember, bMember⟩ := List.of_mem_zip paired
  exact strip _ aMember _ bMember

theorem flatMap (delimiting : SelfDelimiting encode) {as bs : List α} {s t : Bytes}
    (lengths : as.length = bs.length)
    (same : as.flatMap encode ++ s = bs.flatMap encode ++ t) : as = bs ∧ s = t :=
  flatMap_of_strip lengths (fun _ _ _ _ _ _ => delimiting.strip) same

/-- Two sequences of values of the same kinds, whose values can be stripped where they
have one kind. -/
theorem flatMap_of_kinds {κ : Type} {kind : α → κ}
    (strip : ∀ {a b s t}, kind a = kind b → encode a ++ s = encode b ++ t → a = b ∧ s = t)
    {as bs : List α} {s t : Bytes} (kinds : as.map kind = bs.map kind)
    (same : as.flatMap encode ++ s = bs.flatMap encode ++ t) : as = bs ∧ s = t := by
  have paired : List.Forall₂ (fun a b => kind a = kind b) as bs := by
    rw [← List.forall₂_map_right_iff, ← List.forall₂_map_left_iff, List.forall₂_eq_eq_eq]
    exact kinds
  exact flatMap_of_pairs (paired.imp fun _ _ same _ _ => strip same) same

/-- Two sequences written without a count or a separator, when no value is written
as nothing. -/
theorem flatMap_eq {as bs : List α} (nonempty : ∀ a, encode a ≠ [])
    (strip : ∀ a ∈ as, ∀ b ∈ bs, ∀ s t, encode a ++ s = encode b ++ t → a = b ∧ s = t)
    (same : as.flatMap encode = bs.flatMap encode) : as = bs := by
  induction as generalizing bs with
  | nil =>
      cases bs with
      | nil => rfl
      | cons b bs => exact absurd (List.append_eq_nil_iff.mp same.symm).1 (nonempty b)
  | cons a as ih =>
      cases bs with
      | nil => exact absurd (List.append_eq_nil_iff.mp same).1 (nonempty a)
      | cons b bs =>
          rw [List.flatMap_cons, List.flatMap_cons] at same
          obtain ⟨rfl, rest⟩ := strip a List.mem_cons_self b List.mem_cons_self _ _ same
          rw [ih (fun a aLater b bLater => strip a (List.mem_cons_of_mem _ aLater) b
            (List.mem_cons_of_mem _ bLater)) rest]

theorem counted_of_strip {as bs : List α} {s t : Bytes} (aBound : as.length < 2 ^ 64)
    (bBound : bs.length < 2 ^ 64)
    (strip : ∀ a ∈ as, ∀ b ∈ bs, ∀ s t, encode a ++ s = encode b ++ t → a = b ∧ s = t)
    (same : countedBytes encode as ++ s = countedBytes encode bs ++ t) : as = bs ∧ s = t := by
  simp only [countedBytes, List.append_assoc] at same
  obtain ⟨sizes, same⟩ := u64.strip same
  have lengths : as.length = bs.length := by
    rw [← toNat_length_toUInt64 aBound, sizes, toNat_length_toUInt64 bBound]
  exact flatMap_of_strip lengths strip same

theorem counted_list (delimiting : SelfDelimiting encode) {as bs : List α} {s t : Bytes}
    (aBound : as.length < 2 ^ 64) (bBound : bs.length < 2 ^ 64)
    (same : countedBytes encode as ++ s = countedBytes encode bs ++ t) : as = bs ∧ s = t :=
  counted_of_strip aBound bBound (fun _ _ _ _ _ _ => delimiting.strip) same

/-- A vector is delimited by its count. -/
theorem counted (delimiting : SelfDelimiting encode) :
    SelfDelimiting fun values : StdVector α => countedBytes encode values.toList := by
  refine ⟨fun {as bs s t} same => ?_⟩
  obtain ⟨values, tails⟩ := delimiting.counted_list as.size_lt bs.size_lt same
  exact ⟨StdVector.toList_inj values, tails⟩

/-- An optional value is delimited by its presence byte. -/
theorem optional (delimiting : SelfDelimiting encode) :
    SelfDelimiting (optionalBytes encode) := by
  refine ⟨fun {a b s t} same => ?_⟩
  simp only [optionalBytes, List.append_assoc] at same
  obtain ⟨presence, same⟩ := boolean.strip same
  cases a with
  | none =>
      cases b with
      | none => exact ⟨rfl, same⟩
      | some b => cases presence
  | some a =>
      cases b with
      | none => cases presence
      | some b =>
          obtain ⟨rfl, tails⟩ := delimiting.strip same
          exact ⟨rfl, tails⟩

end SelfDelimiting

/-! ## Torn and appended records -/

/-- Where encodings are delimited and a decoder accepts nothing else, it accepts no
proper prefix and no proper extension of one. -/
theorem fails_of_delimited {α ε : Type} {encode : α → Bytes} {decode : Bytes → Except ε α}
    {admitted : α → Prop}
    (strip : ∀ {a b : α} {s t : Bytes}, admitted a → admitted b →
      encode a ++ s = encode b ++ t → a = b ∧ s = t)
    (exact : ∀ {bytes : Bytes} {a : α}, decode bytes = .ok a → encode a = bytes ∧ admitted a)
    {value : α} (held : admitted value) {bytes : Bytes}
    (comparable : bytes <+: encode value ∨ encode value <+: bytes)
    (different : bytes ≠ encode value) : ∃ failure, decode bytes = .error failure := by
  cases decoded : decode bytes with
  | error failure => exact ⟨failure, rfl⟩
  | ok other =>
      obtain ⟨rfl, otherHeld⟩ := exact decoded
      have same : other = value := by
        rcases comparable with ⟨rest, whole⟩ | ⟨rest, whole⟩
        · exact (strip otherHeld held (whole.trans (List.append_nil _).symm)).1
        · exact (strip held otherHeld (whole.trans (List.append_nil _).symm)).1.symm
      exact absurd (congrArg encode same) different

end Wire
