import Pkgstate.Digest

/-!
# The text of a digest

`digest_value::parse` looks for two separators and takes what stands between and
after them. It accepts the texts that `digest_value::string` writes and no others
(`parse_eq_ok`). A digit pair keeps the order of its byte, so the text orders
digests as their bytes do (`less_string`).
-/

namespace Pkgstate

open Wire Cpp

namespace DigestValue

/-! ## Digits -/

/-- A lowercase hexadecimal digit. -/
def HexDigit (digit : UInt8) : Prop :=
  (48 ≤ digit ∧ digit ≤ 57) ∨ (97 ≤ digit ∧ digit ≤ 102)

instance (digit : UInt8) : Decidable (HexDigit digit) :=
  inferInstanceAs (Decidable (_ ∨ _))

/-- The digit of a half byte. -/
def hexDigit (half : Nat) : UInt8 := lowercaseHex.getD half 0

/-- A byte is written as its high and its low half. -/
theorem hexPair_eq (byte : UInt8) :
    hexPair byte = [hexDigit (byte.toNat / 16), hexDigit (byte.toNat % 16)] := by
  have all : ∀ index : Fin 256, hexPair (UInt8.ofFin index) =
      [hexDigit (index.val / 16), hexDigit (index.val % 16)] := by
    decide +kernel
  exact all byte.toFin

theorem hexDigit_isHexDigit {half : Nat} (small : half < 16) : HexDigit (hexDigit half) := by
  have all : ∀ index : Fin 16, HexDigit (hexDigit index.val) := by decide +kernel
  exact all ⟨half, small⟩

/-- The digits stand in the order of what they denote. -/
theorem less_hexDigit {left right : Nat} (leftSmall : left < 16) (rightSmall : right < 16) :
    less (hexDigit left) (hexDigit right) = decide (left < right) := by
  have all : ∀ left right : Fin 16,
      less (hexDigit left.val) (hexDigit right.val) = decide (left.val < right.val) := by
    decide +kernel
  exact all ⟨left, leftSmall⟩ ⟨right, rightSmall⟩

theorem hexDigit_inj_iff {left right : Nat} (leftSmall : left < 16) (rightSmall : right < 16) :
    hexDigit left = hexDigit right ↔ left = right := by
  have all : ∀ left right : Fin 16,
      hexDigit left.val = hexDigit right.val ↔ left.val = right.val := by
    decide +kernel
  exact all ⟨left, leftSmall⟩ ⟨right, rightSmall⟩

/-- `parse_hex_digit` returns the half that is written with its digit. -/
theorem parseHexDigit_eq_ok {digit half : UInt8} (parsed : parseHexDigit digit = .ok half) :
    half.toNat < 16 ∧ digit = hexDigit half.toNat := by
  have all : ∀ index : Fin 256, (parseHexDigit (UInt8.ofFin index)).toOption.all
      (fun half => decide (half.toNat < 16 ∧ UInt8.ofFin index = hexDigit half.toNat)) = true := by
    decide +kernel
  have here : (parseHexDigit digit).toOption.all
      (fun half => decide (half.toNat < 16 ∧ digit = hexDigit half.toNat)) = true :=
    all digit.toFin
  rw [parsed] at here
  exact of_decide_eq_true here

theorem parseHexDigit_of_hexDigit {digit : UInt8} (hexadecimal : HexDigit digit) :
    ∃ half, parseHexDigit digit = .ok half := by
  unfold parseHexDigit
  split
  · exact ⟨_, rfl⟩
  · next notDecimal =>
      exact ⟨_, if_pos (hexadecimal.resolve_left notDecimal)⟩

/-- Two halves make the byte that is written with their digits. -/
theorem hexPair_join {high low : UInt8} (highSmall : high.toNat < 16) (lowSmall : low.toNat < 16) :
    hexPair ((high <<< 4) ||| low) = [hexDigit high.toNat, hexDigit low.toNat] := by
  have all : ∀ high low : Fin 16,
      hexPair ((UInt8.ofNat high.val <<< 4) ||| UInt8.ofNat low.val) =
        [hexDigit high.val, hexDigit low.val] := by
    decide +kernel
  have joined := all ⟨high.toNat, highSmall⟩ ⟨low.toNat, lowSmall⟩
  rwa [UInt8.ofNat_toNat, UInt8.ofNat_toNat] at joined

/-! ## Digit pairs -/

/-- The bytes read from an even number of digits are written with those digits. -/
theorem flatMap_hexPair_of_parse {digits bytes : Bytes} (even : digits.length % 2 = 0)
    (parsed : parseHexPairs digits = .ok bytes) : bytes.flatMap hexPair = digits := by
  induction digits using parseHexPairs.induct generalizing bytes with
  | case1 highDigit lowDigit rest ih =>
      rw [parseHexPairs] at parsed
      obtain ⟨high, highParsed, parsed⟩ := bind_eq_ok.mp parsed
      obtain ⟨low, lowParsed, parsed⟩ := bind_eq_ok.mp parsed
      obtain ⟨tail, restParsed, parsed⟩ := bind_eq_ok.mp parsed
      cases parsed
      obtain ⟨highSmall, rfl⟩ := parseHexDigit_eq_ok highParsed
      obtain ⟨lowSmall, rfl⟩ := parseHexDigit_eq_ok lowParsed
      have restEven : rest.length % 2 = 0 := by
        rw [List.length_cons, List.length_cons] at even
        omega
      rw [List.flatMap_cons, hexPair_join highSmall lowSmall, ih restEven restParsed]
      rfl
  | case2 digits short =>
      rcases digits with _ | ⟨first, _ | ⟨second, rest⟩⟩
      · cases parsed
        rfl
      · rw [List.length_singleton] at even
        omega
      · exact (short first second rest rfl).elim

theorem hexDigit_of_mem {bytes : Bytes} {digit : UInt8} (member : digit ∈ bytes.flatMap hexPair) :
    HexDigit digit := by
  obtain ⟨byte, _, inPair⟩ := List.mem_flatMap.mp member
  have small := byte.toNat_lt
  rw [hexPair_eq, List.mem_cons, List.mem_singleton] at inPair
  rcases inPair with rfl | rfl
  · exact hexDigit_isHexDigit (by omega)
  · exact hexDigit_isHexDigit (by omega)

theorem parseHexPairs_of_hexDigit {digits : Bytes}
    (hexadecimal : ∀ digit ∈ digits, HexDigit digit) :
    ∃ bytes, parseHexPairs digits = .ok bytes := by
  induction digits using parseHexPairs.induct with
  | case1 highDigit lowDigit rest ih =>
      obtain ⟨high, highParsed⟩ := parseHexDigit_of_hexDigit (hexadecimal highDigit (by simp))
      obtain ⟨low, lowParsed⟩ := parseHexDigit_of_hexDigit (hexadecimal lowDigit (by simp))
      obtain ⟨tail, restParsed⟩ := ih fun digit member =>
        hexadecimal digit (List.mem_cons_of_mem _ (List.mem_cons_of_mem _ member))
      rw [parseHexPairs, highParsed, lowParsed, restParsed]
      exact ⟨_, rfl⟩
  | case2 digits short =>
      rcases digits with _ | ⟨first, _ | ⟨second, rest⟩⟩
      · exact ⟨[], rfl⟩
      · exact ⟨[], rfl⟩
      · exact (short first second rest rfl).elim

/-! ## The whole text -/

/-- What `find` returns is the place of a separator. -/
theorem drop_of_find {input : Bytes} {byte : UInt8} {start position : Nat}
    (found : find input byte start = some position) :
    start ≤ position ∧
      input.drop start = substr input start (position - start) ++ byte :: input.drop (position + 1) := by
  obtain ⟨offset, here, rfl⟩ := Option.map_eq_some_iff.mp found
  obtain ⟨inside, same, _⟩ := List.idxOf?_eq_some_iff.mp here
  refine ⟨Nat.le_add_right _ _, ?_⟩
  have after : (input.drop start).drop (offset + 1) = input.drop (start + offset + 1) := by
    rw [List.drop_drop, Nat.add_assoc]
  rw [substr, Nat.add_sub_cancel_left, ← after]
  conv_lhs => rw [← List.take_append_drop offset (input.drop start),
    List.drop_eq_getElem_cons inside, same]

/-- An accepted text has the two fields before its digits. -/
theorem parse_fields {text : Bytes} {value : DigestValue} (parsed : parse text = .ok value) :
    ∃ digits, text = ascii "v1:sha256:" ++ digits ∧ digits.length = 64 ∧
      parseHexPairs digits = .ok value.bytes := by
  unfold parse at parsed
  cases firstFound : find text 58 0 with
  | none =>
      simp only [firstFound] at parsed
      cases parsed
  | some first =>
      cases secondFound : find text 58 (first + 1) with
      | none =>
          simp only [firstFound, Option.bind_some, secondFound] at parsed
          cases parsed
      | some second =>
          simp only [firstFound, Option.bind_some, secondFound] at parsed
          split at parsed
          · cases parsed
          · split at parsed
            · cases parsed
            · next version =>
                split at parsed
                · cases parsed
                · next algorithm =>
                    split at parsed
                    · cases parsed
                    · next size =>
                        split at parsed
                        · cases parsed
                        · next bytes digits =>
                            cases parsed
                            have firstCut := (drop_of_find firstFound).2
                            have secondCut := (drop_of_find secondFound).2
                            rw [Nat.sub_zero, not_not.mp version, List.drop_zero] at firstCut
                            rw [← Nat.sub_sub, not_not.mp algorithm] at secondCut
                            rw [secondCut] at firstCut
                            exact ⟨text.drop (second + 1), firstCut, not_not.mp size, digits⟩

/-- The text of an accepted digest is what was parsed. -/
theorem string_of_parse {text : Bytes} {value : DigestValue} (parsed : parse text = .ok value) :
    string value = text := by
  obtain ⟨digits, rfl, size, read⟩ := parse_fields parsed
  rw [string, flatMap_hexPair_of_parse (by rw [size]) read]
  rfl

/-- `parse` accepts the prefix with sixty-four lowercase hexadecimal digits. -/
theorem parse_eq_ok {text : Bytes} :
    (∃ value, parse text = .ok value) ↔ ∃ digits, text = ascii "v1:sha256:" ++ digits ∧
      digits.length = 64 ∧ ∀ digit ∈ digits, HexDigit digit := by
  constructor
  · rintro ⟨value, parsed⟩
    obtain ⟨digits, prefixed, size, read⟩ := parse_fields parsed
    refine ⟨digits, prefixed, size, fun digit member => ?_⟩
    rw [← flatMap_hexPair_of_parse (by rw [size]) read] at member
    exact hexDigit_of_mem member
  · rintro ⟨digits, rfl, size, hexadecimal⟩
    obtain ⟨bytes, read⟩ := parseHexPairs_of_hexDigit hexadecimal
    have length : bytes.length = sha256DigestSize := by
      rw [length_parseHexPairs read, size]
      rfl
    have written : string (fromSha256 ⟨bytes.toArray, length⟩) =
        ascii "v1:sha256:" ++ digits := by
      rw [string, ← flatMap_hexPair_of_parse (by rw [size]) read]
      rfl
    rw [← written]
    exact ⟨_, parse_string _⟩

/-! ## Order -/

/-- Digests of one version and one algorithm order by their bytes. -/
theorem less_eq_bytes (a b : DigestValue) : less a b = less a.bytes b.bytes := by
  have version : a.representationVersion = b.representationVersion :=
    a.version_eq.trans b.version_eq.symm
  have algorithm : a.algorithm.toUInt16 = b.algorithm.toUInt16 := by
    cases a.algorithm
    cases b.algorithm
    rfl
  change less (a.representationVersion, a.algorithm.toUInt16, a.bytes)
    (b.representationVersion, b.algorithm.toUInt16, b.bytes) = _
  rw [Bool.eq_iff_iff, less_prod, less_prod]
  simp [version, algorithm, StrictTotal.irrefl]

/-- A byte precedes another when its digit pair does, whatever follows. -/
theorem less_hexPair_append {a b : UInt8} {as bs : Bytes} :
    less (hexPair a ++ as) (hexPair b ++ bs) = true ↔
      less a b = true ∨ (a = b ∧ less as bs = true) := by
  have aSmall := a.toNat_lt
  have bSmall := b.toNat_lt
  have before : less a b = true ↔ a.toNat < b.toNat := decide_eq_true_iff
  have written (byte : UInt8) (rest : Bytes) : hexPair byte ++ rest =
      hexDigit (byte.toNat / 16) :: hexDigit (byte.toNat % 16) :: rest := by
    rw [hexPair_eq]
    rfl
  rw [written, written, less_cons, less_cons, less_hexDigit (by omega) (by omega), less_hexDigit (by omega) (by omega),
    hexDigit_inj_iff (by omega) (by omega), hexDigit_inj_iff (by omega) (by omega), before,
    ← UInt8.toNat_inj, decide_eq_true_iff, decide_eq_true_iff]
  constructor
  · rintro (high | ⟨high, low | ⟨low, later⟩⟩)
    · exact Or.inl (by omega)
    · exact Or.inl (by omega)
    · exact Or.inr ⟨by omega, later⟩
  · rintro (first | ⟨same, later⟩)
    · by_cases high : a.toNat / 16 < b.toNat / 16
      · exact Or.inl high
      · exact Or.inr ⟨by omega, Or.inl (by omega)⟩
    · rw [same]
      exact Or.inr ⟨rfl, Or.inr ⟨rfl, later⟩⟩

theorem less_flatMap_hexPair (as bs : Bytes) :
    less (as.flatMap hexPair) (bs.flatMap hexPair) = less as bs := by
  induction as generalizing bs with
  | nil =>
      cases bs with
      | nil => rfl
      | cons b bs => rfl
  | cons a as ih =>
      cases bs with
      | nil => rw [List.flatMap_nil, less_nil_right, less_nil_right]
      | cons b bs =>
          rw [List.flatMap_cons, List.flatMap_cons, Bool.eq_iff_iff, less_hexPair_append, ih,
            less_cons]

/-- The text orders digests as they order themselves. -/
theorem less_string (a b : DigestValue) : less (string a) (string b) = less a b := by
  rw [string, string, less_append_left, less_flatMap_hexPair, less_eq_bytes]

/-- The text of a digest is an exact codec, and keeps its order. -/
structure TextCodec : Prop where
  accepts (text : Bytes) : (∃ value, parse text = .ok value) ↔
    ∃ digits, text = ascii "v1:sha256:" ++ digits ∧ digits.length = 64 ∧
      ∀ digit ∈ digits, HexDigit digit
  returns {text : Bytes} {value : DigestValue} : parse text = .ok value → string value = text
  reads (bytes : Sha256DigestBytes) :
    parse (string (fromSha256 bytes)) = .ok (fromSha256 bytes)
  orders (a b : DigestValue) : less a b = true ↔ less (string a) (string b) = true

theorem textCodec : TextCodec where
  accepts _ := parse_eq_ok
  returns := string_of_parse
  reads bytes := parse_string (fromSha256 bytes)
  orders a b := by rw [less_string]

end DigestValue

end Pkgstate
