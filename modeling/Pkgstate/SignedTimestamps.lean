import Pkgstate.Base.Signed
import Pkgstate.Base.Slot
import Pkgstate.DecoderErrors

/-!
# Signed timestamps

The seconds of an mtime are written by `writer::i64` into generations and by
`canonical_record::append_i64` into identities, and read by `reader::i64`. The three
agree at every value without overflowing (`signedTimestamps`). The reader also admits a
negative zero, which no writer writes: a record that holds one where an mtime is read
decodes to a snapshot whose own encoding is another record, so it is rejected.
-/

namespace Pkgstate

open Wire Cpp Keyed Generation

/-! ## The writers -/

/-- `for (int shift = 56; shift >= 0; shift -= 8)`. -/
def shifts : List UInt64 := [56, 48, 40, 32, 24, 16, 8, 0]

namespace GenerationWriter

/-- `writer::u8`. -/
def u8 (bytes : Bytes) (value : UInt8) : Bytes := bytes ++ [value]

/-- `writer::boolean`. -/
def boolean (bytes : Bytes) (value : Bool) : Bytes := u8 bytes (if value then 1 else 0)

/-- `writer::u64`. -/
def u64 (bytes : Bytes) (value : UInt64) : Bytes :=
  shifts.foldl (fun bytes shift => bytes ++ [(value >>> shift).toUInt8]) bytes

/-- `writer::i64`. An overflow leaves no bytes. -/
def i64 (bytes : Bytes) (value : Int64) : Option Bytes := do
  let magnitude ← (if value < 0 then do
      let above ← Checked.plus value 1
      let opposite ← Checked.negate above
      let unsigned ← Checked.toUnsigned opposite
      Checked.plusUnsigned unsigned 1
    else Checked.toUnsigned value : Option UInt64)
  pure (u64 (boolean bytes (decide (value < 0))) magnitude)

end GenerationWriter

namespace CanonicalRecord

/-- `append_u8`. -/
def appendU8 (bytes : Bytes) (value : UInt8) : Bytes := bytes ++ [value]

/-- `append_bool`. -/
def appendBool (bytes : Bytes) (value : Bool) : Bytes := appendU8 bytes (if value then 1 else 0)

/-- `append_u64`. -/
def appendU64 (bytes : Bytes) (value : UInt64) : Bytes :=
  shifts.foldl (fun bytes shift => bytes ++ [((value >>> shift) &&& 0xff).toUInt8]) bytes

/-- `append_i64`. An overflow leaves no bytes. -/
def appendI64 (bytes : Bytes) (value : Int64) : Option Bytes := do
  let magnitude ← (if value < 0 then do
      let above ← Checked.plus value 1
      let opposite ← Checked.negate above
      let unsigned ← Checked.toUnsigned opposite
      Checked.plusUnsigned unsigned 1
    else Checked.toUnsigned value : Option UInt64)
  pure (appendU64 (appendBool bytes (decide (value < 0))) magnitude)

end CanonicalRecord

theorem foldl_push {α : Type} (step : α → UInt8) (shifts : List α) (bytes : Bytes) :
    shifts.foldl (fun bytes shift => bytes ++ [step shift]) bytes = bytes ++ shifts.map step := by
  induction shifts generalizing bytes with
  | nil => exact (List.append_nil bytes).symm
  | cons shift shifts ih =>
      rw [List.foldl_cons, ih, List.append_assoc]
      rfl

/-- The loop over the shifts writes the eight bytes of a value. -/
theorem map_shifts (value : UInt64) :
    shifts.map (fun shift => (value >>> shift).toUInt8) = u64Bytes value := by
  have indexed : shifts = (List.range 8).reverse.map fun index => (8 * index).toUInt64 := rfl
  rw [indexed, List.map_map, u64Bytes, bigEndian]
  apply List.map_congr_left
  intro index member
  have below : index < 8 := List.mem_range.mp (List.mem_reverse.mp member)
  have width : (8 * index).toUInt64.toNat % 64 = 8 * index := by
    rw [Nat.toUInt64, UInt64.toNat_ofNat']
    omega
  apply UInt8.toNat.inj
  change (value >>> (8 * index).toUInt64).toUInt8.toNat =
    (value.toNat >>> (8 * index)).toUInt8.toNat
  rw [UInt64.toNat_toUInt8, UInt64.toNat_shiftRight, width, Nat.toUInt8, UInt8.toNat_ofNat']

/-- `append_u64` masks the byte that it converts, which the conversion does too. -/
theorem toUInt8_masked (value : UInt64) : (value &&& 0xff).toUInt8 = value.toUInt8 := by
  rw [UInt64.toUInt8_and]
  exact UInt8.and_neg_one

theorem GenerationWriter.i64_eq (bytes : Bytes) (value : Int64) :
    i64 bytes value = some (bytes ++ i64Bytes value) := by
  rw [i64, magnitude_eq]
  change some (u64 (boolean bytes (decide (value < 0))) (i64Magnitude value)) = _
  rw [u64, foldl_push, map_shifts, boolean, u8, List.append_assoc]
  rfl

theorem CanonicalRecord.appendI64_eq (bytes : Bytes) (value : Int64) :
    appendI64 bytes value = some (bytes ++ i64Bytes value) := by
  rw [appendI64, magnitude_eq]
  change some (appendU64 (appendBool bytes (decide (value < 0))) (i64Magnitude value)) = _
  simp only [appendU64, toUInt8_masked]
  rw [foldl_push, map_shifts, appendBool, appendU8, List.append_assoc]
  rfl

/-! ## The reader -/

/-- `reader::i64`. -/
def GenerationReader.i64 (label : Bytes) : Machine Failure Int64 :=
  Machine.checkedI64 generationFailures label

theorem GenerationReader.simulates (label : Bytes) :
    Simulates (GenerationReader.i64 label) (Reader.i64 generationFailures label) := by
  rw [GenerationReader.i64, checkedI64_eq]
  exact simulates_i64 generationFailures label

/-! ## Where the seconds of an mtime stand

The reads of `decode_generation_snapshot` up to the seconds of one mtime, which are
those of the decoders up to there. -/

/-- The reads of `decode_entry` in front of the seconds. -/
def beforeSeconds : Decoder Failure Unit := do
  let _ ← path "owned path"
  let _ ← u8 "owned kind"
  let _ ← u32 "owned mode"
  let _ ← u64 "owned uid"
  let _ ← u64 "owned gid"
  pure ()

/-- The reads of `decode_receipt` in front of the seconds of an entry. -/
def receiptBeforeSeconds (sha256 : Sha256) (entry : Nat) : Decoder Failure Unit := do
  let schema ← u16 "installation receipt schema"
  if schema ≠ installationReceiptSchemaVersion then
    Reader.fail (.storeError (ascii "unsupported installation receipt schema"))
  else do
    let _ ← decodeControl sha256
    Reader.upTo generationFailures (ascii "ownership manifest count") decodeEntry entry
      beforeSeconds

/-- The reads of `decode_generation_snapshot` in front of the seconds of an entry of a
package. -/
def snapshotBeforeSeconds (sha256 : Sha256) (package entry : Nat) : Decoder Failure Unit := do
  Reader.expect generationFailures snapshotMagic (ascii "canonical generation magic")
  let version ← u16 "canonical generation version"
  if version ≠ canonicalGenerationStorageVersion then
    Reader.fail (.storeError (ascii "unsupported canonical generation encoding version"))
  else do
    let schema ← u16 "installed-state schema version"
    if schema ≠ installedStateSchemaVersion then
      Reader.fail (.storeError (ascii "unsupported installed-state snapshot schema version"))
    else do
      let binding ← decodeBindingFields sha256
      Reader.upTo generationFailures (ascii "installed package count")
        (do
          let receipt ← decodeReceipt binding
          pure (InstalledPackage.make receipt))
        package (receiptBeforeSeconds sha256 entry)

/-- The record holds `text` where the seconds of the mtime of an entry are read. -/
def StoresSeconds (sha256 : Sha256) (bytes : Bytes) (package entry : Nat) (text : Bytes) : Prop :=
  ∃ cursor, snapshotBeforeSeconds sha256 package entry ⟨bytes, 0⟩ = .ok ((), cursor) ∧
    text <+: cursor.bytes.drop cursor.position

/-! ### In the decoder -/

theorem precedes_entry :
    Precedes beforeSeconds (Generation.i64 "owned mtime seconds") decodeEntry := by
  apply Precedes.bind
  intro path
  have object : Precedes (do
      let _ ← u8 "owned kind"
      let _ ← u32 "owned mode"
      let _ ← u64 "owned uid"
      let _ ← u64 "owned gid"
      pure ()) (Generation.i64 "owned mtime seconds") decodeObject := by
    apply Precedes.bind
    intro kind
    apply Precedes.bind
    intro mode
    apply Precedes.bind
    intro uid
    apply Precedes.bind
    intro gid
    exact Precedes.here _ _
  exact object.head _

theorem precedes_receipt {sha256 : Sha256} (binding : StateTargetBinding sha256) (entry : Nat) :
    Precedes (receiptBeforeSeconds sha256 entry) (Generation.i64 "owned mtime seconds")
      (decodeReceipt binding) := by
  apply Precedes.bind
  intro schema
  apply Precedes.ite
  apply Precedes.bind
  intro control
  exact (precedes_entry.upTo generationFailures _ entry).head _

/-- The decoder reads the seconds there. -/
theorem precedes_snapshot (sha256 : Sha256) (package entry : Nat) :
    Precedes (snapshotBeforeSeconds sha256 package entry)
      (Generation.i64 "owned mtime seconds") (decodeSnapshotRecord sha256) := by
  apply Precedes.bind
  intro _
  apply Precedes.bind
  intro version
  apply Precedes.ite
  apply Precedes.bind
  intro schema
  apply Precedes.ite
  apply Precedes.bind
  intro binding
  have installed := (precedes_receipt binding entry).head
    fun receipt => (pure (InstalledPackage.make receipt) : Decoder Failure _)
  exact (installed.upTo generationFailures _ package).head _

/-- Nine bytes that are no seconds are refused there. -/
theorem StoresSeconds.refused {sha256 : Sha256} {bytes text : Bytes} {package entry : Nat}
    (stores : StoresSeconds sha256 bytes package entry text) (length : text.length = 9)
    (invalid : ¬ SignedText text) :
    decodeGenerationSnapshot sha256 bytes =
      .error (.storeError (ascii "invalid " ++ ascii "owned mtime seconds")) := by
  obtain ⟨cursor, ran, standing⟩ := stores
  have some : text ≠ [] := List.ne_nil_of_length_eq_add_one length
  obtain ⟨_, before, after, rfl⟩ := cursor.inFront standing some
  have failed := refuses_signed generationFailures (ascii "owned mtime seconds") length invalid
    before after
  rw [decodeGenerationSnapshot, precedes_snapshot sha256 package entry _ _ _ ran failed]
  rfl

/-! ### In encodings -/

section Encodings

variable {sha256 : Sha256}

theorem finds_entry (value : OwnedEntry) :
    Finds beforeSeconds (entryFields storedDigest value) (i64Bytes value.object.mtime.seconds) := by
  simp only [entryFields, objectFields, List.append_assoc]
  apply (decodes_path _ value.path).finds_bind
  apply (decodes_u8 _ _ (toByte value.object.kind)).finds_bind
  apply (decodes_u32 _ _ value.object.mode).finds_bind
  apply (decodes_u64 _ _ value.object.uid).finds_bind
  apply (decodes_u64 _ _ value.object.gid).finds_bind
  exact Finds.here _ _

theorem finds_receipt (receipt : InstallationReceipt sha256) {index : Nat} {entry : OwnedEntry}
    (found : receipt.manifest.toList[index]? = some entry) :
    Finds (receiptBeforeSeconds sha256 index) (encodeReceipt receipt)
      (i64Bytes entry.object.mtime.seconds) := by
  simp only [encodeReceipt, List.append_assoc]
  apply (decodes_u16 _ _ installationReceiptSchemaVersion).finds_bind
  rw [if_neg (not_not.mpr rfl)]
  apply (decodes_control receipt.control).finds_bind
  apply Finds.append
  exact Finds.upTo generationFailures _ (length_le_maximumCount receipt.manifest.toStdVector)
    (fun entry _ => entryFields_ne_nil entry) (fun entry _ => decodes_entry entry) found
    (finds_entry entry)

/-- The seconds of every entry of a snapshot stand in its encoding, and may be replaced
there. -/
theorem finds_snapshot (value : Snapshot sha256) {packages : StdVector _}
    (held : packages.toList = value.packages) {package : Nat}
    {installed : InstalledPackage sha256} {index : Nat} {entry : OwnedEntry}
    (atPackage : value.packages[package]? = some installed)
    (atEntry : installed.receipt.manifest.toList[index]? = some entry) :
    Finds (snapshotBeforeSeconds sha256 package index) (encodeGenerationSnapshot value)
      (i64Bytes entry.object.mtime.seconds) := by
  simp only [encodeGenerationSnapshot, List.append_assoc, ← held]
  apply (decodes_expect _ snapshotMagic _).finds_bind
  apply (decodes_u16 _ _ canonicalGenerationStorageVersion).finds_bind
  rw [if_neg (not_not.mpr rfl)]
  apply (decodes_u16 _ _ installedStateSchemaVersion).finds_bind
  rw [if_neg (not_not.mpr rfl)]
  apply (decodes_bindingFields value.targetBinding).finds_bind
  exact Finds.upTo generationFailures _ (length_le_maximumCount packages)
    (fun package _ => encodeReceipt_ne_nil package.receipt)
    (fun package member => decodes_package (value.bound package (held ▸ member)))
    (held.symm ▸ atPackage) (finds_receipt installed.receipt atEntry)

theorem StoresSeconds.of_finds {encoding slot : Bytes} {package index : Nat}
    (finds : Finds (snapshotBeforeSeconds sha256 package index) encoding slot) :
    ∃ front back, encoding = front ++ (slot ++ back) ∧
      ∀ text : Bytes, text.length = slot.length →
        StoresSeconds sha256 (front ++ (text ++ back)) package index text := by
  obtain ⟨front, back, whole, reached⟩ := finds
  refine ⟨front, back, whole, ?_⟩
  intro text length
  have ran := (reached text [] length).run
  rw [List.append_nil] at ran
  refine ⟨_, ran, ?_⟩
  rw [List.drop_left]
  exact List.prefix_append text back

/-- Who gets to the seconds of an entry of a receipt that stands there gets to those that
it was made with. -/
theorem receiptBeforeSeconds_ok {receipt : InstallationReceipt sha256} {index : Nat}
    {before after : Bytes} {cursor : Cursor}
    (ran : receiptBeforeSeconds sha256 index
      ⟨before ++ (encodeReceipt receipt ++ after), before.length⟩ = .ok ((), cursor)) :
    ∃ entry : OwnedEntry,
      i64Bytes entry.object.mtime.seconds <+: cursor.bytes.drop cursor.position := by
  simp only [encodeReceipt, List.append_assoc] at ran
  rw [receiptBeforeSeconds, (decodes_u16 _ _ installationReceiptSchemaVersion).bind_run,
    if_neg (not_not.mpr rfl), (decodes_control receipt.control).bind_run] at ran
  obtain ⟨entry, _, front, back, inside⟩ := upTo_ok generationFailures _
    (length_le_maximumCount receipt.manifest.toStdVector) (fun entry _ => entryFields_ne_nil entry)
    (fun entry _ => decodes_entry entry) ran
  obtain ⟨place, found, stands⟩ := (finds_entry entry).run front back
  obtain rfl : cursor = place := congrArg Prod.snd (Except.ok.inj (inside.symm.trans found))
  exact ⟨entry, stands⟩

/-- What an encoding holds where seconds are read is what `writer::i64` wrote. -/
theorem StoresSeconds.of_encode {value : Snapshot sha256} {packages : StdVector _}
    (held : packages.toList = value.packages) {package index : Nat} {text : Bytes}
    (stores : StoresSeconds sha256 (encodeGenerationSnapshot value) package index text)
    (length : text.length = 9) :
    ∃ seconds : Int64, text = i64Bytes seconds := by
  obtain ⟨cursor, ran, holds⟩ := stores
  simp only [encodeGenerationSnapshot, List.append_assoc, ← held] at ran
  change snapshotBeforeSeconds sha256 package index
    ⟨[] ++ (snapshotMagic ++ _), ([] : Bytes).length⟩ = _ at ran
  rw [snapshotBeforeSeconds, (decodes_expect _ snapshotMagic _).bind_run,
    (decodes_u16 _ _ canonicalGenerationStorageVersion).bind_run, if_neg (not_not.mpr rfl),
    (decodes_u16 _ _ installedStateSchemaVersion).bind_run, if_neg (not_not.mpr rfl),
    (decodes_bindingFields value.targetBinding).bind_run, ← List.append_nil (countedBytes _ _)]
    at ran
  obtain ⟨installed, _, front, back, inside⟩ := upTo_ok generationFailures _
    (length_le_maximumCount packages) (fun package _ => encodeReceipt_ne_nil package.receipt)
    (fun package member => decodes_package (value.bound package (held ▸ member))) ran
  obtain ⟨entry, stands⟩ := receiptBeforeSeconds_ok inside
  have sizes := length.trans (length_i64Bytes entry.object.mtime.seconds).symm
  exact ⟨_, (List.prefix_of_prefix_length_le holds stands sizes.le).eq_of_length sizes⟩

/-- A record with a negative zero for an mtime is refused. -/
theorem StoresSeconds.rejected {bytes : Bytes} {package index : Nat}
    (stores : StoresSeconds sha256 bytes package index (zeroText true)) :
    ∃ what, decodeGenerationSnapshot sha256 bytes = .error (.storeError what) := by
  have fails : FailsOnly Failure.IsStoreError (decodeGenerationSnapshot sha256 bytes) :=
    decodeGenerationSnapshot_fails bytes
  obtain ⟨value, decoded⟩ | ⟨_, ⟨what, rfl⟩, failed⟩ := fails.ok_or_error
  · obtain ⟨rfl, bound⟩ := encode_of_decodeGenerationSnapshot decoded
    have held : StdVector.toList ⟨value.packages, bound⟩ = value.packages := rfl
    obtain ⟨seconds, negativeZero⟩ := stores.of_encode held rfl
    exact absurd negativeZero.symm (i64Bytes_ne_zeroText seconds)
  · exact ⟨what, failed⟩

end Encodings

/-! ## Every value survives -/

/-- The writers and the reader of seconds agree at every value, and a negative zero gets
no further than the reader. -/
structure SurvivesEveryValue (sha256 : Sha256) (label : Bytes) : Prop where
  /-- Both writers append the same nine bytes, without overflow. -/
  writes : ∀ (stored hashed : Bytes) (value : Int64),
    GenerationWriter.i64 stored value = some (stored ++ i64Bytes value) ∧
      CanonicalRecord.appendI64 hashed value = some (hashed ++ i64Bytes value) ∧
      (i64Bytes value).length = 9
  /-- The reader returns the value from them, without overflow. -/
  returns : ∀ (value : Int64) (view : View), view.InFront (i64Bytes value) →
    ∃ after, GenerationReader.i64 label view = .ok (value, after) ∧ after.bytes = view.bytes ∧
      after.position.toNat = view.position.toNat + 9
  /-- It succeeds on the nine bytes of a sign and a magnitude within its range, -/
  admits : ∀ (text : Bytes) (view : View), text.length = 9 → view.InFront text →
    ((∃ step, GenerationReader.i64 label view = .ok step) ↔ SignedText text)
  /-- and refuses any others, without overflow. -/
  refuses : ∀ (text : Bytes) (view : View), text.length = 9 → view.InFront text →
    ¬ SignedText text → ∃ after, GenerationReader.i64 label view =
      .error (.refused (generationFailures.invalid label) after)
  /-- Different texts give different values, but for the two zeros. -/
  separates : ∀ (text other : Bytes) (view otherView : View) (value : Int64)
      (after otherAfter : View),
    text.length = 9 → other.length = 9 → view.InFront text → otherView.InFront other →
    GenerationReader.i64 label view = .ok (value, after) →
    GenerationReader.i64 label otherView = .ok (value, otherAfter) →
    text = other ∨ ∃ negative, text = zeroText negative ∧ other = zeroText (!negative)
  /-- Both of them give zero. -/
  zeros : ∀ (negative : Bool) (view : View), view.InFront (zeroText negative) →
    ∃ after, GenerationReader.i64 label view = .ok (0, after)
  /-- A generation stores the seconds of each of its entries, and any nine bytes may stand
  there. -/
  stores : ∀ (value : Snapshot sha256), value.packages.length < 2 ^ 64 →
    ∀ (package index : Nat) (installed : InstalledPackage sha256) (entry : OwnedEntry),
    value.packages[package]? = some installed →
    installed.receipt.manifest.toList[index]? = some entry →
    ∃ front back, encodeGenerationSnapshot value =
        front ++ (i64Bytes entry.object.mtime.seconds ++ back) ∧
      ∀ text : Bytes, text.length = 9 →
        StoresSeconds sha256 (front ++ (text ++ back)) package index text
  /-- The decoder reads the seconds there: nine bytes that are none are refused as such, -/
  reads : ∀ (bytes text : Bytes) (package index : Nat),
    StoresSeconds sha256 bytes package index text → text.length = 9 → ¬ SignedText text →
    decodeGenerationSnapshot sha256 bytes =
      .error (.storeError (ascii "invalid " ++ ascii "owned mtime seconds"))
  /-- and a negative zero is rejected. -/
  rejects : ∀ (bytes : Bytes) (package index : Nat),
    StoresSeconds sha256 bytes package index (zeroText true) →
    ∃ what, decodeGenerationSnapshot sha256 bytes = .error (.storeError what)

section Reading

variable (label : Bytes) {text : Bytes} {view : View}

theorem GenerationReader.reads (length : text.length = 9) (standing : view.InFront text)
    (admitted : SignedText text) :
    ∃ (value : Int64) (after : View), GenerationReader.i64 label view = .ok (value, after) ∧
      value.toInt = signedValue text := by
  have some : text ≠ [] := List.ne_nil_of_length_eq_add_one length
  obtain ⟨value, decodes, number⟩ := decodes_signed generationFailures label length admitted
  obtain ⟨after, ran, _⟩ := (GenerationReader.simulates label).decodes decodes standing some
  exact ⟨value, after, ran, number⟩

theorem GenerationReader.refuses (length : text.length = 9) (standing : view.InFront text)
    (refused : ¬ SignedText text) :
    ∃ after, GenerationReader.i64 label view =
      .error (.refused (generationFailures.invalid label) after) := by
  have some : text ≠ [] := List.ne_nil_of_length_eq_add_one length
  exact (GenerationReader.simulates label).refuses
    (refuses_signed generationFailures label length refused) standing some

/-- What the reader returns is the number of a text that it admits. -/
theorem GenerationReader.ok {step : Int64 × View} (length : text.length = 9)
    (standing : view.InFront text) (ran : GenerationReader.i64 label view = .ok step) :
    SignedText text ∧ step.1.toInt = signedValue text := by
  by_cases admitted : SignedText text
  · obtain ⟨value, after, read, number⟩ := GenerationReader.reads label length standing admitted
    obtain rfl : (value, after) = step := Except.ok.inj (read.symm.trans ran)
    exact ⟨admitted, number⟩
  · obtain ⟨after, failed⟩ := GenerationReader.refuses label length standing admitted
    cases failed.symm.trans ran

end Reading

/-- Signed timestamps survive at every value. -/
theorem signedTimestamps (sha256 : Sha256) (label : Bytes) :
    SurvivesEveryValue sha256 label where
  writes stored hashed value :=
    ⟨GenerationWriter.i64_eq stored value, CanonicalRecord.appendI64_eq hashed value,
      length_i64Bytes value⟩
  returns value view standing := by
    have some := List.ne_nil_of_length_eq_add_one (length_i64Bytes value)
    rw [← length_i64Bytes value]
    exact (GenerationReader.simulates label).decodes
      (decodes_i64 generationFailures label value) standing some
  admits text view length standing := by
    constructor
    · rintro ⟨step, ran⟩
      exact (GenerationReader.ok label length standing ran).1
    · intro admitted
      obtain ⟨value, after, ran, _⟩ := GenerationReader.reads label length standing admitted
      exact ⟨_, ran⟩
  refuses text view length standing refused :=
    GenerationReader.refuses label length standing refused
  separates text other view otherView value after otherAfter length otherLength standing
      otherStanding ran otherRan := by
    obtain ⟨admitted, number⟩ := GenerationReader.ok label length standing ran
    obtain ⟨otherAdmitted, otherNumber⟩ :=
      GenerationReader.ok label otherLength otherStanding otherRan
    exact signedValue_inj admitted otherAdmitted length otherLength
      (number.symm.trans otherNumber)
  zeros negative view standing := by
    obtain ⟨value, after, ran, number⟩ :=
      GenerationReader.reads label rfl standing (signedText_zero negative)
    rw [signedValue_zero] at number
    obtain rfl : value = 0 := Int64.toInt.inj number
    exact ⟨after, ran⟩
  stores value bound package index installed entry atPackage atEntry := by
    have held : StdVector.toList ⟨value.packages, bound⟩ = value.packages := rfl
    rw [← length_i64Bytes entry.object.mtime.seconds]
    exact StoresSeconds.of_finds (finds_snapshot value held atPackage atEntry)
  reads bytes text package index stores length invalid := stores.refused length invalid
  rejects bytes package index stores := stores.rejected

end Pkgstate
