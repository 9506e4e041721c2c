import SealedGateway.Proofs.Descriptor.RoundTrip

/-!
# Sending received descriptors on

Whatever a received document puts into the fields of a descriptor keeps the bounds of its readers:
no whole number that is read has more digits than may be written.  So a received descriptor has JSON
again, unless an escape in the document left a lone surrogate in one of its texts.
-/

namespace SealedGateway

attribute [local instance (2000)] instPowNat

/-! ## Numbers in received documents -/

namespace Field

theorem areDigits_takeWhile (chars : List Char) :
    ∀ char ∈ chars.takeWhile Text.isAsciiDigit, Text.isAsciiDigit char = true := by
  have holds := List.all_takeWhile (p := Text.isAsciiDigit) (l := chars)
  exact List.all_eq_true.mp holds

/-- Behind its sign a whole number in plain form has as many digits as are counted. -/
theorem isShort_of_unsigned {negative : Bool} {unsigned : List Char} {counted : Nat} {number : Int}
    (isRead : (match unsigned.takeWhile Text.isAsciiDigit with
      | [] => .error .unreadableWhole
      | first :: others =>
        if first = '0' then
          if unsigned.length = 1 then .ok 0 else .error .unreadableWhole
        else if Numeral.digitLimit < others.length + 1 + counted then .error .wholeTooLong
        else if (unsigned.takeWhile Text.isAsciiDigit).length = unsigned.length then
          .ok (Numeral.withSign negative
            (Numeral.ofDigits (unsigned.takeWhile Text.isAsciiDigit)))
        else .error .unreadableWhole : Except FieldFault Int) = .ok number) :
    Numeral.IsShort number := by
  split at isRead
  · cases isRead
  next first others digitsAre =>
  split at isRead
  · split at isRead
    · cases isRead
      decide
    · cases isRead
  split at isRead
  · cases isRead
  next isWithin =>
  split at isRead
  · cases isRead
    refine Numeral.isShort_withSign _ (areDigits_takeWhile unsigned) ?_
    rw [digitsAre, List.length_cons]
    omega
  · cases isRead

theorem isShort_readPlainWhole {chars : List Char} {number : Int}
    (isRead : readPlainWhole chars = .ok number) : Numeral.IsShort number := by
  unfold readPlainWhole at isRead
  split at isRead
  all_goals exact isShort_of_unsigned isRead

theorem isShort_of_natAbs_lt {number : Int} (isSmall : number.natAbs < 2 ^ (64 : Nat)) :
    Numeral.IsShort number := by
  rw [Numeral.isShort_iff]
  have isBelow : number.natAbs < 10 ^ (20 : Nat) := by omega
  exact isBelow.trans_le (Nat.pow_le_pow_right (by decide) (by decide))

theorem isShort_readWholeReal {value : Binary64} {number : Int}
    (isRead : readWholeReal value = .ok number) : Numeral.IsShort number := by
  unfold readWholeReal at isRead
  split at isRead
  · cases isRead
  · cases isRead
  split at isRead
  · cases isRead
  split at isRead
  · next inRange =>
    cases isRead
    exact isShort_of_natAbs_lt (by omega)
  · cases isRead

/-- A whole number that is read from a received value can be written. -/
theorem isShort_readWhole {json : Json} (areShort : Json.AreShort json.leaves) {number : Int}
    (isRead : readWhole json.toValue = .ok number) : Numeral.IsShort number := by
  match json with
  | .null => cases isRead
  | .flag value => cases value <;> cases isRead <;> decide
  | .whole value =>
    cases isRead
    exact areShort number List.mem_cons_self
  | .real value => exact isShort_readWholeReal isRead
  | .text value =>
    simp only [Json.toValue, readWhole, spelling?] at isRead
    cases spelled : value.toChars? with
    | none =>
      rw [spelled] at isRead
      cases isRead
    | some chars =>
      rw [spelled] at isRead
      simp only [readWholeText] at isRead
      split at isRead
      · cases isRead
      · exact isShort_readPlainWhole isRead
  | .list items => cases isRead
  | .object entries => cases isRead

theorem isShort_readCount {json : Json} (areShort : Json.AreShort json.leaves) {count : Nat}
    (isRead : readCount json.toValue = .ok count) : Numeral.IsShort count := by
  unfold readCount at isRead
  split at isRead
  · cases isRead
  · next number numberRead =>
    have isShort := isShort_readWhole areShort numberRead
    split at isRead
    · next isNonnegative =>
      cases isRead
      rwa [Int.toNat_of_nonneg isNonnegative]
    · cases isRead

end Field

/-! ## Received descriptors -/

namespace Json

theorem lookup?_mem {α : Type} {name : String} {entries : List (WideText × α)} {value : α}
    (found : lookup? name entries = some value) : ∃ key, (key, value) ∈ entries := by
  obtain ⟨entry, entryFound, rfl⟩ := Option.map_eq_some_iff.mp found
  exact ⟨entry.1, List.mem_reverse.mp (List.mem_of_find?_eq_some entryFound)⟩

/-- The numbers in the value of an entry are among those of the object. -/
theorem AreShort.of_mem {entries : List (WideText × Json)}
    (areShort : AreShort (entriesLeaves entries)) {key : WideText} {value : Json}
    (isMember : (key, value) ∈ entries) : AreShort value.leaves := by
  induction entries with
  | nil => cases isMember
  | cons entry rest ih =>
    rw [entriesLeaves_cons, areShort_append, areShort_append] at areShort
    rcases List.mem_cons.mp isMember with rfl | isBehind
    · exact areShort.2.1
    · exact ih areShort.2.2 isBehind

end Json

namespace Metadata

/-- The sizes in hints that are made from fields are read from those fields. -/
theorem sizes_of_ofFields {fields : List (String × Value)} {metadata : Metadata}
    (made : ofFields fields = .ok metadata) :
    Field.readOptional Field.readCount (Field.find? "height" fields) = .ok metadata.height ∧
      Field.readOptional Field.readCount (Field.find? "width" fields) = .ok metadata.width := by
  unfold ofFields at made
  split at made
  · next result fieldsRead =>
    cases made
    unfold readFields at fieldsRead
    simp only at fieldsRead
    split at fieldsRead
    · cases fieldsRead
      exact ⟨‹_›, ‹_›⟩
    · cases fieldsRead
  · cases made

end Metadata

namespace Descriptor

theorem exists_of_map_eq_ok {α β : Type} {change : α → β} {result : Except Failure α} {value : β}
    (isMapped : result.map change = .ok value) :
    ∃ content, result = .ok content ∧ change content = value := by
  cases result with
  | error failure => cases isMapped
  | ok content => exact ⟨content, rfl, Except.ok.inj isMapped⟩

/-- An optional count that is read from the value of an entry is short. -/
theorem isShort_of_entryValue? {name : String} {entries : List (WideText × Json)}
    (areShort : Json.AreShort (Json.entriesLeaves entries)) {count : Nat}
    (isRead : Field.readOptional Field.readCount (entryValue? name entries) = .ok (some count)) :
    Numeral.IsShort count := by
  obtain ⟨value, isGiven, countRead⟩ := Field.readOptional_some isRead
  obtain ⟨json, found, rfl⟩ := Option.map_eq_some_iff.mp isGiven
  obtain ⟨key, isMember⟩ := Json.lookup?_mem found
  exact Field.isShort_readCount (areShort.of_mem isMember) countRead

/-- The hints in a received object have short sizes if the numbers in the object are short. -/
theorem isShort_readHints {rendering : Rendering} {entries : List (WideText × Json)}
    (areShort : Json.AreShort (Json.entriesLeaves entries)) {metadata : Metadata}
    (hintsRead : readHints rendering entries = .ok (some metadata)) :
    (∀ height ∈ metadata.height, Numeral.IsShort height) ∧
      ∀ width ∈ metadata.width, Numeral.IsShort width := by
  unfold readHints at hintsRead
  split at hintsRead
  · cases hintsRead
  next hints hintsFound =>
  split at hintsRead
  · cases hintsRead
  split at hintsRead
  · next hints _ =>
    obtain ⟨key, isMember⟩ := Json.lookup?_mem hintsFound
    have areHintsShort : Json.AreShort (Json.entriesLeaves hints) := areShort.of_mem isMember
    obtain ⟨_, made, ⟨⟩⟩ := exists_of_map_eq_ok hintsRead
    change Metadata.ofFields (Field.given (entryValue? · hints) _) = _ at made
    obtain ⟨heightRead, widthRead⟩ := Metadata.sizes_of_ofFields made
    rw [← List.append_nil (Field.given _ _)] at heightRead widthRead
    simp +decide only [Field.find?_given_cons, Field.given_nil, Field.find?_nil, List.nil_append,
      if_true, if_false, Option.none_or, Option.or_none] at heightRead widthRead
    constructor
    · intro height isHeight
      rw [Option.mem_def.mp isHeight] at heightRead
      exact isShort_of_entryValue? areHintsShort heightRead
    · intro width isWidth
      rw [Option.mem_def.mp isWidth] at widthRead
      exact isShort_of_entryValue? areHintsShort widthRead
  · cases hintsRead

/-- The hints of a descriptor in a received object are those that are read from the object. -/
theorem metadata_of_ofEntries {entries : List (WideText × Json)} {descriptor : Descriptor}
    (made : ofEntries entries = .ok descriptor) :
    descriptor.IsValid ∧ ∃ rendering, readHints rendering entries = .ok descriptor.metadata := by
  unfold ofEntries at made
  split at made
  · cases made
  next rendering _ =>
  split at made
  · cases made
  next metadata hintsRead =>
  refine ⟨isValid_of_ofFields made, rendering, ?_⟩
  rw [hintsRead]
  have metadataRead := (ofFields_eq_ok_iff.mp made).metadata
  change readMetadata (Field.find? "metadata" (Field.given (entryValue? · entries) _ ++ _)) = _
    at metadataRead
  simp +decide only [Field.find?_given_cons, Field.given_nil, Field.find?_cons, Field.find?_nil,
    List.nil_append, if_true, if_false, Option.none_or, Option.or_none] at metadataRead
  cases metadata with
  | none => exact congrArg Except.ok (Except.ok.inj metadataRead)
  | some metadata => exact congrArg Except.ok (Except.ok.inj metadataRead)

/-- The entries of a received object are those of a document that is read. -/
theorem exists_entries_of_ofJson {document : Value} {descriptor : Descriptor}
    (received : ofJson document = .ok descriptor) :
    ∃ entries, Json.AreShort (Json.entriesLeaves entries) ∧ ofEntries entries = .ok descriptor := by
  obtain ⟨entries, documentRead, made⟩ := ofJson_eq_ok_iff.mp received
  refine ⟨entries, ?_, made⟩
  unfold readDocument at documentRead
  split at documentRead
  · cases documentRead
  · split at documentRead
    · next parsed =>
      cases documentRead
      exact Json.areShort_parseWithin parsed
    · cases documentRead
    · cases documentRead

/-- A received descriptor is valid and its sizes can be written. -/
theorem isValid_of_ofJson {document : Value} {descriptor : Descriptor}
    (received : ofJson document = .ok descriptor) :
    descriptor.IsValid ∧ descriptor.HasShortSizes := by
  obtain ⟨entries, areShort, made⟩ := exists_entries_of_ofJson received
  obtain ⟨isValid, rendering, hintsRead⟩ := metadata_of_ofEntries made
  refine ⟨isValid, fun metadata isMember => ?_⟩
  rw [Option.mem_def.mp isMember] at hintsRead
  exact isShort_readHints areShort hintsRead

/-- A document whose file name is an escape of half a pair. -/
def marredDocument : Bytes := Utf8.encode
  ("\x7b\"b\":\"00000000000000000000000000000000\",\"m\":\"application/pdf\"," ++
    "\"k\":\"0000000000000000000000000000000000000000000000000000000000000000\"," ++
    "\"s\":2048,\"n\":\"\\ud83d\"\x7d")

/-- What that document is read as. -/
def marred : Descriptor where
  fileBlobId := ⟨Octets.zero 16⟩
  mediaType := WideText.ofString "application/pdf"
  encryptionKey := Octets.zero 32
  fileSize := 2048
  thumbnailBlobId := none
  thumbnailMediaType := none
  fileName := some [.surrogate 0x3D]
  description := none
  rendering := .file
  metadata := none

/-- A document whose hints have an entry that no hint is read from. -/
def blankDocument : Bytes := Utf8.encode
  ("\x7b\"b\":\"00000000000000000000000000000000\",\"m\":\"image/png\"," ++
    "\"k\":\"0000000000000000000000000000000000000000000000000000000000000000\"," ++
    "\"s\":2048,\"j\":1,\"x\":\x7b\"q\":1\x7d\x7d")

/-- What that document is read as. -/
def blank : Descriptor where
  fileBlobId := ⟨Octets.zero 16⟩
  mediaType := WideText.ofString "image/png"
  encryptionKey := Octets.zero 32
  fileSize := 2048
  thumbnailBlobId := none
  thumbnailMediaType := none
  fileName := none
  description := none
  rendering := .media
  metadata := some Metadata.empty

set_option maxRecDepth 100000 in
theorem ofJson_marredDocument : ofJson (.octets marredDocument) = .ok marred := by
  decide +kernel

set_option maxRecDepth 100000 in
theorem ofJson_blankDocument : ofJson (.octets blankDocument) = .ok blank := by
  decide +kernel

theorem not_isPlain_marred : ¬ marred.IsPlain := by
  intro isPlain
  exact isPlain.fileName _ rfl 0x3D List.mem_cons_self

theorem isPlain_blank : blank.IsPlain :=
  ⟨WideText.isPlain_ofChars _, nofun, nofun, nofun⟩

/-- A descriptor that is read from any document whatsoever has JSON exactly when its texts hold no
lone surrogates.  The JSON is read as the same descriptor, except that hints without any content
come back as none; a lone surrogate in one of the texts has no UTF-8 form. -/
theorem toJson_of_ofJson {document : Value} {descriptor : Descriptor}
    (received : ofJson document = .ok descriptor) :
    (descriptor.IsPlain → ∃ bytes, descriptor.toJson = .ok bytes ∧
      ofJson (.octets bytes) =
        .ok { descriptor with metadata := descriptor.metadata.filter (· ≠ Metadata.empty) }) ∧
    (¬ descriptor.IsPlain → descriptor.toJson = .error .unencodable) :=
  toJson_of_isValid (isValid_of_ofJson received).1 (isValid_of_ofJson received).2

theorem toJson_of_ofJson_blankDocument :
    ofJson (.octets blankDocument) = .ok blank ∧
      (blank.IsPlain → ∃ bytes, blank.toJson = .ok bytes ∧ ofJson (.octets bytes) =
        .ok { blank with metadata := blank.metadata.filter (· ≠ Metadata.empty) }) ∧
      (¬ blank.IsPlain → blank.toJson = .error .unencodable) :=
  ⟨ofJson_blankDocument, toJson_of_ofJson ofJson_blankDocument⟩

/-- Not every received descriptor comes back from its own JSON: one with half a pair in its file
name has no JSON, and one whose hints say nothing comes back without hints. -/
theorem exists_received_not_resent :
    (ofJson (.octets marredDocument) = .ok marred ∧ ∀ bytes, marred.toJson ≠ .ok bytes) ∧
    (ofJson (.octets blankDocument) = .ok blank ∧ ∃ bytes, blank.toJson = .ok bytes ∧
      ofJson (.octets bytes) ≠ .ok blank) := by
  obtain ⟨isMarredValid, isMarredShort⟩ := isValid_of_ofJson ofJson_marredDocument
  obtain ⟨isBlankValid, isBlankShort⟩ := isValid_of_ofJson ofJson_blankDocument
  have refused := (toJson_of_isValid isMarredValid isMarredShort).2 not_isPlain_marred
  obtain ⟨bytes, written, read⟩ := (toJson_of_isValid isBlankValid isBlankShort).1 isPlain_blank
  refine ⟨⟨ofJson_marredDocument, ?_⟩, ofJson_blankDocument, bytes, written, ?_⟩
  · intro bytes written
    rw [refused] at written
    cases written
  · rw [read]
    decide

end Descriptor
end SealedGateway
