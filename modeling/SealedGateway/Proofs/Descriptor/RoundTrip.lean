import SealedGateway.Proofs.Descriptor.Wire
import SealedGateway.Proofs.Json.Encoding

/-!
# Descriptors there and back

The JSON of a valid descriptor exists as soon as its sizes have few enough digits and its texts hold
no lone surrogates.  Reading that JSON gives the descriptor back field by field; only hints that say
nothing are not written.
-/

namespace SealedGateway

attribute [local instance (2000)] instPowNat

namespace Json

/-! ## Leaves and nesting of entries -/

theorem forall_leaves_wireEntry {holds : Json → Prop} {letter : Char} {value? : Option Json}
    {rest : List (Option (WideText × Json))} :
    (∀ leaf ∈ entriesLeaves ((wireEntry letter value? :: rest).filterMap id), holds leaf) ↔
      (∀ value ∈ value?, holds (.text [.char letter]) ∧ ∀ leaf ∈ value.leaves, holds leaf) ∧
        ∀ leaf ∈ entriesLeaves (rest.filterMap id), holds leaf := by
  cases value? with
  | none => simp [wireEntry]
  | some value =>
    have entries : (wireEntry letter (some value) :: rest).filterMap id =
        ([.char letter], value) :: rest.filterMap id := rfl
    rw [entries, entriesLeaves_cons]
    simp [or_imp, forall_and, and_assoc]

theorem entriesNesting_wireEntry_le {letter : Char} {value? : Option Json}
    {rest : List (Option (WideText × Json))} {depth : Nat} :
    entriesNesting ((wireEntry letter value? :: rest).filterMap id) ≤ depth ↔
      (∀ value ∈ value?, value.nesting ≤ depth) ∧ entriesNesting (rest.filterMap id) ≤ depth := by
  cases value? with
  | none => simp [wireEntry]
  | some value =>
    have entries : (wireEntry letter (some value) :: rest).filterMap id =
        ([.char letter], value) :: rest.filterMap id := rfl
    rw [entries, entriesNesting, Nat.max_le]
    simp

end Json

namespace Descriptor

/-- Whether no text of a descriptor holds a lone surrogate. -/
structure IsPlain (descriptor : Descriptor) : Prop where
  mediaType : descriptor.mediaType.IsPlain
  thumbnailMediaType : ∀ text ∈ descriptor.thumbnailMediaType, text.IsPlain
  fileName : ∀ text ∈ descriptor.fileName, text.IsPlain
  description : ∀ text ∈ descriptor.description, text.IsPlain

/-- Whether the height and the width in the hints have no more digits than may be written. -/
def HasShortSizes (descriptor : Descriptor) : Prop :=
  ∀ metadata ∈ descriptor.metadata, (∀ height ∈ metadata.height, Numeral.IsShort height) ∧
    ∀ width ∈ metadata.width, Numeral.IsShort width

theorem isShort_of_le_sizeLimit {size : Nat} (isWithin : size ≤ Field.sizeLimit) :
    Numeral.IsShort size := by
  have isBelow : size < 10 ^ (10 : Nat) := by
    unfold Field.sizeLimit at isWithin
    omega
  rw [Numeral.isShort_iff, Int.natAbs_natCast]
  exact isBelow.trans_le (Nat.pow_le_pow_right (by decide) (by decide))

theorem isShort_natCast_of_lt {value : Nat} (isSmall : value < 10) : Numeral.IsShort value :=
  isShort_of_le_sizeLimit (by unfold Field.sizeLimit; omega)

/-- The hints of a descriptor hold no text but names, and no number but the height and the width. -/
theorem forall_leaves_hints {holds : Json → Prop} {metadata : Metadata}
    (names : ∀ letter, holds (.text [.char letter])) (flags : ∀ flag, holds (.flag flag))
    (durations : ∀ seconds, holds (.real seconds))
    (sizes : ∀ size : Nat, size ∈ metadata.height ∨ size ∈ metadata.width → holds (.whole size)) :
    ∀ leaf ∈ Json.entriesLeaves metadata.wire, holds leaf := by
  obtain ⟨animated, height, width, duration⟩ := metadata
  rw [Metadata.wire]
  simp only [Json.forall_leaves_wireEntry]
  refine ⟨?_, ?_, ?_, ?_, fun _ isMember => absurd isMember List.not_mem_nil⟩
  · cases animated <;> simp [Json.leaves, names, flags]
  · cases duration <;> simp [Json.leaves, names, durations]
  · cases height <;> simp_all [Json.leaves]
  · cases width <;> simp_all [Json.leaves]

/-- What holds of all leaves on the wire: the names and numbers aside, it is a matter of the texts
that a descriptor holds. -/
theorem forall_leaves_wire {holds : Json → Prop} {descriptor : Descriptor}
    (isUnbroken : descriptor.brokenRule? = none)
    (names : ∀ letter, holds (.text [.char letter]))
    (bytes : ∀ bytes, holds (hexJson bytes))
    (numbers : ∀ number ∈ [descriptor.rendering.legacyFlag, descriptor.rendering.code,
      descriptor.fileSize], holds (.whole number))
    (hints : ∀ metadata ∈ descriptor.metadata,
      ∀ leaf ∈ Json.entriesLeaves metadata.wire, holds leaf) :
    (∀ leaf ∈ (Json.object descriptor.wire).leaves, holds leaf) ↔
      holds (.text descriptor.mediaType) ∧
      (∀ text ∈ descriptor.thumbnailMediaType, holds (.text text)) ∧
      (∀ text ∈ descriptor.fileName, holds (.text text)) ∧
      ∀ text ∈ descriptor.description, holds (.text text) := by
  have hintsHold : ∀ leaf ∈ Json.entriesLeaves ((descriptor.metadata.map Metadata.wire).getD []),
      holds leaf := by
    cases given : descriptor.metadata with
    | none => nofun
    | some metadata => exact hints metadata given
  obtain ⟨flagHolds, codeHolds, sizeHolds⟩ : holds (.whole descriptor.rendering.legacyFlag) ∧
      holds (.whole descriptor.rendering.code) ∧ holds (.whole descriptor.fileSize) := by
    simpa using numbers
  have hexLeaves (bytes : Bytes) : (hexJson bytes).leaves = [hexJson bytes] := rfl
  rw [Json.leaves, wire]
  simp only [Json.forall_leaves_wireEntry, thumbnailMediaType_wire isUnbroken]
  simp only [Json.leaves, hexLeaves, names, bytes, flagHolds, codeHolds, sizeHolds, Option.mem_def,
    Option.some.injEq, Option.map_eq_some_iff, forall_eq', List.forall_mem_singleton, true_and,
    and_true, forall_exists_index, and_imp, forall_apply_eq_imp_iff₂, List.filterMap_nil,
    Json.entriesLeaves, List.not_mem_nil, false_imp_iff, implies_true]
  constructor
  · rintro ⟨description, mediaType, fileName, thumbnailMediaType, -⟩
    exact ⟨mediaType, thumbnailMediaType, fileName, description⟩
  · rintro ⟨mediaType, thumbnailMediaType, fileName, description⟩
    refine ⟨description, mediaType, fileName, thumbnailMediaType, ?_⟩
    intro value isHints
    split at isHints
    · cases isHints
    · cases isHints
      exact hintsHold

/-- The numbers on the wire can be written. -/
theorem areShort_wire {descriptor : Descriptor} (isValid : descriptor.IsValid)
    (isShort : descriptor.HasShortSizes) :
    Json.AreShort (Json.object descriptor.wire).leaves := by
  rw [Json.areShort_iff, forall_leaves_wire isValid.isUnbroken]
  · exact ⟨nofun, nofun, nofun, nofun⟩
  · nofun
  · nofun
  · have isFlagShort : descriptor.rendering.legacyFlag < 10 := by
      cases descriptor.rendering <;> decide
    have isCodeShort : descriptor.rendering.code < 10 := by
      cases descriptor.rendering <;> decide
    intro number isMember value same
    cases same
    simp only [List.mem_cons, List.not_mem_nil, or_false] at isMember
    rcases isMember with rfl | rfl | rfl
    · exact isShort_natCast_of_lt isFlagShort
    · exact isShort_natCast_of_lt isCodeShort
    · exact isShort_of_le_sizeLimit isValid.fileSize
  · intro metadata isMember
    obtain ⟨heightIsShort, widthIsShort⟩ := isShort metadata isMember
    refine forall_leaves_hints ?_ ?_ ?_ ?_
    · nofun
    · nofun
    · nofun
    · rintro size isSize _ ⟨⟩
      exact isSize.elim (heightIsShort size) (widthIsShort size)

/-- The texts on the wire are plain exactly when those of the descriptor are. -/
theorem isPlain_wire_iff {descriptor : Descriptor} (isUnbroken : descriptor.brokenRule? = none) :
    (∀ value, Json.text value ∈ (Json.object descriptor.wire).leaves → value.IsPlain) ↔
      descriptor.IsPlain := by
  have asLeaves : (∀ value, Json.text value ∈ (Json.object descriptor.wire).leaves →
      value.IsPlain) ↔ ∀ leaf ∈ (Json.object descriptor.wire).leaves, ∀ value,
        leaf = .text value → value.IsPlain :=
    ⟨fun arePlain leaf isLeaf value same => arePlain value (same ▸ isLeaf),
      fun arePlain value isLeaf => arePlain _ isLeaf value rfl⟩
  have letterIsPlain : ∀ letter value, Json.text [Symbol.char letter] = .text value →
      value.IsPlain := by
    rintro letter _ ⟨⟩
    exact WideText.isPlain_ofChars [letter]
  rw [asLeaves, forall_leaves_wire isUnbroken letterIsPlain]
  · simp only [Json.text.injEq, forall_eq']
    exact ⟨fun ⟨mediaType, thumbnailMediaType, fileName, description⟩ =>
        ⟨mediaType, thumbnailMediaType, fileName, description⟩,
      fun isPlain => ⟨isPlain.mediaType, isPlain.thumbnailMediaType, isPlain.fileName,
        isPlain.description⟩⟩
  · rintro bytes _ ⟨⟩
    exact WideText.isPlain_ofChars _
  · nofun
  · intro metadata _
    exact forall_leaves_hints letterIsPlain nofun nofun nofun

/-- Hints are the only brackets inside a descriptor. -/
theorem nesting_wire_le {descriptor : Descriptor} (isUnbroken : descriptor.brokenRule? = none) :
    (Json.object descriptor.wire).nesting ≤ 2 := by
  have hintsFlat (metadata : Metadata) : Json.entriesNesting metadata.wire ≤ 0 := by
    obtain ⟨animated, height, width, duration⟩ := metadata
    rw [Metadata.wire]
    simp only [Json.entriesNesting_wireEntry_le]
    refine ⟨?_, ?_, ?_, ?_, Nat.le_refl 0⟩
    · cases animated <;> simp [Json.nesting]
    · cases duration <;> simp [Json.nesting]
    · cases height <;> simp [Json.nesting]
    · cases width <;> simp [Json.nesting]
  rw [Json.nesting, wire]
  apply Nat.succ_le_succ
  simp only [Json.entriesNesting_wireEntry_le, thumbnailMediaType_wire isUnbroken]
  refine ⟨?_, ?_, ?_, ?_, ?_, ?_, ?_, ?_, ?_, ?_, ?_, Nat.zero_le 1⟩
  case refine_11 =>
    intro value isHints
    cases given : descriptor.metadata with
    | none =>
      rw [given] at isHints
      cases isHints
    | some metadata =>
      rw [given] at isHints
      obtain ⟨-, rfl⟩ : metadata.wire ≠ [] ∧ Json.object metadata.wire = value := by
        simpa using isHints
      exact Nat.succ_le_succ (hintsFlat metadata)
  all_goals simp [hexJson, Json.nesting]

/-! ## The round trip -/

/-- The JSON of a descriptor begins with a brace and a quote. -/
theorem exists_print_wire_eq {descriptor : Descriptor} {text : WideText}
    (printed : Json.print (.object descriptor.wire) = .ok text) :
    ∃ others, text = .char '\x7b' :: Json.quoteSymbol :: others := by
  obtain ⟨value, entries, wireIs⟩ : ∃ value entries,
      descriptor.wire = ([.char 'b'], value) :: entries := ⟨_, _, rfl⟩
  rw [wireIs, Json.print] at printed
  split at printed
  · next parts arePrinted =>
    obtain ⟨part, otherParts, rfl, -, -⟩ := Json.printEntries_cons arePrinted
    obtain ⟨remaining, joinedIs⟩ := Json.exists_joinCommas_cons
      (Json.printText [.char 'b'] ++ .char ':' :: part) otherParts
    cases printed
    rw [joinedIs]
    exact ⟨_, rfl⟩
  · cases printed

/-- A valid descriptor whose sizes can be written has JSON exactly when its texts are plain, and
then it is read back from it. -/
theorem toJson_of_isValid {descriptor : Descriptor} (isValid : descriptor.IsValid)
    (isShort : descriptor.HasShortSizes) :
    (descriptor.IsPlain → ∃ bytes, descriptor.toJson = .ok bytes ∧
      ofJson (.octets bytes) = .ok descriptor.withoutEmptyHints) ∧
    (¬ descriptor.IsPlain → descriptor.toJson = .error .unencodable) := by
  obtain ⟨text, printed⟩ := Json.exists_print _ (areShort_wire isValid isShort)
  have isPlainIff := (Json.isPlain_print_iff printed).trans (isPlain_wire_iff isValid.isUnbroken)
  constructor
  · intro isPlain
    obtain ⟨chars, rfl⟩ := (isPlainIff.mpr isPlain).exists_chars
    have written : descriptor.toJson = .ok (Utf8.encodeChars chars) := by
      rw [toJson, printed]
      simp only [WideText.encode?_ofChars]
    have decoded : Json.decodeDocument? (Utf8.encodeChars chars) =
        some (WideText.ofChars chars) := by
      obtain ⟨others, textIs⟩ := exists_print_wire_eq printed
      obtain ⟨_, behindBrace, rfl, ⟨⟩, behindIs⟩ := List.map_eq_cons_iff.mp textIs
      obtain ⟨_, rest, rfl, ⟨⟩, -⟩ := List.map_eq_cons_iff.mp behindIs
      exact Json.decodeDocument?_encodeChars (by decide) (by decide) rest
    have parsed : Json.parse (WideText.ofChars chars) = .ok (.object descriptor.wire) :=
      Json.parseWithin_print printed ((nesting_wire_le isValid.isUnbroken).trans (by decide))
    refine ⟨_, written, ?_⟩
    have document : readDocument (.octets (Utf8.encodeChars chars)) =
        .ok (.object descriptor.wire) := by
      unfold readDocument
      simp only [documentText?, Value.byteString?, Option.bind_some, decoded, parsed]
    exact ofJson_eq_ok_iff.mpr ⟨descriptor.wire, document, ofEntries_wire isValid⟩
  · intro isMarred
    have noBytes := WideText.encode?_eq_none_of_not_isPlain
      (fun isPlain => isMarred (isPlainIff.mp isPlain))
    rw [toJson, printed]
    simp only [noBytes]

/-- A descriptor made from any fields whatsoever, whose texts hold no lone surrogates and whose
sizes have few enough digits, has JSON, and the JSON is read as the same descriptor: every field is
the same, except that hints without any content come back as none. -/
theorem ofJson_toJson_of_ofFields {fields : List (String × Value)} {descriptor : Descriptor}
    (made : ofFields fields = .ok descriptor) (isPlain : descriptor.IsPlain)
    (isShort : descriptor.HasShortSizes) :
    ∃ bytes, descriptor.toJson = .ok bytes ∧
      ofJson (.octets bytes) =
        .ok { descriptor with metadata := descriptor.metadata.filter (· ≠ Metadata.empty) } :=
  (toJson_of_isValid (isValid_of_ofFields made) isShort).1 isPlain

/-- The fields of a video with several hints and an empty description. -/
def clipFields : List (String × Value) :=
  [("file_blob_id", .blobId ⟨Octets.zero 16⟩), ("media_type", .ofString "video/mp4"),
    ("blob_encryption_key", .symmetricKey ⟨Octets.zero 32⟩), ("file_size_bytes", .whole 1000),
    ("file_name", .ofString "a\"\n\x7b"), ("description", .ofString ""),
    ("rendering_type", .rendering .media),
    ("metadata", .metadata ⟨some true, some 480, none, some ⟨.infinity false, rfl⟩⟩)]

/-- The descriptor of that video. -/
def clip : Descriptor where
  fileBlobId := ⟨Octets.zero 16⟩
  mediaType := WideText.ofString "video/mp4"
  encryptionKey := Octets.zero 32
  fileSize := 1000
  thumbnailBlobId := none
  thumbnailMediaType := none
  fileName := some (WideText.ofString "a\"\n\x7b")
  description := some []
  rendering := .media
  metadata := some ⟨some true, some 480, none, some ⟨.infinity false, rfl⟩⟩

theorem ofJson_toJson_clip :
    ofFields clipFields = .ok clip ∧ clip.IsPlain ∧ clip.HasShortSizes ∧
      ∃ bytes, clip.toJson = .ok bytes ∧ ofJson (.octets bytes) =
        .ok { clip with metadata := clip.metadata.filter (· ≠ Metadata.empty) } := by
  have made : ofFields clipFields = .ok clip := rfl
  have isPlain : clip.IsPlain := by
    refine ⟨WideText.isPlain_ofChars _, nofun, ?_, ?_⟩
    · rintro text ⟨⟩
      exact WideText.isPlain_ofChars _
    · rintro text ⟨⟩
      exact nofun
  have isShort : clip.HasShortSizes := by
    rintro metadata ⟨⟩
    refine ⟨?_, nofun⟩
    rintro height ⟨⟩
    exact isShort_of_le_sizeLimit (by decide)
  exact ⟨made, isPlain, isShort, ofJson_toJson_of_ofFields made isPlain isShort⟩

end Descriptor
end SealedGateway
