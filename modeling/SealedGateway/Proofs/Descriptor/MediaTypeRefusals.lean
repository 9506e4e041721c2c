import SealedGateway.Proofs.Descriptor.Receiving

/-!
# Media types by their grammar

The texts that are media types are written down here character by character: two runs of token
characters with a slash between them and, behind them, nothing, or blanks, a semicolon and anything
but line feeds.  The fields of a descriptor take exactly these texts.  Fields that ask for another
text are refused for it, and a document that holds another one is malformed.
-/

namespace SealedGateway

attribute [local instance (2000)] instPowNat

namespace MediaType

/-- The characters of tokens: the letters and digits of ASCII and nine marks. -/
def IsTokenChar (char : Char) : Prop :=
  'A' ≤ char ∧ char ≤ 'Z' ∨ 'a' ≤ char ∧ char ≤ 'z' ∨ '0' ≤ char ∧ char ≤ '9' ∨
    char ∈ ['!', '#', '$', '&', '^', '_', '.', '+', '-']

/-- The code points of blanks, the line breaks and the separators of information among them. -/
def blankCodes : List Nat :=
  [0x09, 0x0A, 0x0B, 0x0C, 0x0D, 0x1C, 0x1D, 0x1E, 0x1F, 0x20, 0x85, 0xA0, 0x1680, 0x2000, 0x2001,
    0x2002, 0x2003, 0x2004, 0x2005, 0x2006, 0x2007, 0x2008, 0x2009, 0x200A, 0x2028, 0x2029, 0x202F,
    0x205F, 0x3000]

/-- Whether characters are a run of token characters. -/
def IsWord (chars : List Char) : Prop :=
  chars ≠ [] ∧ ∀ char ∈ chars, IsTokenChar char

/-- Whether a text is written like parameters. -/
def IsParameterText (text : WideText) : Prop :=
  ∃ blanks value, text = WideText.ofChars blanks ++ .char ';' :: value ∧
    (∀ char ∈ blanks, char.toNat ∈ blankCodes) ∧ .char '\n' ∉ value

/-- Whether a text is written like a media type. -/
def IsWritten (text : WideText) : Prop :=
  ∃ mainType subtype rest, text = WideText.ofChars (mainType ++ '/' :: subtype) ++ rest ∧
    IsWord mainType ∧ IsWord subtype ∧ (rest = [] ∨ IsParameterText rest)

/-! ## The classes of characters -/

theorem isAlphanum_iff {char : Char} :
    char.isAlphanum = true ↔
      'A' ≤ char ∧ char ≤ 'Z' ∨ 'a' ≤ char ∧ char ≤ 'z' ∨ '0' ≤ char ∧ char ≤ '9' := by
  have isUpper_iff : char.isUpper = true ↔ 'A' ≤ char ∧ char ≤ 'Z' := decide_eq_true_iff
  have isLower_iff : char.isLower = true ↔ 'a' ≤ char ∧ char ≤ 'z' :=
    Bool.and_eq_true_iff.trans (and_congr decide_eq_true_iff decide_eq_true_iff)
  have isDigit_iff : char.isDigit = true ↔ '0' ≤ char ∧ char ≤ '9' :=
    Bool.and_eq_true_iff.trans (and_congr decide_eq_true_iff decide_eq_true_iff)
  change ((char.isUpper || char.isLower) || char.isDigit) = true ↔ _
  rw [Bool.or_eq_true, Bool.or_eq_true, isUpper_iff, isLower_iff, isDigit_iff, or_assoc]

theorem isTokenChar_iff {char : Char} : isTokenChar char = true ↔ IsTokenChar char := by
  simp only [isTokenChar, IsTokenChar, Bool.or_eq_true, decide_eq_true_eq, isAlphanum_iff, or_assoc,
    List.mem_cons, List.not_mem_nil, or_false]

theorem isBlank_iff {char : Char} : Text.isBlank char = true ↔ char.toNat ∈ blankCodes := by
  simp only [Text.isBlank, Text.isWhiteSpace, blankCodes, Bool.or_eq_true, Bool.and_eq_true,
    beq_iff_eq, decide_eq_true_eq, List.mem_cons, List.not_mem_nil, or_false]
  omega

/-! ## The grammar -/

theorem isToken_iff {text : WideText} :
    IsToken text ↔ ∃ chars, text = WideText.ofChars chars ∧ IsWord chars := by
  have isRun_iff : (∀ symbol ∈ text, isTokenSymbol symbol = true) ↔
      ∃ chars, text = WideText.ofChars chars ∧ ∀ char ∈ chars, isTokenChar char = true :=
    WideText.forall_mem_iff nofun
  simp only [isTokenChar_iff] at isRun_iff
  rw [IsToken, isRun_iff]
  constructor
  · rintro ⟨isNonempty, chars, rfl, areToken⟩
    exact ⟨chars, rfl, mt (congrArg WideText.ofChars) isNonempty, areToken⟩
  · rintro ⟨chars, rfl, isNonempty, areToken⟩
    exact ⟨mt List.map_eq_nil_iff.mp isNonempty, chars, rfl, areToken⟩

theorem hasParameters_iff {text : WideText} : HasParameters text ↔ IsParameterText text := by
  have isRun_iff (blanks : WideText) : (∀ symbol ∈ blanks, isBlankSymbol symbol = true) ↔
      ∃ chars, blanks = WideText.ofChars chars ∧ ∀ char ∈ chars, Text.isBlank char = true :=
    WideText.forall_mem_iff nofun
  simp only [isBlank_iff] at isRun_iff
  simp only [HasParameters, isRun_iff]
  constructor
  · rintro ⟨_, value, textIs, ⟨blanks, rfl, areBlank⟩, noLineFeed⟩
    exact ⟨blanks, value, textIs, areBlank, noLineFeed⟩
  · rintro ⟨blanks, value, textIs, areBlank, noLineFeed⟩
    exact ⟨_, value, textIs, ⟨blanks, rfl, areBlank⟩, noLineFeed⟩

/-- The texts that are read as media types are those that are written like one. -/
theorem isWritten_iff {text : WideText} : IsWritten text ↔ isMediaType text = true := by
  have joined (mainType subtype : List Char) (rest : WideText) :
      WideText.ofChars (mainType ++ '/' :: subtype) ++ rest =
        WideText.ofChars mainType ++ .char '/' :: (WideText.ofChars subtype ++ rest) := by
    simp [WideText.ofChars]
  rw [isMediaType_iff]
  simp only [IsWritten, Matches, isToken_iff, hasParameters_iff, joined]
  constructor
  · rintro ⟨mainType, subtype, rest, textIs, isMainType, isSubtype, isRest⟩
    exact ⟨_, _, rest, textIs, ⟨mainType, rfl, isMainType⟩, ⟨subtype, rfl, isSubtype⟩, isRest⟩
  · rintro ⟨_, _, rest, textIs, ⟨mainType, rfl, isMainType⟩, ⟨subtype, rfl, isSubtype⟩, isRest⟩
    exact ⟨mainType, subtype, rest, textIs, isMainType, isSubtype, isRest⟩

end MediaType

namespace Descriptor

variable {text : WideText}

/-- The fault of a text that is no media type. -/
def mediaTypeFault (text : WideText) : FieldFault :=
  .broken (.badMediaType (Text.quoteWide text))

theorem readMediaType_of_isWritten (isWritten : MediaType.IsWritten text) :
    readMediaType (.text text) = .ok text :=
  if_pos (MediaType.isWritten_iff.mp isWritten)

theorem readMediaType_of_not_isWritten (isOther : ¬ MediaType.IsWritten text) :
    readMediaType (.text text) = .error (mediaTypeFault text) :=
  if_neg (mt MediaType.isWritten_iff.mpr isOther)

/-- A field takes a text as a media type exactly if it is written like one, and keeps it. -/
theorem readMediaType_eq_ok_iff :
    readMediaType (.text text) = .ok text ↔ MediaType.IsWritten text := by
  constructor
  · intro isRead
    by_contra isOther
    rw [readMediaType_of_not_isWritten isOther] at isRead
    cases isRead
  · exact readMediaType_of_isWritten

/-- A text that is no media type is at fault where it is asked for, as the media type of the file or
as that of the thumbnail. -/
theorem fault_of_asked {mediaType? thumbnailMediaType? : Option Value}
    (isOther : ¬ MediaType.IsWritten text)
    (asked : mediaType? = some (.text text) ∨ thumbnailMediaType? = some (.text text)) :
    Field.readRequired readMediaType mediaType? = .error (mediaTypeFault text) ∨
      Field.readOptional readMediaType thumbnailMediaType? = .error (mediaTypeFault text) := by
  have isFault := readMediaType_of_not_isWritten isOther
  rcases asked with rfl | rfl
  · left
    rw [Field.readRequired, isFault]
  · right
    change (readMediaType (.text text)).map some = _
    rw [isFault]
    rfl

/-- Two media types one of which is at fault are not both read. -/
theorem not_both_read {mediaType? thumbnailMediaType? : Option Value} {fault : FieldFault}
    (isFault : Field.readRequired readMediaType mediaType? = .error fault ∨
      Field.readOptional readMediaType thumbnailMediaType? = .error fault)
    {mediaType : WideText} {thumbnailMediaType : Option WideText}
    (isRead : Field.readRequired readMediaType mediaType? = .ok mediaType) :
    Field.readOptional readMediaType thumbnailMediaType? ≠ .ok thumbnailMediaType := by
  intro thumbnailRead
  rcases isFault with isFault | isFault
  · cases isFault.symm.trans isRead
  · cases isFault.symm.trans thumbnailRead

/-! ## Fields -/

/-- Whether fields ask for a text as a media type, of the file or of its thumbnail. -/
def AsksFor (text : WideText) (fields : List (String × Value)) : Prop :=
  Field.find? "media_type" fields = some (.text text) ∨
    Field.find? "thumbnail_media_type" fields = some (.text text)

/-- Whether the rendering among fields can be compared with the known ones: if it is a whole number,
it is in the range of a signed word. -/
def HasComparableRendering (fields : List (String × Value)) : Prop :=
  ∀ value number, Field.find? "rendering_type" fields = some value →
    Field.readWhole value = .ok number →
      -(2 ^ (63 : Nat) : Int) ≤ number ∧ number < (2 ^ (63 : Nat) : Int)

theorem exists_readRenderingField {fields : List (String × Value)}
    (isComparable : HasComparableRendering fields) :
    ∃ reading, readRenderingField (Field.find? "rendering_type" fields) = .ok reading := by
  cases found : Field.find? "rendering_type" fields with
  | none => exact ⟨_, rfl⟩
  | some value =>
    rw [readRenderingField]
    unfold readRendering
    simp only
    split
    · exact ⟨_, rfl⟩
    split
    · exact ⟨_, rfl⟩
    · next number isWhole =>
      have isInRange := isComparable value number found isWhole
      rw [if_neg (by omega)]
      split
      · exact ⟨_, rfl⟩
      · exact ⟨_, rfl⟩

/-- No descriptor is made from fields one of whose media types is at fault. -/
theorem ofFields_ne_ok_of_mediaTypeFault {fields : List (String × Value)} {fault : FieldFault}
    (isFault : Field.readRequired readMediaType (Field.find? "media_type" fields) = .error fault ∨
      Field.readOptional readMediaType (Field.find? "thumbnail_media_type" fields) = .error fault)
    (descriptor : Descriptor) : ofFields fields ≠ .ok descriptor := by
  intro made
  obtain ⟨-, mediaTypeRead, -, -, -, thumbnailRead, -⟩ := ofFields_eq_ok_iff.mp made
  exact not_both_read isFault mediaTypeRead thumbnailRead

/-- A fault of one of the media types is among the faults for which fields are refused. -/
theorem refused_of_mediaTypeFault {fields : List (String × Value)} {fault : FieldFault}
    (isComparable : HasComparableRendering fields)
    (isFault : Field.readRequired readMediaType (Field.find? "media_type" fields) = .error fault ∨
      Field.readOptional readMediaType (Field.find? "thumbnail_media_type" fields) =
        .error fault) :
    ∃ faults, fault ∈ faults ∧ ofFields fields = .error (.invalidDescriptor faults) := by
  obtain ⟨reading, renderingRead⟩ := exists_readRenderingField isComparable
  unfold ofFields
  simp only
  split
  · next failure isFailed => cases renderingRead.symm.trans isFailed
  split
  · next mediaTypeRead _ _ _ thumbnailRead _ _ _ _ =>
    exact absurd thumbnailRead (not_both_read isFault mediaTypeRead)
  · refine ⟨_, ?_, rfl⟩
    rcases isFault with isFault | isFault
    · simp [isFault, faultOf, Field.fault?]
    · simp [isFault, faultOf, Field.fault?]

/-! ## Documents -/

/-- Whether entries hold a text as a media type, of the file or of its thumbnail. -/
def Holds (text : WideText) (entries : List (WideText × Json)) : Prop :=
  Json.lookup? "m" entries = some (.text text) ∨ Json.lookup? "p" entries = some (.text text)

/-- The media types of a descriptor in a received object are read from its entries. -/
theorem mediaTypes_of_ofEntries {entries : List (WideText × Json)} {descriptor : Descriptor}
    (made : ofEntries entries = .ok descriptor) :
    Field.readRequired readMediaType (entryValue? "m" entries) = .ok descriptor.mediaType ∧
      Field.readOptional readMediaType (entryValue? "p" entries) =
        .ok descriptor.thumbnailMediaType := by
  unfold ofEntries at made
  split at made
  · cases made
  split at made
  · cases made
  obtain ⟨-, mediaType, -, -, -, thumbnailMediaType, -⟩ := ofFields_eq_ok_iff.mp made
  change Field.readRequired readMediaType
    (Field.find? _ (Field.given (entryValue? · entries) _ ++ _)) = _ at mediaType
  change Field.readOptional readMediaType
    (Field.find? _ (Field.given (entryValue? · entries) _ ++ _)) = _ at thumbnailMediaType
  simp +decide only [Field.find?_given_cons, Field.given_nil, Field.find?_cons, Field.find?_nil,
    List.nil_append, if_true, if_false, Option.none_or, Option.or_none]
    at mediaType thumbnailMediaType
  exact ⟨mediaType, thumbnailMediaType⟩

/-- No descriptor is in an object that holds another text. -/
theorem ofEntries_ne_ok_of_holds {entries : List (WideText × Json)}
    (isOther : ¬ MediaType.IsWritten text) (holds : Holds text entries) (descriptor : Descriptor) :
    ofEntries entries ≠ .ok descriptor := by
  intro made
  obtain ⟨mediaTypeRead, thumbnailRead⟩ := mediaTypes_of_ofEntries made
  have asked : entryValue? "m" entries = some (.text text) ∨
      entryValue? "p" entries = some (.text text) :=
    holds.imp (congrArg (Option.map Json.toValue)) (congrArg (Option.map Json.toValue))
  exact not_both_read (fault_of_asked isOther asked) mediaTypeRead thumbnailRead

/-- A document whose object holds another text is malformed. -/
theorem ofJson_of_holds {document : Value} {entries : List (WideText × Json)}
    (isRead : readDocument document = .ok (.object entries))
    (isOther : ¬ MediaType.IsWritten text) (holds : Holds text entries) :
    ofJson document = .error (.malformed .malformedDescriptor) := by
  cases received : ofReceived (.object entries) with
  | ok descriptor => exact absurd received (ofEntries_ne_ok_of_holds isOther holds descriptor)
  | error failure => exact ofJson_of_refused isRead received

/-- The texts taken as media types are two runs of token characters with a slash between them and,
behind them, nothing, or blanks, a semicolon and anything but line feeds.  Another text is refused
wherever it stands for one.  No descriptor is made from fields that ask for it, and its fault is
reported with the others if the rendering can be compared at all; a document that holds it is
malformed. -/
theorem mediaType_language :
    (∀ text : WideText, readMediaType (.text text) = .ok text ↔ MediaType.IsWritten text) ∧
    ∀ text : WideText, ¬ MediaType.IsWritten text →
      readMediaType (.text text) = .error (mediaTypeFault text) ∧
      (∀ fields, AsksFor text fields → ∀ descriptor, ofFields fields ≠ .ok descriptor) ∧
      (∀ fields, AsksFor text fields → HasComparableRendering fields →
        ∃ faults, mediaTypeFault text ∈ faults ∧
          ofFields fields = .error (.invalidDescriptor faults)) ∧
      ∀ document entries, readDocument document = .ok (.object entries) → Holds text entries →
        ofJson document = .error (.malformed .malformedDescriptor) := by
  refine ⟨fun text => readMediaType_eq_ok_iff, fun text isOther => ⟨?_, ?_, ?_, ?_⟩⟩
  · exact readMediaType_of_not_isWritten isOther
  · intro fields asks
    exact ofFields_ne_ok_of_mediaTypeFault (fault_of_asked isOther asks)
  · intro fields asks isComparable
    exact refused_of_mediaTypeFault isComparable (fault_of_asked isOther asks)
  · intro document entries isRead holds
    exact ofJson_of_holds isRead isOther holds

/-- A media type with a blank behind it. -/
def blankEnded : WideText := WideText.ofString "image/png "

/-- The fields of a file, but for the blank behind the media type of its preview. -/
def blankEndedFields : List (String × Value) :=
  [("file_blob_id", .blobId ⟨Octets.zero 16⟩), ("media_type", .ofString "application/pdf"),
    ("blob_encryption_key", .octets (List.replicate 32 0)), ("file_size_bytes", .whole 2048),
    ("thumbnail_blob_id", .blobId ⟨Octets.zero 16⟩), ("thumbnail_media_type", .text blankEnded),
    ("rendering_type", .rendering .media)]

/-- The JSON of an image, but for the blank behind its media type. -/
def blankEndedText : WideText :=
  WideText.ofString "\x7b\"b\":\"" ++ WideText.ofChars (List.replicate 32 '0') ++
    WideText.ofString "\",\"m\":\"image/png \",\"k\":\"" ++
    WideText.ofChars (List.replicate 64 '0') ++ WideText.ofString "\",\"s\":2048\x7d"

/-- The document of that JSON. -/
def blankEndedDocument : Value := .text blankEndedText

/-- The entries of that JSON. -/
def blankEndedEntries : List (WideText × Json) :=
  [(WideText.ofString "b", .text (WideText.ofChars (List.replicate 32 '0'))),
    (WideText.ofString "m", .text blankEnded),
    (WideText.ofString "k", .text (WideText.ofChars (List.replicate 64 '0'))),
    (WideText.ofString "s", .whole 2048)]

theorem print_blankEndedEntries :
    Json.print (.object blankEndedEntries) = .ok blankEndedText := by
  decide +kernel

theorem readDocument_blankEndedDocument :
    readDocument blankEndedDocument = .ok (.object blankEndedEntries) := by
  have isParsed : Json.parse blankEndedText = .ok (.object blankEndedEntries) :=
    Json.parseWithin_print print_blankEndedEntries (by decide)
  have isText : documentText? (.text blankEndedText) = some blankEndedText := by
    rw [documentText?, if_neg (by decide)]
  rw [blankEndedDocument, readDocument, isText]
  simp only [isParsed]

/-- A line break in front of the semicolon is part of a media type, but a blank without a semicolon
behind it is not, among fields and in a document. -/
theorem mediaType_language_of_blankEnd :
    MediaType.IsWritten (WideText.ofString "image/png\n;a/b") ∧
    ¬ MediaType.IsWritten blankEnded ∧
    (AsksFor blankEnded blankEndedFields ∧ HasComparableRendering blankEndedFields ∧
      ∃ faults, mediaTypeFault blankEnded ∈ faults ∧
        ofFields blankEndedFields = .error (.invalidDescriptor faults)) ∧
    (readDocument blankEndedDocument = .ok (.object blankEndedEntries) ∧
      Holds blankEnded blankEndedEntries ∧
      ofJson blankEndedDocument = .error (.malformed .malformedDescriptor)) := by
  obtain ⟨isTaken_iff, refused⟩ := mediaType_language
  have isOther : ¬ MediaType.IsWritten blankEnded := by
    rw [MediaType.isWritten_iff]
    decide
  have asks : AsksFor blankEnded blankEndedFields := .inr rfl
  have isComparable : HasComparableRendering blankEndedFields := by
    rintro _ number ⟨⟩ isWhole
    cases isWhole
    decide
  have holds : Holds blankEnded blankEndedEntries := .inl rfl
  obtain ⟨-, -, reported, malformed⟩ := refused blankEnded isOther
  refine ⟨(isTaken_iff _).mp rfl, isOther, ⟨asks, isComparable, ?_⟩,
    readDocument_blankEndedDocument, holds, ?_⟩
  · exact reported blankEndedFields asks isComparable
  · exact malformed _ blankEndedEntries readDocument_blankEndedDocument holds

end Descriptor
end SealedGateway
