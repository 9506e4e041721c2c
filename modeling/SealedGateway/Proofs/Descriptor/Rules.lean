import SealedGateway.Proofs.Descriptor.MediaType
import SealedGateway.Proofs.Descriptor.Resending
import SealedGateway.Proofs.Key.Reading

/-!
# The rules of descriptors

A draft says what a caller asks for, with every field of its declared kind.  A descriptor is made
from it exactly when the draft keeps the rules, and otherwise the draft is refused for the faults of
its fields.  Every descriptor, whether it is made or received, keeps the same rules, and what it
puts on the wire shows that it does.
-/

namespace SealedGateway

attribute [local instance (2000)] instPowNat

/-- The identifier of a blob as it is given. -/
inductive GivenBlobId
  | ready (blobId : BlobId)
  | spelled (text : WideText)

namespace GivenBlobId

/-- The identifier as an argument. -/
def value : GivenBlobId → Value
  | ready blobId => .blobId blobId
  | spelled text => .text text

/-- Whether the identifier can be read. -/
def IsReadable : GivenBlobId → Prop
  | ready _ => True
  | spelled text => text.IsHexOf 16

end GivenBlobId

/-- The key of a file as it is given. -/
inductive GivenKey
  | ready (key : SymmetricKey)
  | octets (bytes : Bytes)
  | buffer (bytes : Bytes)
  | spelled (text : WideText)

namespace GivenKey

/-- The key as an argument. -/
def value : GivenKey → Value
  | ready key => .symmetricKey key
  | octets bytes => .octets bytes
  | buffer bytes => .buffer bytes
  | spelled text => .text text

/-- Whether the key can be read. -/
def IsReadable : GivenKey → Prop
  | ready _ => True
  | octets bytes | buffer bytes => bytes.length = 32
  | spelled text => text.IsHexOf 32

end GivenKey

namespace Descriptor

/-- What a caller asks for, with every field of its declared kind. -/
structure Draft where
  fileBlobId : GivenBlobId
  mediaType : WideText
  encryptionKey : GivenKey
  fileSize : Int
  thumbnailBlobId : Option GivenBlobId
  thumbnailMediaType : Option WideText
  fileName : Option WideText
  description : Option WideText
  /-- How the file is shown; a plain file if nothing is said. -/
  rendering : Option Rendering
  metadata : Option Metadata

end Descriptor

/-- Whether an optional field is given as some content: what is absent is left out or null. -/
def Field.IsGivenAs (content? found? : Option Value) : Prop :=
  found? = content? ∨ content? = none ∧ found? = some .null

namespace Descriptor.Draft

/-- The rendering that a draft asks for. -/
def shownAs (draft : Draft) : Rendering :=
  draft.rendering.getD .file

/-- Whether fields are those of a draft, perhaps among others.  Whatever counts as the number of the
size may stand for it. -/
structure IsGivenIn (draft : Draft) (fields : List (String × Value)) : Prop where
  fileBlobId : Field.find? "file_blob_id" fields = some draft.fileBlobId.value
  mediaType : Field.find? "media_type" fields = some (.text draft.mediaType)
  encryptionKey : Field.find? "blob_encryption_key" fields = some draft.encryptionKey.value
  fileSize : ∃ size, Field.find? "file_size_bytes" fields = some size ∧
    size.index? = some draft.fileSize
  thumbnailBlobId : Field.IsGivenAs (draft.thumbnailBlobId.map GivenBlobId.value)
    (Field.find? "thumbnail_blob_id" fields)
  thumbnailMediaType : Field.IsGivenAs (draft.thumbnailMediaType.map .text)
    (Field.find? "thumbnail_media_type" fields)
  fileName : Field.IsGivenAs (draft.fileName.map .text) (Field.find? "file_name" fields)
  description : Field.IsGivenAs (draft.description.map .text) (Field.find? "description" fields)
  rendering : Field.find? "rendering_type" fields = draft.rendering.map .rendering
  metadata : Field.IsGivenAs (draft.metadata.map .metadata) (Field.find? "metadata" fields)

/-- The rules of descriptors. -/
structure KeepsRules (draft : Draft) : Prop where
  fileBlobId : draft.fileBlobId.IsReadable
  mediaType : MediaType.Matches draft.mediaType
  encryptionKey : draft.encryptionKey.IsReadable
  fileSize : 0 ≤ draft.fileSize ∧ draft.fileSize ≤ 2 ^ (32 : Nat) - 1
  thumbnailBlobId : ∀ blobId ∈ draft.thumbnailBlobId, blobId.IsReadable
  thumbnailMediaType : ∀ mediaType ∈ draft.thumbnailMediaType, MediaType.Matches mediaType
  thumbnail : draft.thumbnailBlobId.isSome = draft.thumbnailMediaType.isSome
  metadata : draft.shownAs = .file → draft.metadata = none
  duration : draft.shownAs = .sticker → ∀ metadata ∈ draft.metadata, metadata.duration = none

end Descriptor.Draft

/-! ## Readable fields -/

namespace Field

variable {α : Type} {read : Value → Except FieldFault α}

/-- Content that is left out is read like content that is null. -/
theorem readOptional_of_isGivenAs {content? found? : Option Value}
    (given : IsGivenAs content? found?) :
    readOptional read found? = readOptional read content? := by
  rcases given with rfl | ⟨rfl, rfl⟩
  · rfl
  · rfl

/-- An optional field is read exactly when there is nothing to read or its content is read. -/
theorem exists_readOptional_iff {β : Type} {write : β → Value} {content? : Option β}
    (isGiven : ∀ content, write content ≠ .null) :
    (∃ result, readOptional read (content?.map write) = .ok result) ↔
      ∀ content ∈ content?, ∃ result, read (write content) = .ok result := by
  cases content? with
  | none => exact ⟨fun _ => nofun, fun _ => ⟨none, rfl⟩⟩
  | some content =>
    rw [Option.map_some, readOptional]
    · cases result : read (write content) with
      | error fault => simp [result, Except.map]
      | ok value => simp [result, Except.map]
    · exact isGiven content

/-- What is read from an optional field is there exactly when there is something to read. -/
theorem isSome_of_readOptional {β : Type} {write : β → Value} {content? : Option β}
    {result? : Option α} (isGiven : ∀ content, write content ≠ .null)
    (isRead : readOptional read (content?.map write) = .ok result?) :
    result?.isSome = content?.isSome := by
  cases content? with
  | none =>
    cases isRead
    rfl
  | some content =>
    rw [Option.map_some, readOptional] at isRead
    · cases result : read (write content) with
      | error fault =>
        rw [result] at isRead
        cases isRead
      | ok value =>
        rw [result] at isRead
        cases isRead
        rfl
    · exact isGiven content

/-- What counts as a number is read as a size exactly when the number is within the bounds. -/
theorem exists_readSize_iff {value : Value} {number : Int} (isNumber : value.index? = some number) :
    (∃ size, readSize value = .ok size) ↔ 0 ≤ number ∧ number ≤ 2 ^ (32 : Nat) - 1 := by
  have isRead : readWhole value = .ok number := by
    cases value <;> cases isNumber <;> rfl
  rw [readSize, readCount, isRead]
  by_cases isNonnegative : 0 ≤ number
  · have isBound : number.toNat ≤ sizeLimit ↔ number ≤ 2 ^ (32 : Nat) - 1 := by
      unfold sizeLimit
      omega
    simp only [if_pos isNonnegative]
    by_cases isWithin : number.toNat ≤ sizeLimit
    · simp only [if_pos isWithin]
      exact ⟨fun _ => ⟨isNonnegative, isBound.mp isWithin⟩, fun _ => ⟨number.toNat, rfl⟩⟩
    · simp only [if_neg isWithin]
      refine ⟨?_, fun bounds => absurd (isBound.mpr bounds.2) isWithin⟩
      rintro ⟨_, ⟨⟩⟩
  · simp [isNonnegative]

end Field

namespace Descriptor

theorem exists_readBlobId_iff {given : GivenBlobId} :
    (∃ blobId, readBlobId given.value = .ok blobId) ↔ given.IsReadable := by
  cases given with
  | ready blobId => exact ⟨fun _ => trivial, fun _ => ⟨blobId, rfl⟩⟩
  | spelled text =>
    rw [GivenBlobId.IsReadable, ← Value.exists_hexOctets_iff, GivenBlobId.value, readBlobId,
      BlobId.ofText]
    cases (Value.text text).hexOctets 16 with
    | error fault => simp [Except.map]
    | ok octets => simp [Except.map]

theorem exists_readKey_iff {given : GivenKey} :
    (∃ key, readKey given.value = .ok key) ↔ given.IsReadable := by
  have exists_of_bytes {value : Value} {bytes : Bytes}
      (isBytes : value = .octets bytes ∨ value = .buffer bytes) :
      (∃ key, readKey value = .ok key) ↔ bytes.length = 32 := by
    have isFixed : value.octets? 32 = Octets.ofList? 32 bytes := by
      rcases isBytes with rfl | rfl <;> rfl
    cases fixed : Octets.ofList? 32 bytes with
    | none =>
      have isInexact := Octets.ofList?_eq_none_iff.mp fixed
      rcases isBytes with rfl | rfl <;> simp [readKey, isFixed, fixed, isInexact]
    | some octets =>
      have isExact : bytes.length = 32 := by
        rw [← Octets.toList_of_ofList? fixed, Octets.length_toList]
      rcases isBytes with rfl | rfl <;> simp [readKey, isFixed, fixed, isExact]
  cases given with
  | ready key => exact ⟨fun _ => trivial, fun _ => ⟨key.octets, rfl⟩⟩
  | octets bytes => exact exists_of_bytes (.inl rfl)
  | buffer bytes => exact exists_of_bytes (.inr rfl)
  | spelled text =>
    rw [GivenKey.IsReadable, ← Value.exists_hexOctets_iff, GivenKey.value, readKey]
    cases (Value.text text).hexOctets 32 with
    | error fault => simp
    | ok octets => simp

theorem exists_readMediaType_iff {text : WideText} :
    (∃ mediaType, readMediaType (.text text) = .ok mediaType) ↔ MediaType.Matches text := by
  rw [← MediaType.isMediaType_iff, readMediaType, Field.readText]
  by_cases isMediaType : MediaType.isMediaType text = true
  · simp [isMediaType]
  · simp [isMediaType]

/-! ## Made descriptors -/

/-- Unless the rendering cannot be compared at all, fields make a descriptor or are refused for
their faults. -/
theorem made_or_refused {fields : List (String × Value)} {reading : Except FieldFault Rendering}
    (renderingRead : readRenderingField (Field.find? "rendering_type" fields) = .ok reading) :
    (∃ descriptor, ofFields fields = .ok descriptor) ∨
      ∃ faults, ofFields fields = .error (.invalidDescriptor faults) := by
  generalize outcome : ofFields fields = result
  unfold ofFields at outcome
  simp only at outcome
  split at outcome
  · next failure isFailed =>
    cases renderingRead.symm.trans isFailed
  split at outcome
  · split at outcome
    · exact .inr ⟨_, outcome.symm⟩
    · exact .inl ⟨_, outcome.symm⟩
  · exact .inr ⟨_, outcome.symm⟩

/-- The rules that join fields, each for its own rendering. -/
theorem allowed_iff {metadata? : Option Metadata} {rendering : Rendering} :
    (∀ metadata ∈ metadata?, rendering ≠ .file ∧
        (rendering = .sticker → metadata.duration = none)) ↔
      (rendering = .file → metadata? = none) ∧
        (rendering = .sticker → ∀ metadata ∈ metadata?, metadata.duration = none) := by
  cases metadata? with
  | none => simp
  | some metadata => cases rendering <;> simp

namespace Draft

variable {draft : Draft} {fields : List (String × Value)}

theorem readRenderingField_of_isGivenIn (isGiven : draft.IsGivenIn fields) :
    readRenderingField (Field.find? "rendering_type" fields) = .ok (.ok draft.shownAs) := by
  rw [isGiven.rendering, shownAs]
  cases draft.rendering <;> rfl

theorem readMetadata_of_isGivenIn (isGiven : draft.IsGivenIn fields) :
    readMetadata (Field.find? "metadata" fields) = .ok draft.metadata := by
  rcases isGiven.metadata with isFound | ⟨isAbsent, isNull⟩
  · rw [isFound]
    cases draft.metadata <;> rfl
  · cases metadata : draft.metadata with
    | none =>
      rw [isNull]
      rfl
    | some hints =>
      rw [metadata] at isAbsent
      cases isAbsent

theorem value_ne_null (given : GivenBlobId) : given.value ≠ .null := by
  cases given <;> nofun

/-- The fields of a draft are read exactly when the draft keeps the rules of single fields. -/
theorem exists_readings_iff (isGiven : draft.IsGivenIn fields) :
    ((∃ blobId, Field.readRequired readBlobId (Field.find? "file_blob_id" fields) = .ok blobId) ↔
      draft.fileBlobId.IsReadable) ∧
    ((∃ text, Field.readRequired readMediaType (Field.find? "media_type" fields) = .ok text) ↔
      MediaType.Matches draft.mediaType) ∧
    ((∃ key, Field.readRequired readKey (Field.find? "blob_encryption_key" fields) = .ok key) ↔
      draft.encryptionKey.IsReadable) ∧
    ((∃ size, Field.readRequired Field.readSize (Field.find? "file_size_bytes" fields) =
      .ok size) ↔ 0 ≤ draft.fileSize ∧ draft.fileSize ≤ 2 ^ (32 : Nat) - 1) ∧
    ((∃ blobId?, Field.readOptional readBlobId (Field.find? "thumbnail_blob_id" fields) =
      .ok blobId?) ↔ ∀ blobId ∈ draft.thumbnailBlobId, blobId.IsReadable) ∧
    ((∃ text?, Field.readOptional readMediaType (Field.find? "thumbnail_media_type" fields) =
      .ok text?) ↔ ∀ text ∈ draft.thumbnailMediaType, MediaType.Matches text) := by
  obtain ⟨size, sizeFound, isNumber⟩ := isGiven.fileSize
  refine ⟨?_, ?_, ?_, ?_, ?_, ?_⟩
  · rw [isGiven.fileBlobId]
    exact exists_readBlobId_iff
  · rw [isGiven.mediaType]
    exact exists_readMediaType_iff
  · rw [isGiven.encryptionKey]
    exact exists_readKey_iff
  · rw [sizeFound]
    exact Field.exists_readSize_iff isNumber
  · rw [Field.readOptional_of_isGivenAs isGiven.thumbnailBlobId,
      Field.exists_readOptional_iff value_ne_null]
    simp only [exists_readBlobId_iff]
  · rw [Field.readOptional_of_isGivenAs isGiven.thumbnailMediaType,
      Field.exists_readOptional_iff nofun]
    simp only [exists_readMediaType_iff]

/-- What is read from the fields of a draft breaks no rule exactly when the draft keeps the rules
that join fields. -/
theorem brokenRule?_eq_none_iff_of_isGivenIn (isGiven : draft.IsGivenIn fields)
    {descriptor : Descriptor}
    (blobRead : Field.readOptional readBlobId (Field.find? "thumbnail_blob_id" fields) =
      .ok descriptor.thumbnailBlobId)
    (mediaTypeRead : Field.readOptional readMediaType
      (Field.find? "thumbnail_media_type" fields) = .ok descriptor.thumbnailMediaType)
    (isShown : descriptor.rendering = draft.shownAs)
    (hasHints : descriptor.metadata = draft.metadata) :
    descriptor.brokenRule? = none ↔
      draft.thumbnailBlobId.isSome = draft.thumbnailMediaType.isSome ∧
        (draft.shownAs = .file → draft.metadata = none) ∧
        (draft.shownAs = .sticker → ∀ metadata ∈ draft.metadata, metadata.duration = none) := by
  rw [Field.readOptional_of_isGivenAs isGiven.thumbnailBlobId] at blobRead
  rw [Field.readOptional_of_isGivenAs isGiven.thumbnailMediaType] at mediaTypeRead
  rw [brokenRule?_eq_none_iff, isShown, hasHints, allowed_iff,
    Field.isSome_of_readOptional value_ne_null blobRead,
    Field.isSome_of_readOptional nofun mediaTypeRead]

/-- A descriptor is made from the fields of a draft exactly when the draft keeps the rules. -/
theorem exists_ofFields_iff (isGiven : draft.IsGivenIn fields) :
    (∃ descriptor, ofFields fields = .ok descriptor) ↔ draft.KeepsRules := by
  obtain ⟨fileBlobId, mediaType, encryptionKey, fileSize, thumbnailBlobId, thumbnailMediaType⟩ :=
    exists_readings_iff isGiven
  have renderingRead := readRenderingField_of_isGivenIn isGiven
  have metadataRead := readMetadata_of_isGivenIn isGiven
  constructor
  · rintro ⟨descriptor, made⟩
    have isRead := ofFields_eq_ok_iff.mp made
    have isShown : descriptor.rendering = draft.shownAs :=
      Except.ok.inj (Except.ok.inj (isRead.rendering.symm.trans renderingRead))
    have hasHints : descriptor.metadata = draft.metadata :=
      Except.ok.inj (isRead.metadata.symm.trans metadataRead)
    obtain ⟨isComplete, isPlainFile, isShortSticker⟩ :=
      (brokenRule?_eq_none_iff_of_isGivenIn isGiven isRead.thumbnailBlobId
        isRead.thumbnailMediaType isShown hasHints).mp isRead.isUnbroken
    exact ⟨fileBlobId.mp ⟨_, isRead.fileBlobId⟩, mediaType.mp ⟨_, isRead.mediaType⟩,
      encryptionKey.mp ⟨_, isRead.encryptionKey⟩, fileSize.mp ⟨_, isRead.fileSize⟩,
      thumbnailBlobId.mp ⟨_, isRead.thumbnailBlobId⟩,
      thumbnailMediaType.mp ⟨_, isRead.thumbnailMediaType⟩, isComplete, isPlainFile,
      isShortSticker⟩
  · intro keeps
    obtain ⟨blobId, blobIdRead⟩ := fileBlobId.mpr keeps.fileBlobId
    obtain ⟨text, textRead⟩ := mediaType.mpr keeps.mediaType
    obtain ⟨key, keyRead⟩ := encryptionKey.mpr keeps.encryptionKey
    obtain ⟨size, sizeRead⟩ := fileSize.mpr keeps.fileSize
    obtain ⟨blobId?, thumbnailRead⟩ := thumbnailBlobId.mpr keeps.thumbnailBlobId
    obtain ⟨text?, thumbnailTextRead⟩ := thumbnailMediaType.mpr keeps.thumbnailMediaType
    have readsText {name : String} {text? : Option WideText}
        (given : Field.IsGivenAs (text?.map .text) (Field.find? name fields)) :
        Field.readOptional Field.readText (Field.find? name fields) = .ok text? := by
      rw [Field.readOptional_of_isGivenAs given]
      exact Field.readOptional_map (fun _ _ => rfl) nofun
    refine ⟨⟨blobId, text, key, size, blobId?, text?, draft.fileName, draft.description,
      draft.shownAs, draft.metadata⟩, ofFields_eq_ok_iff.mpr ?_⟩
    exact ⟨blobIdRead, textRead, keyRead, sizeRead, thumbnailRead, thumbnailTextRead,
      readsText isGiven.fileName, readsText isGiven.description, renderingRead, metadataRead,
      (brokenRule?_eq_none_iff_of_isGivenIn isGiven thumbnailRead thumbnailTextRead rfl rfl).mpr
        ⟨keeps.thumbnail, keeps.metadata, keeps.duration⟩⟩

end Draft

/-! ## Every descriptor -/

/-- A descriptor as what a caller would ask for. -/
def asDraft (descriptor : Descriptor) : Draft where
  fileBlobId := .ready descriptor.fileBlobId
  mediaType := descriptor.mediaType
  encryptionKey := .octets descriptor.encryptionKey.toList
  fileSize := descriptor.fileSize
  thumbnailBlobId := descriptor.thumbnailBlobId.map .ready
  thumbnailMediaType := descriptor.thumbnailMediaType
  fileName := descriptor.fileName
  description := descriptor.description
  rendering := some descriptor.rendering
  metadata := descriptor.metadata

/-- A valid descriptor keeps the rules. -/
theorem keepsRules_of_isValid {descriptor : Descriptor} (isValid : descriptor.IsValid) :
    descriptor.asDraft.KeepsRules := by
  obtain ⟨isComplete, isAllowed⟩ := brokenRule?_eq_none_iff.mp isValid.isUnbroken
  obtain ⟨isPlainFile, isShortSticker⟩ := allowed_iff.mp isAllowed
  refine
    { fileBlobId := trivial
      mediaType := MediaType.isMediaType_iff.mp isValid.mediaType
      encryptionKey := Octets.length_toList descriptor.encryptionKey
      fileSize := ?_
      thumbnailBlobId := ?_
      thumbnailMediaType := fun mediaType isMember =>
        MediaType.isMediaType_iff.mp (isValid.thumbnailMediaType mediaType isMember)
      thumbnail := (Option.isSome_map ..).trans isComplete
      metadata := isPlainFile
      duration := isShortSticker }
  · have isWithin : descriptor.fileSize ≤ 0xFFFFFFFF := isValid.fileSize
    show (0 : Int) ≤ descriptor.fileSize ∧ (descriptor.fileSize : Int) ≤ 2 ^ (32 : Nat) - 1
    omega
  · intro given isMember
    obtain ⟨blobId, -, rfl⟩ := Option.map_eq_some_iff.mp isMember
    trivial

/-- What the entries of a descriptor show: the number of its rendering and the flag for older
clients, a thumbnail with its media type, and hints only where they are allowed. -/
structure HasOrderlyWire (descriptor : Descriptor) : Prop where
  rendering : Json.lookup? "j" descriptor.wire = some (.whole descriptor.rendering.code)
  flag : Json.lookup? "i" descriptor.wire = some (.whole descriptor.rendering.legacyFlag)
  thumbnail : (Json.lookup? "t" descriptor.wire).isSome = (Json.lookup? "p" descriptor.wire).isSome
  hints : ∀ hints, Json.lookup? "x" descriptor.wire = some hints →
    ∃ entries, hints = .object entries ∧
      (Json.lookup? "j" descriptor.wire = some (.whole 1) ∨
        Json.lookup? "j" descriptor.wire = some (.whole 2) ∧ Json.lookup? "d" entries = none)
  legacyFlag : Json.lookup? "i" descriptor.wire = some (.whole 0) ↔
    Json.lookup? "j" descriptor.wire = some (.whole 0)

theorem lookup?_wire (descriptor : Descriptor) :
    Json.lookup? "i" descriptor.wire = some (.whole descriptor.rendering.legacyFlag) ∧
    Json.lookup? "j" descriptor.wire = some (.whole descriptor.rendering.code) ∧
    Json.lookup? "p" descriptor.wire = (if descriptor.thumbnailBlobId.isSome = true then
      descriptor.thumbnailMediaType.map Json.text else none) ∧
    Json.lookup? "t" descriptor.wire =
      descriptor.thumbnailBlobId.map fun blobId => hexJson blobId.octets.toList := by
  simp +decide only [wire, Json.lookup?_wireEntry, List.filterMap_nil, Json.lookup?_nil, if_true,
    if_false, Option.none_or, Option.or_none, and_self]

theorem lookup?_duration (metadata : Metadata) :
    Json.lookup? "d" metadata.wire =
      metadata.duration.map fun duration => .real duration.seconds := by
  simp +decide only [Metadata.wire, Json.lookup?_wireEntry, List.filterMap_nil, Json.lookup?_nil,
    if_true, if_false, Option.none_or, Option.or_none]

/-- A valid descriptor has orderly entries. -/
theorem hasOrderlyWire_of_isValid {descriptor : Descriptor} (isValid : descriptor.IsValid) :
    descriptor.HasOrderlyWire := by
  obtain ⟨legacyFlag, code, mediaType, blob⟩ := lookup?_wire descriptor
  obtain ⟨isComplete, isAllowed⟩ := brokenRule?_eq_none_iff.mp isValid.isUnbroken
  refine ⟨code, legacyFlag, ?_, ?_, ?_⟩
  · rw [blob, mediaType, thumbnailMediaType_wire isValid.isUnbroken, Option.isSome_map,
      Option.isSome_map, isComplete]
  · intro hints isFound
    rw [lookup?_hints] at isFound
    cases given : descriptor.metadata with
    | none =>
      rw [given] at isFound
      cases isFound
    | some metadata =>
      obtain ⟨isNoFile, isShortSticker⟩ := isAllowed metadata given
      simp only [given, Option.map_some, Option.getD_some] at isFound
      split at isFound
      · cases isFound
      cases isFound
      refine ⟨metadata.wire, rfl, ?_⟩
      rw [code]
      cases shown : descriptor.rendering with
      | file => exact absurd shown isNoFile
      | media => exact .inl rfl
      | sticker =>
        refine .inr ⟨rfl, ?_⟩
        rw [lookup?_duration, isShortSticker shown]
        rfl
  · rw [legacyFlag, code]
    cases descriptor.rendering <;> simp [Rendering.legacyFlag, Rendering.code]

/-- A descriptor is made from what a caller asks for exactly when this keeps the rules, and
otherwise it is refused for the faults of its fields and for nothing else.  Every descriptor that is
made from any fields, or is read from any document, keeps the rules, and its entries are orderly. -/
theorem made_iff_keepsRules :
    (∀ (draft : Draft) (fields : List (String × Value)), draft.IsGivenIn fields →
      ((∃ descriptor, ofFields fields = .ok descriptor) ↔ draft.KeepsRules) ∧
      (¬ draft.KeepsRules → ∃ faults, ofFields fields = .error (.invalidDescriptor faults))) ∧
    ∀ descriptor : Descriptor, ((∃ fields, ofFields fields = .ok descriptor) ∨
        ∃ document, ofJson document = .ok descriptor) →
      descriptor.asDraft.KeepsRules ∧ descriptor.HasOrderlyWire := by
  refine ⟨fun draft fields isGiven => ⟨Draft.exists_ofFields_iff isGiven, ?_⟩, ?_⟩
  · intro breaks
    rcases made_or_refused (Draft.readRenderingField_of_isGivenIn isGiven) with made | refused
    · exact absurd ((Draft.exists_ofFields_iff isGiven).mp made) breaks
    · exact refused
  · intro descriptor isSource
    have isValid : descriptor.IsValid := by
      rcases isSource with ⟨fields, made⟩ | ⟨document, received⟩
      · exact isValid_of_ofFields made
      · exact (isValid_of_ofJson received).1
    exact ⟨keepsRules_of_isValid isValid, hasOrderlyWire_of_isValid isValid⟩

/-- A moving image with a preview, asked for with the digits of its blob. -/
def loopDraft : Draft where
  fileBlobId := .spelled (WideText.ofChars (List.replicate 32 'A'))
  mediaType := WideText.ofString "image/gif"
  encryptionKey := .octets (List.replicate 32 0)
  fileSize := 2 ^ (32 : Nat) - 1
  thumbnailBlobId := some (.ready ⟨Octets.zero 16⟩)
  thumbnailMediaType := some (WideText.ofString "image/png; q=1")
  fileName := none
  description := none
  rendering := some .sticker
  metadata := some ⟨some true, none, none, none⟩

/-- The fields of that image. -/
def loopFields : List (String × Value) :=
  [("file_blob_id", .text (WideText.ofChars (List.replicate 32 'A'))),
    ("media_type", .ofString "image/gif"), ("blob_encryption_key", .octets (List.replicate 32 0)),
    ("file_size_bytes", .whole (2 ^ (32 : Nat) - 1)),
    ("thumbnail_blob_id", .blobId ⟨Octets.zero 16⟩),
    ("thumbnail_media_type", .ofString "image/png; q=1"), ("file_name", .null),
    ("rendering_type", .rendering .sticker),
    ("metadata", .metadata ⟨some true, none, none, none⟩)]

theorem made_iff_keepsRules_loopDraft :
    loopDraft.IsGivenIn loopFields ∧ ∃ descriptor, ofFields loopFields = .ok descriptor ∧
      descriptor.asDraft.KeepsRules ∧ descriptor.HasOrderlyWire := by
  have isGiven : loopDraft.IsGivenIn loopFields :=
    ⟨rfl, rfl, rfl, ⟨.whole (2 ^ (32 : Nat) - 1), rfl, rfl⟩, .inl rfl, .inl rfl, .inr ⟨rfl, rfl⟩,
      .inl rfl, rfl, .inl rfl⟩
  have keeps : loopDraft.KeepsRules :=
    { fileBlobId := by
        refine ⟨List.replicate 32 'A', rfl, List.length_replicate, fun char isMember => ?_⟩
        rw [List.eq_of_mem_replicate isMember]
        decide
      mediaType := MediaType.isMediaType_iff.mp (by decide)
      encryptionKey := List.length_replicate
      fileSize := by decide
      thumbnailBlobId := by
        rintro _ ⟨⟩
        trivial
      thumbnailMediaType := by
        rintro _ ⟨⟩
        exact MediaType.isMediaType_iff.mp (by decide)
      thumbnail := rfl
      metadata := nofun
      duration := by
        rintro - _ ⟨⟩
        rfl }
  obtain ⟨descriptor, made⟩ := (made_iff_keepsRules.1 loopDraft loopFields isGiven).1.mpr keeps
  exact ⟨isGiven, descriptor, made, made_iff_keepsRules.2 descriptor (.inl ⟨loopFields, made⟩)⟩

end Descriptor
end SealedGateway
