import SealedGateway.Descriptor.Basic
import SealedGateway.Proofs.Json.Numerals

/-!
# What a made descriptor holds

A descriptor is made exactly when each of its fields is read and no rule is broken.  So every
descriptor, whichever fields it was made from, keeps the bounds of its own readers.
-/

namespace SealedGateway
namespace Field

theorem readRequired_eq_ok_iff {α : Type} {read : Value → Except FieldFault α}
    {value? : Option Value} {result : α} :
    readRequired read value? = .ok result ↔
      ∃ value, value? = some value ∧ read value = .ok result := by
  cases value? <;> simp [readRequired]

theorem readOptional_some {α : Type} {read : Value → Except FieldFault α} {value? : Option Value}
    {result : α} (isRead : readOptional read value? = .ok (some result)) :
    ∃ value, value? = some value ∧ read value = .ok result := by
  unfold readOptional at isRead
  split at isRead
  · cases isRead
  · cases isRead
  · next value _ =>
    refine ⟨value, rfl, ?_⟩
    cases result? : read value with
    | error fault =>
      rw [result?] at isRead
      cases isRead
    | ok other =>
      rw [result?] at isRead
      cases isRead
      rfl

/-- What an optional field holds is read back if its reader takes back what is written. -/
theorem readOptional_map {α : Type} {read : Value → Except FieldFault α} {write : α → Value}
    {content? : Option α} (isRead : ∀ content ∈ content?, read (write content) = .ok content)
    (isGiven : ∀ content, write content ≠ .null) :
    readOptional read (content?.map write) = .ok content? := by
  cases content? with
  | none => rfl
  | some content =>
    rw [Option.map_some, readOptional, isRead content rfl]
    · rfl
    · exact isGiven content

theorem readSize_le {value : Value} {size : Nat} (isRead : readSize value = .ok size) :
    size ≤ sizeLimit := by
  unfold readSize at isRead
  split at isRead
  · cases isRead
  split at isRead
  · next isWithin =>
    cases isRead
    exact isWithin
  · cases isRead

end Field

namespace Descriptor

theorem isMediaType_of_readMediaType {value : Value} {text : WideText}
    (isRead : readMediaType value = .ok text) : MediaType.isMediaType text = true := by
  unfold readMediaType at isRead
  split at isRead
  · cases isRead
  split at isRead
  · next isMediaType =>
    cases isRead
    exact isMediaType
  · cases isRead

/-- The rendering of a descriptor that may be left out. -/
def readRenderingField : Option Value → Except Failure (Except FieldFault Rendering)
  | none => .ok (.ok .file)
  | some value => readRendering value

/-- The fields are read as the contents of a descriptor that breaks no rule. -/
structure IsReadFrom (descriptor : Descriptor) (fields : List (String × Value)) : Prop where
  fileBlobId : Field.readRequired readBlobId (Field.find? "file_blob_id" fields) =
    .ok descriptor.fileBlobId
  mediaType : Field.readRequired readMediaType (Field.find? "media_type" fields) =
    .ok descriptor.mediaType
  encryptionKey : Field.readRequired readKey (Field.find? "blob_encryption_key" fields) =
    .ok descriptor.encryptionKey
  fileSize : Field.readRequired Field.readSize (Field.find? "file_size_bytes" fields) =
    .ok descriptor.fileSize
  thumbnailBlobId : Field.readOptional readBlobId (Field.find? "thumbnail_blob_id" fields) =
    .ok descriptor.thumbnailBlobId
  thumbnailMediaType :
    Field.readOptional readMediaType (Field.find? "thumbnail_media_type" fields) =
      .ok descriptor.thumbnailMediaType
  fileName : Field.readOptional Field.readText (Field.find? "file_name" fields) =
    .ok descriptor.fileName
  description : Field.readOptional Field.readText (Field.find? "description" fields) =
    .ok descriptor.description
  rendering : readRenderingField (Field.find? "rendering_type" fields) =
    .ok (.ok descriptor.rendering)
  metadata : readMetadata (Field.find? "metadata" fields) = .ok descriptor.metadata
  isUnbroken : descriptor.brokenRule? = none

/-- A descriptor is made exactly from the fields that are read as its contents. -/
theorem ofFields_eq_ok_iff {fields : List (String × Value)} {descriptor : Descriptor} :
    ofFields fields = .ok descriptor ↔ descriptor.IsReadFrom fields := by
  constructor
  · intro made
    unfold ofFields at made
    simp only at made
    split at made
    · cases made
    next rendering renderingRead =>
    split at made
    · next fileBlobId mediaType key fileSize thumbnailBlobId thumbnailMediaType fileName
        description rendering metadata =>
      split at made
      · cases made
      · next isUnbroken =>
        cases made
        exact ⟨‹_›, ‹_›, ‹_›, ‹_›, ‹_›, ‹_›, ‹_›, ‹_›, renderingRead, ‹_›, isUnbroken⟩
    · cases made
  · intro isRead
    rcases descriptor with ⟨_, _, _, _, _, _, _, _, renderingRead, _⟩
    obtain ⟨fileBlobId, mediaType, key, fileSize, thumbnailBlobId, thumbnailMediaType, fileName,
      description, rendering, metadata, isUnbroken⟩ := isRead
    unfold ofFields
    simp only [fileBlobId, mediaType, key, fileSize, thumbnailBlobId, thumbnailMediaType, fileName,
      description, metadata]
    cases given : Field.find? "rendering_type" fields with
    | none =>
      rw [given] at rendering
      obtain rfl : Rendering.file = renderingRead := Except.ok.inj (Except.ok.inj rendering)
      simp only [isUnbroken]
    | some value =>
      rw [given, readRenderingField] at rendering
      simp only [rendering, isUnbroken]

/-- What every made descriptor keeps: the bounds of its readers, and the rules. -/
structure IsValid (descriptor : Descriptor) : Prop where
  mediaType : MediaType.isMediaType descriptor.mediaType = true
  fileSize : descriptor.fileSize ≤ Field.sizeLimit
  thumbnailMediaType : ∀ mediaType ∈ descriptor.thumbnailMediaType,
    MediaType.isMediaType mediaType = true
  isUnbroken : descriptor.brokenRule? = none

theorem isValid_of_ofFields {fields : List (String × Value)} {descriptor : Descriptor}
    (made : ofFields fields = .ok descriptor) : descriptor.IsValid := by
  have isRead := ofFields_eq_ok_iff.mp made
  refine ⟨?_, ?_, ?_, isRead.isUnbroken⟩
  · obtain ⟨_, -, mediaTypeRead⟩ := Field.readRequired_eq_ok_iff.mp isRead.mediaType
    exact isMediaType_of_readMediaType mediaTypeRead
  · obtain ⟨_, -, sizeRead⟩ := Field.readRequired_eq_ok_iff.mp isRead.fileSize
    exact Field.readSize_le sizeRead
  · intro mediaType isMember
    have thumbnailRead := isRead.thumbnailMediaType
    rw [Option.mem_def.mp isMember] at thumbnailRead
    obtain ⟨_, -, mediaTypeRead⟩ := Field.readOptional_some thumbnailRead
    exact isMediaType_of_readMediaType mediaTypeRead

/-! ## The rules -/

theorem brokenRule?_eq_none_iff {descriptor : Descriptor} :
    descriptor.brokenRule? = none ↔
      descriptor.thumbnailBlobId.isSome = descriptor.thumbnailMediaType.isSome ∧
      ∀ metadata ∈ descriptor.metadata, descriptor.rendering ≠ .file ∧
        (descriptor.rendering = .sticker → metadata.duration = none) := by
  unfold brokenRule?
  by_cases isComplete : descriptor.thumbnailBlobId.isSome = descriptor.thumbnailMediaType.isSome
  · rw [if_neg (by simp [isComplete])]
    cases descriptor.metadata with
    | none => simp [isComplete]
    | some metadata =>
      cases descriptor.rendering <;> simp [isComplete]
  · rw [if_pos (by simpa using isComplete)]
    simp [isComplete]

/-- The same descriptor without hints that say nothing. -/
def withoutEmptyHints (descriptor : Descriptor) : Descriptor :=
  { descriptor with metadata := descriptor.metadata.filter (· ≠ Metadata.empty) }

theorem brokenRule?_withoutEmptyHints {descriptor : Descriptor}
    (isUnbroken : descriptor.brokenRule? = none) :
    descriptor.withoutEmptyHints.brokenRule? = none := by
  rw [brokenRule?_eq_none_iff] at isUnbroken ⊢
  refine ⟨isUnbroken.1, fun metadata isMember => isUnbroken.2 metadata ?_⟩
  exact (Option.filter_eq_some_iff.mp isMember).1

end Descriptor
end SealedGateway
