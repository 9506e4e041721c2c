import SealedGateway.Descriptor.MediaType
import SealedGateway.Field
import SealedGateway.Key.Reading

/-!
# File descriptors

A file message describes an encrypted file on the blob server: where it is, under which key,
what it holds and how it is shown.  A descriptor is made from loosely typed fields; every field
is read before the rules that join fields are looked at, and all faults of the fields are
reported together.
-/

namespace SealedGateway

attribute [local instance (2000)] instPowNat

/-- The description of an encrypted file. -/
structure Descriptor where
  /-- The blob of the file. -/
  fileBlobId : BlobId
  /-- The media type of the file. -/
  mediaType : WideText
  /-- The key of the file and its thumbnail. -/
  encryptionKey : Octets 32
  /-- The size of the file in bytes. -/
  fileSize : Nat
  /-- The blob of the thumbnail. -/
  thumbnailBlobId : Option BlobId
  /-- The media type of the thumbnail. -/
  thumbnailMediaType : Option WideText
  /-- The name of the file. -/
  fileName : Option WideText
  /-- A description of the file. -/
  description : Option WideText
  /-- How the file is shown. -/
  rendering : Rendering
  /-- Hints for showing the file. -/
  metadata : Option Metadata
deriving DecidableEq

namespace Metadata

/-- The fields of rendering hints, each with its faults. -/
def readFields (fields : List (String × Value)) :
    Except (List (String × FieldFault)) Metadata :=
  let animated := Field.readOptional Field.readFlag (Field.find? "animated" fields)
  let height := Field.readOptional Field.readCount (Field.find? "height" fields)
  let width := Field.readOptional Field.readCount (Field.find? "width" fields)
  let duration := Field.readOptional Field.readDuration (Field.find? "duration_seconds" fields)
  match animated, height, width, duration with
  | .ok animated, .ok height, .ok width, .ok duration => .ok ⟨animated, height, width, duration⟩
  | animated, height, width, duration =>
    .error (Field.faultsAt [("animated", Field.fault? animated), ("height", Field.fault? height),
      ("width", Field.fault? width), ("duration_seconds", Field.fault? duration)])

/-- Rendering hints made from loosely typed fields. -/
def ofFields (fields : List (String × Value)) : Except Failure Metadata :=
  match readFields fields with
  | .ok metadata => .ok metadata
  | .error faults => .error (.invalidFields faults)

/-- Rendering hints as the field of a descriptor: ready ones or a dictionary. -/
def ofValue : Value → Except (List FieldFault) Metadata
  | .metadata metadata => .ok metadata
  | .dict entries =>
    match readFields (Field.namedEntries entries) with
    | .ok metadata => .ok metadata
    | .error faults => .error (faults.map Prod.snd)
  | _ => .error [.notMetadata]

end Metadata

namespace Descriptor

/-- Reads the identifier of a blob: a ready one, or its text. -/
def readBlobId : Value → Except FieldFault BlobId
  | .blobId blobId => .ok blobId
  | .text text =>
    match BlobId.ofText (.text text) with
    | .ok blobId => .ok blobId
    | .error fault => .error (.malformed fault)
  | _ => .error .notBlobId

/-- Reads the key of a file: a ready one, its text, or its bytes. -/
def readKey : Value → Except FieldFault (Octets 32)
  | .symmetricKey key => .ok key.octets
  | .text text =>
    match (Value.text text).hexOctets 32 with
    | .ok octets => .ok octets
    | .error fault => .error (.malformed fault)
  | value =>
    match value.octets? 32 with
    | some octets => .ok octets
    | none => .error (.broken .blobKeyLength)

/-- Reads a media type. -/
def readMediaType (value : Value) : Except FieldFault WideText :=
  match Field.readText value with
  | .error fault => .error fault
  | .ok text =>
    if MediaType.isMediaType text then .ok text
    else .error (.broken (.badMediaType (Text.quoteWide text)))

/-- Reads a rendering: a member or a number, which may be spelled.  A number beyond the range of a
signed word is not compared at all. -/
def readRendering (value : Value) : Except Failure (Except FieldFault Rendering) :=
  let byEquality := match value.equalInt?.bind Rendering.ofCode? with
    | some rendering => Except.ok rendering
    | none => Except.error FieldFault.notRendering
  match value with
  | .rendering rendering => .ok (.ok rendering)
  | value =>
    match Field.readWhole value with
    | .error _ => .ok byEquality
    | .ok number =>
      if number < -(2 ^ (63 : Nat) : Int) ∨ (2 ^ (63 : Nat) : Int) ≤ number then .error .overflow
      else
        match Rendering.ofCode? number with
        | some rendering => .ok (.ok rendering)
        | none => .ok byEquality

/-- The rule that joins fields and that a descriptor breaks, if it breaks one. -/
def brokenRule? (descriptor : Descriptor) : Option FieldRule :=
  if descriptor.thumbnailBlobId.isSome != descriptor.thumbnailMediaType.isSome then
    some .thumbnailIncomplete
  else
    match descriptor.metadata with
    | none => none
    | some metadata =>
      match descriptor.rendering with
      | .file => some .metadataUnderFile
      | .media => none
      | .sticker => if metadata.duration.isSome then some .durationOnSticker else none

/-- The faults of a reading with several, as a list. -/
def faultsOf {α : Type} : Except (List FieldFault) α → List FieldFault
  | .ok _ => []
  | .error faults => faults

/-- The faults of a reading, as a list. -/
def faultOf {α : Type} (reading : Except FieldFault α) : List FieldFault :=
  (Field.fault? reading).toList

/-- Hints that may be left out or null. -/
def readMetadata : Option Value → Except (List FieldFault) (Option Metadata)
  | none | some .null => .ok none
  | some value => (Metadata.ofValue value).map some

/-- A descriptor made from loosely typed fields. -/
def ofFields (fields : List (String × Value)) : Except Failure Descriptor :=
  let find := fun name => Field.find? name fields
  let renderingRead : Except Failure (Except FieldFault Rendering) :=
    match find "rendering_type" with
    | none => .ok (.ok .file)
    | some value => readRendering value
  match renderingRead with
  | .error failure => .error failure
  | .ok rendering =>
    let fileBlobId := Field.readRequired readBlobId (find "file_blob_id")
    let mediaType := Field.readRequired readMediaType (find "media_type")
    let key := Field.readRequired readKey (find "blob_encryption_key")
    let fileSize := Field.readRequired Field.readSize (find "file_size_bytes")
    let thumbnailBlobId := Field.readOptional readBlobId (find "thumbnail_blob_id")
    let thumbnailMediaType := Field.readOptional readMediaType (find "thumbnail_media_type")
    let fileName := Field.readOptional Field.readText (find "file_name")
    let description := Field.readOptional Field.readText (find "description")
    let metadata := readMetadata (find "metadata")
    match fileBlobId, mediaType, key, fileSize, thumbnailBlobId, thumbnailMediaType, fileName,
        description, rendering, metadata with
    | .ok fileBlobId, .ok mediaType, .ok key, .ok fileSize, .ok thumbnailBlobId,
        .ok thumbnailMediaType, .ok fileName, .ok description, .ok rendering, .ok metadata =>
      let descriptor : Descriptor := ⟨fileBlobId, mediaType, key, fileSize, thumbnailBlobId,
        thumbnailMediaType, fileName, description, rendering, metadata⟩
      match brokenRule? descriptor with
      | some rule => .error (.invalidDescriptor [.broken rule])
      | none => .ok descriptor
    | fileBlobId, mediaType, key, fileSize, thumbnailBlobId, thumbnailMediaType, fileName,
        description, rendering, metadata =>
      .error (.invalidDescriptor (faultOf fileBlobId ++ faultOf mediaType ++ faultOf key ++
        faultOf fileSize ++ faultOf thumbnailBlobId ++ faultOf thumbnailMediaType ++
        faultOf fileName ++ faultOf description ++ faultOf rendering ++ faultsOf metadata))

end Descriptor
end SealedGateway
