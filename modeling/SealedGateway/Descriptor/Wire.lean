import SealedGateway.Descriptor.Basic
import SealedGateway.Json.Encoding
import SealedGateway.Json.Parser
import SealedGateway.Json.Printer

/-!
# Descriptors on the wire

A descriptor travels as one JSON object whose names are single letters, in alphabetical order.
What is absent has no entry; hints without any content have none either.  Received objects are
read leniently and then held to the same rules as any descriptor.
-/

namespace SealedGateway

/-- An entry of an object under a one-letter name, if there is a value for it. -/
def wireEntry (name : Char) (value? : Option Json) : Option (WideText × Json) :=
  value?.map fun value => ([.char name], value)

namespace Metadata

/-- The entries of rendering hints. -/
def wire (metadata : Metadata) : List (WideText × Json) :=
  [wireEntry 'a' (metadata.animated.map .flag),
    wireEntry 'd' (metadata.duration.map fun duration => .real duration.seconds),
    wireEntry 'h' (metadata.height.map fun height => .whole height),
    wireEntry 'w' (metadata.width.map fun width => .whole width)].filterMap id

end Metadata

namespace Descriptor

/-- Bytes in hexadecimal as a JSON value. -/
def hexJson (bytes : Bytes) : Json := .text (WideText.ofChars (Hex.encode bytes))

/-- The entries of a descriptor. -/
def wire (descriptor : Descriptor) : List (WideText × Json) :=
  let hints := (descriptor.metadata.map Metadata.wire).getD []
  let thumbnailEntry := fun (value? : Option Json) =>
    if descriptor.thumbnailBlobId.isSome then value? else none
  [wireEntry 'b' (some (hexJson descriptor.fileBlobId.octets.toList)),
    wireEntry 'd' (descriptor.description.map .text),
    wireEntry 'i' (some (.whole descriptor.rendering.legacyFlag)),
    wireEntry 'j' (some (.whole descriptor.rendering.code)),
    wireEntry 'k' (some (hexJson descriptor.encryptionKey.toList)),
    wireEntry 'm' (some (.text descriptor.mediaType)),
    wireEntry 'n' (descriptor.fileName.map .text),
    wireEntry 'p' (thumbnailEntry (descriptor.thumbnailMediaType.map .text)),
    wireEntry 's' (some (.whole descriptor.fileSize)),
    wireEntry 't' (descriptor.thumbnailBlobId.map fun blobId => hexJson blobId.octets.toList),
    wireEntry 'x' (if hints.isEmpty then none else some (.object hints))].filterMap id

/-- The JSON text of a descriptor in UTF-8; text with lone surrogates has none. -/
def toJson (descriptor : Descriptor) : Except Failure Bytes :=
  match Json.print (.object descriptor.wire) with
  | .error fault => .error (.badValue fault)
  | .ok text =>
    match text.encode? with
    | some bytes => .ok bytes
    | none => .error .unencodable

/-- The text of a received document: text without a mark at its head, or bytes in any of the Unicode
encodings. -/
def documentText? : Value → Option WideText
  | .text text => if text.head? = some (.char (Char.ofNat 0xFEFF)) then none else some text
  | value => value.byteString?.bind Json.decodeDocument?

/-- The JSON value of a received document. -/
def readDocument (document : Value) : Except Failure Json :=
  match documentText? document with
  | none => .error (.malformed .malformedDescriptor)
  | some text =>
    match Json.parse text with
    | .ok json => .ok json
    | .error .tooDeep => .error .tooDeep
    | .error .malformed => .error (.malformed .malformedDescriptor)

/-- The value of an entry under a one-letter name. -/
def entryValue? (name : String) (entries : List (WideText × Json)) : Option Value :=
  (Json.lookup? name entries).map Json.toValue

/-- The hints in a received object: only for renderings other than a plain file, and only when the
entry holds something. -/
def readHints (rendering : Rendering) (entries : List (WideText × Json)) :
    Except Failure (Option Metadata) :=
  match Json.lookup? "x" entries with
  | none => .ok none
  | some hints =>
    if hints.toValue.isTrue = false ∨ rendering = .file then .ok none
    else
      match hints with
      | .object hints =>
        let given := [("animated", "a"), ("height", "h"), ("width", "w"),
          ("duration_seconds", "d")].filterMap fun (field, name) =>
            (entryValue? name hints).map fun value => (field, value)
        (Metadata.ofFields given).map some
      | _ => .error .lacksOperation

/-- The descriptor in a received object. -/
def ofEntries (entries : List (WideText × Json)) : Except Failure Descriptor :=
  match ((entryValue? "j" entries).getD (.whole 0)).toRendering with
  | .error failure => .error failure
  | .ok rendering =>
    match readHints rendering entries with
    | .error failure => .error failure
    | .ok metadata =>
      let given := [("file_blob_id", "b"), ("media_type", "m"), ("blob_encryption_key", "k"),
        ("file_size_bytes", "s"), ("thumbnail_blob_id", "t"), ("thumbnail_media_type", "p"),
        ("file_name", "n"), ("description", "d")].filterMap fun (field, name) =>
          (entryValue? name entries).map fun value => (field, value)
      ofFields (given ++ [("rendering_type", .rendering rendering),
        ("metadata", (metadata.map Value.metadata).getD .null)])

/-- The descriptor in a received JSON value, which must be an object. -/
def ofReceived : Json → Except Failure Descriptor
  | .object entries => ofEntries entries
  | _ => .error .lacksOperation

/-- Whether a failure is a fault of the received document: something in it is missing, is of another
kind, lacks what is asked of it or has a bad value. -/
def isDocumentFault : Failure → Bool
  | .missing _ | .wrongKind | .lacksOperation => true
  | failure => failure.isBadValue

/-- The descriptor in a received document.  Faults of the document are reported as one; other
failures stay what they are. -/
def ofJson (document : Value) : Except Failure Descriptor :=
  match readDocument document >>= ofReceived with
  | .ok descriptor => .ok descriptor
  | .error failure =>
    if isDocumentFault failure then .error (.malformed .malformedDescriptor) else .error failure

/-- A descriptor is received exactly from the documents that are objects with its entries. -/
theorem ofJson_eq_ok_iff {document : Value} {descriptor : Descriptor} :
    ofJson document = .ok descriptor ↔
      ∃ entries, readDocument document = .ok (.object entries) ∧
        ofEntries entries = .ok descriptor := by
  rw [ofJson]
  rcases readDocument document with failure | json
  · by_cases isFault : isDocumentFault failure = true <;> simp [bind, Except.bind, isFault]
  · cases json with
    | object entries =>
      change (match ofEntries entries with
        | .ok descriptor => Except.ok descriptor
        | .error failure => _) = _ ↔ _
      rcases made : ofEntries entries with failure | other
      · by_cases isFault : isDocumentFault failure = true <;> simp [isFault, made]
      · simp [made]
    | _ => simp [bind, Except.bind, ofReceived, isDocumentFault]

end Descriptor
end SealedGateway
