import SealedGateway.Descriptor.Wire
import SealedGateway.Proofs.Descriptor.Fields
import SealedGateway.Proofs.Json.Leaves
import SealedGateway.Proofs.Key.Reading

/-!
# Reading the entries of a descriptor

An object of one-letter entries is taken apart entry by entry: an entry answers for its own letter
and for no other.  So what a valid descriptor writes is read as its own fields, and these make the
same descriptor again, without hints that say nothing.
-/

namespace SealedGateway

/-! ## Entries by name -/

namespace Json

/-- An entry answers for its own name unless a later one does. -/
theorem lookup?_cons {α : Type} (name : String) (entry : WideText × α)
    (rest : List (WideText × α)) :
    lookup? name (entry :: rest) =
      (lookup? name rest).or (if entry.1 = WideText.ofString name then some entry.2 else none) := by
  rw [lookup?, List.reverse_cons, List.find?_append]
  unfold lookup?
  cases rest.reverse.find? fun entry => entry.1 = WideText.ofString name with
  | some found => rfl
  | none =>
    rw [Option.none_or, List.find?_singleton]
    split <;> simp_all

/-- An entry that may be absent answers for its own letter. -/
theorem lookup?_wireEntry (name : String) (letter : Char) (value? : Option Json)
    (rest : List (Option (WideText × Json))) :
    lookup? name ((wireEntry letter value? :: rest).filterMap id) =
      (lookup? name (rest.filterMap id)).or
        (if [Symbol.char letter] = WideText.ofString name then value? else none) := by
  cases value? with
  | none => simp [wireEntry]
  | some value => exact lookup?_cons name ([.char letter], value) (rest.filterMap id)

theorem lookup?_nil {α : Type} (name : String) :
    lookup? name ([] : List (WideText × α)) = none := rfl

end Json

namespace Field

/-- The fields of some names whose entries are there. -/
def given (value? : String → Option Value) (pairs : List (String × String)) :
    List (String × Value) :=
  pairs.filterMap fun (field, letter) => (value? letter).map fun value => (field, value)

theorem given_nil (value? : String → Option Value) : given value? [] = [] := rfl

/-- A field whose entry is there answers for its own name. -/
theorem find?_given_cons (name field letter : String) (value? : String → Option Value)
    (pairs : List (String × String)) (others : List (String × Value)) :
    find? name (given value? ((field, letter) :: pairs) ++ others) =
      (if field = name then value? letter else none).or
        (find? name (given value? pairs ++ others)) := by
  cases isGiven : value? letter with
  | none => simp [given, isGiven]
  | some value =>
    have givenIs : given value? ((field, letter) :: pairs) = (field, value) :: given value? pairs :=
      by simp [given, isGiven]
    rw [givenIs, List.cons_append]
    simp only [find?, List.find?_cons]
    split <;> simp_all

theorem find?_cons (name field : String) (value : Value) (others : List (String × Value)) :
    find? name ((field, value) :: others) =
      (if field = name then some value else none).or (find? name others) := by
  simp only [find?, List.find?_cons]
  split <;> simp_all

theorem find?_nil (name : String) : find? name [] = none := rfl

end Field

/-! ## The contents of entries -/

namespace Value

theorem toRendering_code (rendering : Rendering) :
    (Value.whole rendering.code).toRendering = .ok rendering := by
  cases rendering <;> rfl

end Value

namespace Field

theorem readCount_whole (count : Nat) : readCount (.whole count) = .ok count := by
  rw [readCount]
  exact if_pos (Int.natCast_nonneg count)

theorem readSize_whole {size : Nat} (isWithin : size ≤ sizeLimit) :
    readSize (.whole size) = .ok size := by
  rw [readSize, readCount_whole]
  exact if_pos isWithin

theorem readDuration_seconds (duration : Duration) :
    readDuration (.real duration.seconds) = .ok duration :=
  dif_pos duration.isNonnegative

end Field

namespace Metadata

/-- The hints on the wire are read back. -/
theorem ofFields_wire (metadata : Metadata) :
    ofFields (Field.given (Descriptor.entryValue? · metadata.wire) [("animated", "a"),
      ("height", "h"), ("width", "w"), ("duration_seconds", "d")]) = .ok metadata := by
  have animated : Field.readOptional Field.readFlag (metadata.animated.map .flag) =
      .ok metadata.animated :=
    Field.readOptional_map (fun _ _ => rfl) nofun
  have count (count? : Option Nat) : Field.readOptional Field.readCount
      ((do let count ← count?; pure (count : Int)).map fun count => Value.whole count) =
        .ok count? := by
    cases count? with
    | none => rfl
    | some count => exact congrArg (Except.map some) (Field.readCount_whole count)
  have duration : Field.readOptional Field.readDuration
      (metadata.duration.map fun duration => Value.real duration.seconds) =
        .ok metadata.duration :=
    Field.readOptional_map (fun duration _ => Field.readDuration_seconds duration) nofun
  rw [ofFields, readFields, ← List.append_nil (Field.given _ _)]
  simp +decide only [Field.find?_given_cons, Field.given_nil, Field.find?_nil, List.nil_append,
    if_true, if_false, Option.none_or, Option.or_none, Descriptor.entryValue?, wire,
    Json.lookup?_wireEntry, List.filterMap_nil, Json.lookup?_nil, Option.map_map,
    Function.comp_def, Json.toValue]
  rw [animated, count, count, duration]

theorem wire_eq_nil_iff {metadata : Metadata} : metadata.wire = [] ↔ metadata = empty := by
  obtain ⟨animated, height, width, duration⟩ := metadata
  cases animated <;> cases height <;> cases width <;> cases duration <;>
    simp [wire, wireEntry, empty]

end Metadata

namespace Json

theorem length_entriesToValues (entries : List (WideText × Json)) :
    (entriesToValues entries).length = entries.length := by
  induction entries with
  | nil => rfl
  | cons entry rest ih => exact congrArg Nat.succ ih

/-- An object counts as true if it has entries. -/
theorem isTrue_object {entries : List (WideText × Json)} (isNonempty : entries ≠ []) :
    (object entries).toValue.isTrue = true := by
  have length : (entriesToValues entries).length ≠ 0 := by
    rw [length_entriesToValues]
    exact fun isZero => isNonempty (List.eq_nil_of_length_eq_zero isZero)
  simpa [toValue, Value.isTrue, Value.index?, Value.length?] using length

end Json

namespace Descriptor

/-! ## Descriptors -/

theorem lookup?_hints (descriptor : Descriptor) :
    Json.lookup? "x" descriptor.wire =
      let hints := (descriptor.metadata.map Metadata.wire).getD []
      if hints.isEmpty then none else some (.object hints) := by
  simp +decide only [wire, Json.lookup?_wireEntry, List.filterMap_nil, Json.lookup?_nil, if_true,
    if_false, Option.none_or, Option.or_none]

/-- The hints of a descriptor are read back from its entries, unless they say nothing. -/
theorem readHints_wire {descriptor : Descriptor} (isUnbroken : descriptor.brokenRule? = none) :
    readHints descriptor.rendering descriptor.wire = .ok descriptor.withoutEmptyHints.metadata := by
  rw [readHints, lookup?_hints, withoutEmptyHints]
  cases hints : descriptor.metadata with
  | none => rfl
  | some metadata =>
    obtain ⟨-, isAllowed⟩ := brokenRule?_eq_none_iff.mp isUnbroken
    obtain ⟨isNoFile, -⟩ := isAllowed metadata hints
    by_cases isEmpty : metadata = Metadata.empty
    · subst isEmpty
      rfl
    · have hasEntries : metadata.wire ≠ [] := (isEmpty <| Metadata.wire_eq_nil_iff.mp ·)
      have isKept : (some metadata).filter (· ≠ Metadata.empty) = some metadata := by
        simp [isEmpty]
      simp only [Option.map_some, Option.getD_some, List.isEmpty_iff, if_neg hasEntries, isKept,
        Json.isTrue_object hasEntries, isNoFile, Bool.true_eq_false, or_self, if_false]
      exact congrArg (Except.map some) metadata.ofFields_wire

theorem readBlobId_hexJson (blobId : BlobId) :
    readBlobId (hexJson blobId.octets.toList).toValue = .ok blobId := by
  rw [hexJson, Json.toValue, readBlobId, BlobId.ofText, Value.hexOctets_encode]
  rfl

theorem readKey_hexJson (key : Octets 32) :
    readKey (hexJson key.toList).toValue = .ok key := by
  rw [hexJson, Json.toValue, readKey, Value.hexOctets_encode]

theorem readMediaType_text {text : WideText} (isMediaType : MediaType.isMediaType text = true) :
    readMediaType (.text text) = .ok text :=
  if_pos isMediaType

/-- The media type of a thumbnail is written where its blob is, and there are both or neither. -/
theorem thumbnailMediaType_wire {descriptor : Descriptor}
    (isUnbroken : descriptor.brokenRule? = none) :
    (if descriptor.thumbnailBlobId.isSome = true then
      descriptor.thumbnailMediaType.map Json.text else none) =
      descriptor.thumbnailMediaType.map Json.text := by
  rw [(brokenRule?_eq_none_iff.mp isUnbroken).1]
  cases descriptor.thumbnailMediaType <;> rfl

/-- The entries of a valid descriptor are read as that descriptor, without empty hints. -/
theorem ofEntries_wire {descriptor : Descriptor} (isValid : descriptor.IsValid) :
    ofEntries descriptor.wire = .ok descriptor.withoutEmptyHints := by
  have rendering : ((entryValue? "j" descriptor.wire).getD (.whole 0)).toRendering =
      .ok descriptor.rendering := by
    simp +decide only [entryValue?, wire, Json.lookup?_wireEntry, List.filterMap_nil,
      Json.lookup?_nil, if_true, if_false, Option.none_or, Option.or_none]
    exact Value.toRendering_code descriptor.rendering
  unfold ofEntries
  rw [rendering]
  simp only [readHints_wire isValid.isUnbroken]
  apply ofFields_eq_ok_iff.mpr
  show IsReadFrom _ (Field.given (entryValue? · descriptor.wire) _ ++ _)
  constructor
  all_goals simp +decide only [Field.find?_given_cons, Field.given_nil, Field.find?_cons,
    Field.find?_nil, List.nil_append, if_true, if_false, Option.none_or, Option.or_none,
    entryValue?, wire, Json.lookup?_wireEntry, List.filterMap_nil, Json.lookup?_nil,
    Option.map_map, Option.map_some, withoutEmptyHints]
  case fileBlobId => exact readBlobId_hexJson descriptor.fileBlobId
  case mediaType => exact readMediaType_text isValid.mediaType
  case encryptionKey => exact readKey_hexJson descriptor.encryptionKey
  case fileSize => exact Field.readSize_whole isValid.fileSize
  case thumbnailBlobId =>
    exact Field.readOptional_map (fun blobId _ => readBlobId_hexJson blobId) nofun
  case thumbnailMediaType =>
    rw [thumbnailMediaType_wire isValid.isUnbroken, Option.map_map]
    exact Field.readOptional_map
      (fun mediaType isMember => readMediaType_text (isValid.thumbnailMediaType mediaType isMember))
      nofun
  case fileName => exact Field.readOptional_map (fun _ _ => rfl) nofun
  case description => exact Field.readOptional_map (fun _ _ => rfl) nofun
  case rendering => rfl
  case metadata => cases descriptor.metadata.filter (· ≠ Metadata.empty) <;> rfl
  case isUnbroken => exact brokenRule?_withoutEmptyHints isValid.isUnbroken

end Descriptor
end SealedGateway
