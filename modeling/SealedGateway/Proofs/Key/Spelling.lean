import Mathlib.Logic.Function.Basic
import SealedGateway.Proofs.Key.Reading
import SealedGateway.Value.Equality

/-!
# Spellings of bytes, keys and identifiers

An even number of hexadecimal digits spells bytes, nothing else does, and the written form of the
bytes is the spelling in lower case.  So an identifier or a key is read from the digits of its bytes
and from no other text, and the text of the value is the lower case of its spellings.  Two spellings
give equal values exactly if they differ in the case of letters only, but for private keys: these
are compared by their public keys, which do not depend on all of their bits.
-/

namespace SealedGateway

namespace Symbol

/-- Whether a symbol is a hexadecimal digit of ASCII, in either case. -/
def IsHexDigit : Symbol → Prop
  | char value => Hex.IsDigit value
  | surrogate _ => False

instance : (symbol : Symbol) → Decidable symbol.IsHexDigit
  | char value => inferInstanceAs (Decidable (Hex.IsDigit value))
  | surrogate _ => inferInstanceAs (Decidable False)

/-- A symbol in lower case, if it is a letter of ASCII. -/
def lowerAscii : Symbol → Symbol
  | char value => char (Numeral.lowerAscii value)
  | surrogate offset => surrogate offset

end Symbol

namespace WideText

variable {text : WideText} {bytes : Bytes} {size : Nat}

/-- A text with its letters of ASCII in lower case. -/
def lowerCase (text : WideText) : WideText :=
  text.map Symbol.lowerAscii

/-- Whether a text consists of an even number of hexadecimal digits. -/
structure IsHex (text : WideText) : Prop where
  isEven : text.length % 2 = 0
  areDigits : ∀ symbol ∈ text, symbol.IsHexDigit

theorem length_ofChars (chars : List Char) : (ofChars chars).length = chars.length :=
  List.length_map _

theorem lowerCase_ofChars (chars : List Char) :
    (ofChars chars).lowerCase = ofChars (chars.map Numeral.lowerAscii) := by
  rw [lowerCase, ofChars, ofChars, List.map_map, List.map_map]
  rfl

/-- The digits of a number of bytes are two symbols for each byte. -/
theorem isHexOf_iff :
    text.IsHexOf size ↔ text.length = 2 * size ∧ ∀ symbol ∈ text, symbol.IsHexDigit := by
  rw [forall_mem_iff fun _ => id]
  constructor
  · rintro ⟨chars, rfl, lengthIs, areDigits⟩
    exact ⟨(length_ofChars chars).trans lengthIs, chars, rfl, areDigits⟩
  · rintro ⟨lengthIs, chars, rfl, areDigits⟩
    exact ⟨chars, rfl, (length_ofChars chars).symm.trans lengthIs, areDigits⟩

/-- A text whose lower case consists of characters consists of characters itself. -/
theorem exists_ofChars_of_lowerCase {lower : List Char} (lowerIs : ofChars lower = text.lowerCase) :
    ∃ chars, text = ofChars chars := by
  have areChars : ∀ symbol ∈ text, ∃ char, symbol.lowerAscii = .char char := by
    intro symbol isMember
    have isLower : symbol.lowerAscii ∈ ofChars lower := by
      rw [lowerIs]
      exact List.mem_map_of_mem isMember
    obtain ⟨char, -, charIs⟩ := List.mem_map.mp isLower
    exact ⟨char, charIs.symm⟩
  obtain ⟨chars, textIs, -⟩ := (forall_mem_iff nofun).mp areChars
  exact ⟨chars, textIs⟩

/-- A text spells some bytes exactly if its lower case is their written form. -/
theorem spells_iff : text.Spells bytes ↔ ofString (Hex.text bytes) = text.lowerCase := by
  rw [ofString, Hex.toList_text]
  constructor
  · rintro ⟨chars, rfl, isSpelled⟩
    rw [lowerCase_ofChars, isSpelled]
  · intro written
    obtain ⟨chars, rfl⟩ := exists_ofChars_of_lowerCase written
    rw [lowerCase_ofChars] at written
    exact ⟨chars, rfl, (ofChars_injective written).symm⟩

theorem Spells.length_eq (isSpelled : text.Spells bytes) : text.length = 2 * bytes.length := by
  obtain ⟨chars, rfl, written⟩ := isSpelled
  rw [length_ofChars, Hex.length_of_decode? (Hex.decode?_eq_some_iff.mpr written)]

/-- Exactly the texts of an even number of digits spell bytes. -/
theorem isHex_iff : text.IsHex ↔ ∃ bytes, text.Spells bytes := by
  constructor
  · rintro ⟨isEven, areDigits⟩
    have isHexOf : text.IsHexOf (text.length / 2) := isHexOf_iff.mpr ⟨by omega, areDigits⟩
    obtain ⟨octets, isSpelled⟩ := exists_spells_iff.mpr isHexOf
    exact ⟨octets.toList, isSpelled⟩
  · rintro ⟨bytes, isSpelled⟩
    have isHexOf : text.IsHexOf bytes.length := exists_spells_iff.mp ⟨⟨bytes, rfl⟩, isSpelled⟩
    obtain ⟨lengthIs, areDigits⟩ := isHexOf_iff.mp isHexOf
    exact ⟨by omega, areDigits⟩

end WideText

/-! ## Bytes -/

namespace Value

variable {spelled : WideText} {bytes : Bytes} {expected? : Option Int}

/-- The bytes that a text spells are read, if as many are expected. -/
theorem hexBytesOf_eq_ok_iff :
    (text spelled).hexBytesOf expected? = .ok bytes ↔
      spelled.Spells bytes ∧ ∀ expected ∈ expected?, (bytes.length : Int) = expected := by
  rw [← hexBytes_eq_ok_iff]
  cases read : (text spelled).hexBytes with
  | error fault => simp [hexBytesOf, read]
  | ok found =>
    cases expected? with
    | none => simp [hexBytesOf, read]
    | some expected =>
      by_cases isExpected : (found.length : Int) = expected
      · simp only [hexBytesOf, read, if_pos isExpected, Except.ok.injEq, Option.mem_some]
        constructor
        · rintro rfl
          exact ⟨rfl, fun _ same => isExpected.trans same⟩
        · exact And.left
      · simp only [hexBytesOf, read, if_neg isExpected, Except.ok.injEq, Option.mem_some]
        constructor
        · nofun
        · rintro ⟨rfl, isGiven⟩
          exact absurd (isGiven expected rfl) isExpected

/-- What is not an even number of digits is refused as such, whatever length is expected. -/
theorem hexBytesOf_of_not_isHex (isOther : ¬ spelled.IsHex) :
    (text spelled).hexBytesOf expected? = .error .notHex := by
  have refused : (text spelled).hexBytes = .error .notHex := by
    cases read : (text spelled).hexBytes with
    | ok bytes => exact absurd (WideText.isHex_iff.mpr ⟨bytes, hexBytes_eq_ok_iff.mp read⟩) isOther
    | error fault =>
      rw [hexBytes] at read
      split at read
      · cases read
      · exact read.symm
  simp only [hexBytesOf, refused]

/-- Digits of another number of bytes than expected are refused for that number. -/
theorem hexBytesOf_of_isHex {expected : Int} (isHex : spelled.IsHex)
    (isOther : (spelled.length : Int) ≠ 2 * expected) :
    (text spelled).hexBytesOf (some expected) =
      .error (.wrongByteCount expected (spelled.length / 2)) := by
  obtain ⟨bytes, isSpelled⟩ := WideText.isHex_iff.mp isHex
  have lengthIs := isSpelled.length_eq
  have countIs : spelled.length / 2 = bytes.length := by omega
  have isUnexpected : (bytes.length : Int) ≠ expected := by omega
  simp only [hexBytesOf, hexBytes_eq_ok_iff.mpr isSpelled, countIs, if_neg isUnexpected]

/-- Bytes are read exactly from an even number of digits, two for each byte that is expected. -/
theorem exists_hexBytesOf_iff :
    (∃ bytes, (text spelled).hexBytesOf expected? = .ok bytes) ↔
      spelled.IsHex ∧ ∀ expected ∈ expected?, (spelled.length : Int) = 2 * expected := by
  simp only [hexBytesOf_eq_ok_iff]
  constructor
  · rintro ⟨bytes, isSpelled, isExpected⟩
    refine ⟨WideText.isHex_iff.mpr ⟨bytes, isSpelled⟩, fun expected isGiven => ?_⟩
    have lengthIs := isSpelled.length_eq
    have countIs := isExpected expected isGiven
    omega
  · rintro ⟨isHex, isExpected⟩
    obtain ⟨bytes, isSpelled⟩ := WideText.isHex_iff.mp isHex
    refine ⟨bytes, isSpelled, fun expected isGiven => ?_⟩
    have lengthIs := isSpelled.length_eq
    have countIs := isExpected expected isGiven
    omega

/-- Bytes are read back from their written form. -/
theorem hexBytesOf_text (bytes : Bytes) :
    (ofString (Hex.text bytes)).hexBytesOf none = .ok bytes := by
  have isSpelled : (WideText.ofString (Hex.text bytes)).Spells bytes := by
    rw [WideText.ofString, Hex.toList_text]
    exact WideText.spells_encode bytes
  apply hexBytesOf_eq_ok_iff.mpr
  exact ⟨isSpelled, fun expected isGiven => absurd isGiven (Option.not_mem_none expected)⟩

end Value

/-! ## Identifiers and keys -/

/-- Whether a reader takes the digits of a number of bytes and no other text, and what is shown of a
value is the lower case of its spellings. -/
structure ReadsDigits {ε α : Type} (size : Nat) (read : WideText → Except ε α)
    (shown : α → String) : Prop where
  accepts (text : WideText) : (∃ value, read text = .ok value) ↔
    text.length = 2 * size ∧ ∀ symbol ∈ text, symbol.IsHexDigit
  shows {text : WideText} {value : α} (isRead : read text = .ok value) :
    WideText.ofString (shown value) = text.lowerCase

/-- Whether two texts are read as equal values exactly if they differ in case only. -/
def IgnoresCaseOnly {ε α : Type} (read : WideText → Except ε α) (asValue : α → Value) : Prop :=
  ∀ {text other : WideText} {value otherValue : α}, read text = .ok value →
    read other = .ok otherValue →
      ((asValue value).isEqual (asValue otherValue) = true ↔ text.lowerCase = other.lowerCase)

section Spelled

variable {ε α : Type} {size : Nat} {read : WideText → Except ε α} {octets : α → Octets size}
  (isBijective : Function.Bijective octets)
  (read_iff : ∀ text value, read text = .ok value ↔ text.Spells (octets value).toList)

include isBijective read_iff

/-- A reader takes digits if it reads a value from the spellings of its bytes. -/
theorem readsDigits_of_spells :
    ReadsDigits size read fun value => Hex.text (octets value).toList := by
  constructor
  case accepts =>
    intro text
    rw [← WideText.isHexOf_iff, ← WideText.exists_spells_iff]
    simp only [read_iff]
    constructor
    · rintro ⟨value, isSpelled⟩
      exact ⟨octets value, isSpelled⟩
    · rintro ⟨content, isSpelled⟩
      obtain ⟨value, rfl⟩ := isBijective.surjective content
      exact ⟨value, isSpelled⟩
  case shows =>
    intro text value isRead
    exact WideText.spells_iff.mp ((read_iff text value).mp isRead)

/-- Texts that are read are those of one value exactly if they differ in case only. -/
theorem eq_iff_of_spells {text other : WideText} {value otherValue : α}
    (isRead : read text = .ok value) (isOtherRead : read other = .ok otherValue) :
    value = otherValue ↔ text.lowerCase = other.lowerCase := by
  have readsDigits := readsDigits_of_spells isBijective read_iff
  rw [← readsDigits.shows isRead, ← readsDigits.shows isOtherRead]
  constructor
  · rintro rfl
    rfl
  · intro sameText
    have sameDigits := congrArg String.toList (WideText.ofString_injective sameText)
    rw [Hex.toList_text, Hex.toList_text] at sameDigits
    apply isBijective.injective
    apply Octets.ext
    exact Hex.encode_injective sameDigits

/-- Only case is ignored if values are equal only to themselves. -/
theorem ignoresCaseOnly_of_spells {asValue : α → Value}
    (isEqual_iff : ∀ value other, (asValue value).isEqual (asValue other) = true ↔ value = other) :
    IgnoresCaseOnly read asValue := by
  intro text other value otherValue isRead isOtherRead
  rw [isEqual_iff]
  exact eq_iff_of_spells isBijective read_iff isRead isOtherRead

end Spelled

namespace BlobId

theorem bijective_octets : Function.Bijective BlobId.octets :=
  Function.bijective_iff_has_inverse.mpr ⟨BlobId.mk, fun _ => rfl, fun _ => rfl⟩

theorem ofText_eq_ok_iff_spells (text : WideText) (blobId : BlobId) :
    BlobId.ofText (.text text) = .ok blobId ↔ text.Spells blobId.octets.toList := by
  rw [← Value.hexOctets_eq_ok_iff, BlobId.ofText]
  cases (Value.text text).hexOctets 16 with
  | error fault => exact iff_of_false nofun nofun
  | ok octets =>
    rw [Except.map, Except.ok.injEq, Except.ok.injEq]
    exact ⟨congrArg BlobId.octets, congrArg BlobId.mk⟩

theorem readsDigits : ReadsDigits 16 (fun text => BlobId.ofText (.text text)) BlobId.text :=
  readsDigits_of_spells bijective_octets ofText_eq_ok_iff_spells

theorem ignoresCaseOnly : IgnoresCaseOnly (fun text => BlobId.ofText (.text text)) Value.blobId :=
  ignoresCaseOnly_of_spells bijective_octets ofText_eq_ok_iff_spells fun _ _ => beq_iff_eq

end BlobId

namespace RecipientKey

theorem bijective_octets : Function.Bijective RecipientKey.octets :=
  Function.bijective_iff_has_inverse.mpr ⟨RecipientKey.mk, fun _ => rfl, fun _ => rfl⟩

theorem ofText_eq_ok_iff_spells (text : WideText) (key : RecipientKey) :
    RecipientKey.ofText (.text text) = .ok key ↔ text.Spells key.octets.toList := by
  rw [← Value.hexOctets_eq_ok_iff, RecipientKey.ofText]
  cases (Value.text text).hexOctets 32 with
  | error fault => exact iff_of_false nofun nofun
  | ok octets =>
    rw [Except.ok.injEq, Except.ok.injEq]
    exact ⟨congrArg RecipientKey.octets, congrArg RecipientKey.mk⟩

theorem readsDigits :
    ReadsDigits 32 (fun text => RecipientKey.ofText (.text text)) RecipientKey.text :=
  readsDigits_of_spells bijective_octets ofText_eq_ok_iff_spells

theorem ignoresCaseOnly :
    IgnoresCaseOnly (fun text => RecipientKey.ofText (.text text)) Value.recipientKey :=
  ignoresCaseOnly_of_spells bijective_octets ofText_eq_ok_iff_spells fun _ _ => beq_iff_eq

end RecipientKey

namespace SymmetricKey

theorem bijective_octets : Function.Bijective SymmetricKey.octets :=
  Function.bijective_iff_has_inverse.mpr ⟨SymmetricKey.mk, fun _ => rfl, fun _ => rfl⟩

theorem ofText_eq_ok_iff_spells (text : WideText) (key : SymmetricKey) :
    SymmetricKey.ofText (.text text) = .ok key ↔ text.Spells key.octets.toList := by
  rw [SymmetricKey.ofText_eq_ok_iff]
  constructor
  · rintro ⟨_, ⟨⟩, isSpelled⟩
    exact isSpelled
  · intro isSpelled
    exact ⟨text, rfl, isSpelled⟩

theorem readsDigits :
    ReadsDigits 32 (fun text => SymmetricKey.ofText (.text text)) SymmetricKey.text :=
  readsDigits_of_spells bijective_octets ofText_eq_ok_iff_spells

theorem ignoresCaseOnly :
    IgnoresCaseOnly (fun text => SymmetricKey.ofText (.text text)) Value.symmetricKey :=
  ignoresCaseOnly_of_spells bijective_octets ofText_eq_ok_iff_spells fun _ _ => beq_iff_eq

end SymmetricKey

/-! ## Private keys -/

/-- The public key hangs on the clamped scalar only. -/
theorem Curve25519.publicKeyOf_congr {key other : Octets 32}
    (sameScalar : clampScalar key = clampScalar other) : publicKeyOf key = publicKeyOf other := by
  simp only [publicKeyOf, sameScalar]

namespace PrivateKey

theorem bijective_octets : Function.Bijective PrivateKey.octets :=
  Function.bijective_iff_has_inverse.mpr ⟨PrivateKey.mk, fun _ => rfl, fun _ => rfl⟩

theorem ofValue_eq_ok_iff_spells (text : WideText) (key : PrivateKey) :
    PrivateKey.ofValue (.text text) = .ok key ↔ text.Spells key.octets.toList := by
  rw [PrivateKey.ofValue_eq_ok_iff]
  constructor
  · intro isGiven
    cases isGiven with
    | digits isSpelled => exact isSpelled
  · exact .digits

theorem readsDigits :
    ReadsDigits 32 (fun text => PrivateKey.ofValue (.text text))
      fun key => Hex.text key.octets.toList :=
  readsDigits_of_spells bijective_octets ofValue_eq_ok_iff_spells

/-- How two private keys compare that are read from two texts.  Their bytes are the same exactly if
the texts differ in case only, but the keys are equal exactly if their public keys are: the bits
that are overwritten when the scalar is clamped make no difference. -/
structure ComparesByPublicKey (text other : WideText) (key otherKey : PrivateKey) : Prop where
  sameBytes_iff : key.octets = otherKey.octets ↔ text.lowerCase = other.lowerCase
  isEqual_iff : (Value.privateKey key).isEqual (.privateKey otherKey) = true ↔
    key.publicKey = otherKey.publicKey
  isEqual_of_case : text.lowerCase = other.lowerCase →
    (Value.privateKey key).isEqual (.privateKey otherKey) = true
  isEqual_of_scalar :
    Curve25519.clampScalar key.octets = Curve25519.clampScalar otherKey.octets →
      (Value.privateKey key).isEqual (.privateKey otherKey) = true

theorem isEqual_iff_publicKey {key other : PrivateKey} :
    (Value.privateKey key).isEqual (.privateKey other) = true ↔ key.publicKey = other.publicKey :=
  beq_iff_eq

theorem comparesByPublicKey {text other : WideText} {key otherKey : PrivateKey}
    (isRead : PrivateKey.ofValue (.text text) = .ok key)
    (isOtherRead : PrivateKey.ofValue (.text other) = .ok otherKey) :
    ComparesByPublicKey text other key otherKey := by
  have same_iff : key = otherKey ↔ text.lowerCase = other.lowerCase :=
    eq_iff_of_spells bijective_octets ofValue_eq_ok_iff_spells isRead isOtherRead
  constructor
  case sameBytes_iff => exact bijective_octets.injective.eq_iff.trans same_iff
  case isEqual_iff => exact isEqual_iff_publicKey
  case isEqual_of_case =>
    intro sameCase
    rw [same_iff.mpr sameCase]
    exact isEqual_iff_publicKey.mpr rfl
  case isEqual_of_scalar =>
    intro sameScalar
    apply isEqual_iff_publicKey.mpr
    exact congrArg PublicKey.mk (Curve25519.publicKeyOf_congr sameScalar)

end PrivateKey

/-- Bytes are read exactly from an even number of hexadecimal digits, two for each byte that is
expected, if a number is.  Every other text is malformed, and the fault tells texts that are no such
digits from digits of another length.  The written form of what is read is the text in lower case,
and written bytes are read back.  Identifiers and keys are read from the digits of their bytes
alone, and the text of the value is their lower case.  Two texts give equal identifiers, keys of
recipients and keys of files exactly if they differ in case only; private keys that are read from
two texts compare by their public keys. -/
theorem hex_language :
    (∀ (text : WideText) (expected? : Option Int),
      (∃ bytes, (Value.text text).hexBytesOf expected? = .ok bytes) ↔
        text.IsHex ∧ ∀ expected ∈ expected?, (text.length : Int) = 2 * expected) ∧
    (∀ (text : WideText) (expected? : Option Int), ¬ text.IsHex →
      (Value.text text).hexBytesOf expected? = .error .notHex) ∧
    (∀ (text : WideText) (expected : Int), text.IsHex → (text.length : Int) ≠ 2 * expected →
      (Value.text text).hexBytesOf (some expected) =
        .error (.wrongByteCount expected (text.length / 2))) ∧
    (∀ (text : WideText) (expected? : Option Int) (bytes : Bytes),
      (Value.text text).hexBytesOf expected? = .ok bytes →
        WideText.ofString (Hex.text bytes) = text.lowerCase) ∧
    (∀ bytes : Bytes, (Value.ofString (Hex.text bytes)).hexBytesOf none = .ok bytes) ∧
    (ReadsDigits 16 (fun text => BlobId.ofText (.text text)) BlobId.text ∧
      IgnoresCaseOnly (fun text => BlobId.ofText (.text text)) Value.blobId) ∧
    (ReadsDigits 32 (fun text => RecipientKey.ofText (.text text)) RecipientKey.text ∧
      IgnoresCaseOnly (fun text => RecipientKey.ofText (.text text)) Value.recipientKey) ∧
    (ReadsDigits 32 (fun text => SymmetricKey.ofText (.text text)) SymmetricKey.text ∧
      IgnoresCaseOnly (fun text => SymmetricKey.ofText (.text text)) Value.symmetricKey) ∧
    ReadsDigits 32 (fun text => PrivateKey.ofValue (.text text))
      (fun key => Hex.text key.octets.toList) ∧
    (∀ (text other : WideText) (key otherKey : PrivateKey),
      PrivateKey.ofValue (.text text) = .ok key → PrivateKey.ofValue (.text other) = .ok otherKey →
        PrivateKey.ComparesByPublicKey text other key otherKey) := by
  refine ⟨?_, ?_, ?_, ?_, Value.hexBytesOf_text, ⟨BlobId.readsDigits, BlobId.ignoresCaseOnly⟩,
    ⟨RecipientKey.readsDigits, RecipientKey.ignoresCaseOnly⟩,
    ⟨SymmetricKey.readsDigits, SymmetricKey.ignoresCaseOnly⟩, PrivateKey.readsDigits, ?_⟩
  · intro text expected?
    exact Value.exists_hexBytesOf_iff
  · intro text expected? isOther
    exact Value.hexBytesOf_of_not_isHex isOther
  · intro text expected isHex isOther
    exact Value.hexBytesOf_of_isHex isHex isOther
  · intro text expected? bytes isRead
    exact WideText.spells_iff.mp (Value.hexBytesOf_eq_ok_iff.mp isRead).1
  · intro text other key otherKey isRead isOtherRead
    exact PrivateKey.comparesByPublicKey isRead isOtherRead

/-- An identifier whose digits are all the same letter. -/
def letteredBlobId : BlobId := ⟨⟨List.replicate 16 0xAA, List.length_replicate⟩⟩

/-- Four digits in both cases are two bytes and no others, a line feed behind digits is not one of
them, and the digits of an identifier in capitals are in lower case those in small letters. -/
theorem hex_language_of_mixedCase :
    ((Value.ofString "aB0F").hexBytesOf (some 2) = .ok [0xAB, 0x0F] ∧
      WideText.ofString (Hex.text [0xAB, 0x0F]) = (WideText.ofString "aB0F").lowerCase) ∧
    (Value.ofString "aB0F").hexBytesOf (some 3) = .error (.wrongByteCount 3 2) ∧
    (Value.ofString "aB0\n").hexBytesOf none = .error .notHex ∧
    BlobId.ofText (Value.ofString "AAAAAAAAAAAAAAAAAAAAAAAAAAAAAAAA") = .ok letteredBlobId ∧
    BlobId.ofText (Value.ofString "aaaaaaaaaaaaaaaaaaaaaaaaaaaaaaaa") = .ok letteredBlobId ∧
    (WideText.ofString "AAAAAAAAAAAAAAAAAAAAAAAAAAAAAAAA").lowerCase =
      (WideText.ofString "aaaaaaaaaaaaaaaaaaaaaaaaaaaaaaaa").lowerCase := by
  obtain ⟨-, isNoHex, hasOtherLength, writes, -, ⟨-, ignoresCaseOnly⟩, -⟩ := hex_language
  have isRead : (Value.ofString "aB0F").hexBytesOf (some 2) = .ok [0xAB, 0x0F] := rfl
  have isCapital : BlobId.ofText (Value.ofString "AAAAAAAAAAAAAAAAAAAAAAAAAAAAAAAA") =
      .ok letteredBlobId := rfl
  have isSmall : BlobId.ofText (Value.ofString "aaaaaaaaaaaaaaaaaaaaaaaaaaaaaaaa") =
      .ok letteredBlobId := rfl
  have isEqual : (Value.blobId letteredBlobId).isEqual (.blobId letteredBlobId) = true :=
    beq_self_eq_true letteredBlobId
  refine ⟨⟨isRead, writes _ _ _ isRead⟩, ?_, ?_, isCapital, isSmall, ?_⟩
  · exact hasOtherLength _ 3 ⟨by decide, by decide⟩ (by decide)
  · exact isNoHex _ none fun isHex => absurd isHex.areDigits (by decide)
  · exact (ignoresCaseOnly isCapital isSmall).mp isEqual

/-- The digits of a private key that is zero but for its first byte. -/
def firstByteDigits (first : String) : WideText :=
  WideText.ofString (first ++ String.ofList (List.replicate 62 '0'))

/-- A private key that is zero but for its first byte. -/
def firstByteKey (first : UInt8) : PrivateKey :=
  ⟨⟨first :: List.replicate 31 0, rfl⟩⟩

/-- Case is not all that makes no difference to private keys: the digits of zero and those of one
are read as equal keys, as the clamping overwrites the lowest bit. -/
theorem not_ignoresCaseOnly_privateKey :
    ¬ IgnoresCaseOnly (fun text => PrivateKey.ofValue (.text text)) Value.privateKey := by
  intro ignoresCaseOnly
  have isZero : PrivateKey.ofValue (.text (firstByteDigits "00")) = .ok (firstByteKey 0) := rfl
  have isOne : PrivateKey.ofValue (.text (firstByteDigits "01")) = .ok (firstByteKey 1) := rfl
  have sameScalar : Curve25519.clampScalar (firstByteKey 0).octets =
      Curve25519.clampScalar (firstByteKey 1).octets := by
    decide +kernel
  have isEqual := (PrivateKey.comparesByPublicKey isZero isOne).isEqual_of_scalar sameScalar
  exact absurd ((ignoresCaseOnly isZero isOne).mp isEqual) (by decide +kernel)

end SealedGateway
