import SealedGateway.Key.Reading
import SealedGateway.Proofs.Bytes.Hex
import SealedGateway.Proofs.Text.Wide

/-!
# Keys and identifiers in hexadecimal

A text is read as a byte string of some length exactly when it consists of the hexadecimal digits of
that many bytes, and then it is read as the bytes whose digits it has.
-/

namespace SealedGateway

namespace WideText

/-- Whether a text consists of the hexadecimal digits of a number of bytes, in either case. -/
def IsHexOf (size : Nat) (text : WideText) : Prop :=
  ∃ chars, text = ofChars chars ∧ chars.length = 2 * size ∧ ∀ char ∈ chars, Hex.IsDigit char

/-- Whether a text spells some bytes: in lower case it is their written form. -/
def Spells (text : WideText) (bytes : Bytes) : Prop :=
  ∃ chars, text = ofChars chars ∧ chars.map Numeral.lowerAscii = Hex.encode bytes

theorem spells_encode (bytes : Bytes) : (ofChars (Hex.encode bytes)).Spells bytes :=
  ⟨_, rfl, Hex.map_lowerAscii_encode bytes⟩

theorem spells_ofString_iff {text : String} {bytes : Bytes} :
    (ofString text).Spells bytes ↔ text.toList.map Numeral.lowerAscii = Hex.encode bytes := by
  constructor
  · rintro ⟨chars, same, isSpelled⟩
    rwa [ofChars_injective same]
  · exact fun isSpelled => ⟨text.toList, rfl, isSpelled⟩

/-- The digits of a number of bytes spell that many bytes, and nothing else does. -/
theorem exists_spells_iff {size : Nat} {text : WideText} :
    (∃ octets : Octets size, text.Spells octets.toList) ↔ text.IsHexOf size := by
  constructor
  · rintro ⟨octets, chars, rfl, isSpelled⟩
    have read := Hex.decode?_eq_some_iff.mpr isSpelled
    have lengths := Hex.length_of_decode? read
    rw [Octets.length_toList] at lengths
    exact ⟨chars, rfl, lengths, (Hex.exists_decode?_iff.mp ⟨_, read⟩).2⟩
  · rintro ⟨chars, rfl, lengthIs, areDigits⟩
    obtain ⟨bytes, read⟩ := Hex.exists_decode?_iff.mpr ⟨by omega, areDigits⟩
    have lengths := Hex.length_of_decode? read
    exact ⟨⟨bytes, by omega⟩, chars, rfl, Hex.decode?_eq_some_iff.mp read⟩

end WideText

namespace Value

theorem hexBytes_eq_ok_iff {spelled : WideText} {bytes : Bytes} :
    (text spelled).hexBytes = .ok bytes ↔ spelled.Spells bytes := by
  have isDecoded : (text spelled).hexBytes = .ok bytes ↔
      spelled.toChars?.bind Hex.decode? = some bytes := by
    rw [hexBytes]
    cases spelled.toChars?.bind Hex.decode? <;> simp
  rw [isDecoded, Option.bind_eq_some_iff]
  simp only [WideText.toChars?_eq_some_iff, Hex.decode?_eq_some_iff, WideText.Spells]

/-- A byte string of some length is read from the digits of its bytes. -/
theorem hexOctets_eq_ok_iff {size : Nat} {spelled : WideText} {octets : Octets size} :
    (text spelled).hexOctets size = .ok octets ↔ spelled.Spells octets.toList := by
  rw [← hexBytes_eq_ok_iff, hexOctets]
  cases (text spelled).hexBytes with
  | error fault => simp
  | ok bytes =>
    simp only [Except.ok.injEq]
    cases fixed : Octets.ofList? size bytes with
    | none =>
      have lengths := Octets.ofList?_eq_none_iff.mp fixed
      constructor
      · nofun
      · rintro rfl
        exact absurd octets.length_toList lengths
    | some made =>
      have same := Octets.toList_of_ofList? fixed
      simp only [Except.ok.injEq, ← same]
      exact ⟨congrArg Octets.toList, Octets.ext⟩

theorem exists_hexOctets_iff {size : Nat} {spelled : WideText} :
    (∃ octets, (text spelled).hexOctets size = .ok octets) ↔ spelled.IsHexOf size := by
  rw [← WideText.exists_spells_iff]
  simp only [hexOctets_eq_ok_iff]

/-- Bytes in hexadecimal are read back. -/
theorem hexOctets_encode {size : Nat} (octets : Octets size) :
    (Value.text (WideText.ofChars (Hex.encode octets.toList))).hexOctets size = .ok octets :=
  hexOctets_eq_ok_iff.mpr (WideText.spells_encode octets.toList)

/-- A byte string of some length is taken from the byte strings that are it. -/
theorem octets?_eq_some_iff {size : Nat} {value : Value} {octets : Octets size} :
    value.octets? size = some octets ↔ value.byteString? = some octets.toList := by
  rw [octets?, Option.bind_eq_some_iff]
  constructor
  · rintro ⟨bytes, isBytes, fixed⟩
    rw [isBytes, Octets.toList_of_ofList? fixed]
  · intro isBytes
    exact ⟨_, isBytes, Octets.ofList?_toList octets⟩

end Value

namespace SymmetricKey

variable {key : SymmetricKey} {value : Value}

/-- A key is made of its thirty-two bytes and of no other byte string. -/
theorem ofBytes_eq_ok_iff :
    ofBytes value = .ok key ↔ value.byteString? = some key.octets.toList := by
  rw [← Value.octets?_eq_some_iff, ofBytes]
  cases value.octets? 32 with
  | none => exact iff_of_false nofun nofun
  | some octets =>
    rw [Except.ok.injEq, Option.some.injEq]
    exact ⟨congrArg SymmetricKey.octets, congrArg SymmetricKey.mk⟩

/-- A key is read from the digits of its bytes and from nothing else. -/
theorem ofText_eq_ok_iff :
    ofText value = .ok key ↔
      ∃ spelled, value = .text spelled ∧ spelled.Spells key.octets.toList := by
  have isRead : ofText value = .ok key ↔ value.hexOctets 32 = .ok key.octets := by
    rw [ofText]
    cases value.hexOctets 32 with
    | error fault => exact iff_of_false nofun nofun
    | ok octets =>
      rw [Except.ok.injEq, Except.ok.injEq]
      exact ⟨congrArg SymmetricKey.octets, congrArg SymmetricKey.mk⟩
  rw [isRead]
  constructor
  · intro read
    cases value with
    | text spelled => exact ⟨spelled, rfl, Value.hexOctets_eq_ok_iff.mp read⟩
    | _ => cases read
  · rintro ⟨spelled, rfl, isSpelled⟩
    exact Value.hexOctets_eq_ok_iff.mpr isSpelled

/-- The bytes of a key make the key. -/
theorem ofBytes_toList (key : SymmetricKey) : ofBytes (.octets key.octets.toList) = .ok key :=
  ofBytes_eq_ok_iff.mpr rfl

theorem ofString_text (key : SymmetricKey) :
    Value.ofString key.text = .text (WideText.ofChars (Hex.encode key.octets.toList)) := by
  rw [Value.ofString, WideText.ofString, text, Hex.toList_text]

/-- A key is read from its own text. -/
theorem ofText_text (key : SymmetricKey) : ofText (Value.ofString key.text) = .ok key :=
  ofText_eq_ok_iff.mpr ⟨_, key.ofString_text, WideText.spells_encode _⟩

end SymmetricKey

/-! ## Keys of a box -/

variable {value : Value}

/-- Whether a value is a form of a public key. -/
inductive PublicKey.IsGivenAs (key : PublicKey) : Value → Prop
  | octets : IsGivenAs key (.octets key.octets.toList)
  | buffer : IsGivenAs key (.buffer key.octets.toList)
  | recipientKey : IsGivenAs key (.recipientKey ⟨key.octets⟩)
  | publicKey : IsGivenAs key (.publicKey key)

/-- Whether a value is a form of a private key.  Its digits are in either case. -/
inductive PrivateKey.IsGivenAs (key : PrivateKey) : Value → Prop
  | octets : IsGivenAs key (.octets key.octets.toList)
  | buffer : IsGivenAs key (.buffer key.octets.toList)
  | digits {spelled : WideText} (isSpelled : spelled.Spells key.octets.toList) :
      IsGivenAs key (.text spelled)
  | privateKey : IsGivenAs key (.privateKey key)

/-- A byte string is read as a public key exactly if it is the bytes of the key. -/
theorem PublicKey.map_ofBytes_eq_ok_iff {key : PublicKey} :
    (RecipientKey.ofBytes value).map RecipientKey.publicKey = .ok key ↔
      value.byteString? = some key.octets.toList := by
  rw [← Value.octets?_eq_some_iff, RecipientKey.ofBytes]
  cases value.octets? 32 with
  | none => exact iff_of_false nofun nofun
  | some octets =>
    rw [Except.map, Except.ok.injEq, Option.some.injEq]
    exact ⟨congrArg PublicKey.octets, congrArg PublicKey.mk⟩

/-- A value is read as a public key exactly if it is a form of this key. -/
theorem PublicKey.ofValue_eq_ok_iff {key : PublicKey} :
    ofValue value = .ok key ↔ key.IsGivenAs value := by
  have octets_iff (bytes : Bytes) : ofValue (.octets bytes) = .ok key ↔ _ :=
    map_ofBytes_eq_ok_iff
  have buffer_iff (bytes : Bytes) : ofValue (.buffer bytes) = .ok key ↔ _ :=
    map_ofBytes_eq_ok_iff
  constructor
  · intro made
    cases value with
    | publicKey given =>
      cases made
      exact .publicKey
    | recipientKey given =>
      cases made
      exact .recipientKey
    | octets bytes =>
      cases (octets_iff bytes).mp made
      exact .octets
    | buffer bytes =>
      cases (buffer_iff bytes).mp made
      exact .buffer
    | _ => cases made
  · intro isGiven
    cases isGiven with
    | octets => exact (octets_iff _).mpr rfl
    | buffer => exact (buffer_iff _).mpr rfl
    | recipientKey => rfl
    | publicKey => rfl

/-- A value that is a byte string is read as a private key exactly if it is the bytes of the key. -/
theorem PrivateKey.ofValue_eq_ok_iff_of_byteString? {key : PrivateKey} {bytes : Bytes}
    (isBytes : value.byteString? = some bytes) :
    ofValue value = .ok key ↔ bytes = key.octets.toList := by
  have octets_iff : value.octets? 32 = some key.octets ↔ bytes = key.octets.toList := by
    rw [Value.octets?_eq_some_iff, isBytes, Option.some.injEq]
  rw [← octets_iff, ofValue]
  · cases value.octets? 32 with
    | none => exact iff_of_false nofun nofun
    | some octets =>
      rw [Except.ok.injEq, Option.some.injEq]
      exact ⟨congrArg PrivateKey.octets, congrArg PrivateKey.mk⟩
  · rintro given rfl
    cases isBytes
  · rintro text rfl
    cases isBytes

/-- A value is read as a private key exactly if it is a form of this key. -/
theorem PrivateKey.ofValue_eq_ok_iff {key : PrivateKey} :
    ofValue value = .ok key ↔ key.IsGivenAs value := by
  constructor
  · intro made
    cases value with
    | privateKey given =>
      cases made
      exact .privateKey
    | text spelled =>
      rw [ofValue] at made
      cases read : (Value.text spelled).hexOctets 32 with
      | error fault =>
        rw [read] at made
        cases made
      | ok octets =>
        rw [read] at made
        cases made
        exact .digits (Value.hexOctets_eq_ok_iff.mp read)
    | octets bytes =>
      cases (ofValue_eq_ok_iff_of_byteString? rfl).mp made
      exact .octets
    | buffer bytes =>
      cases (ofValue_eq_ok_iff_of_byteString? rfl).mp made
      exact .buffer
    | _ => cases made
  · intro isGiven
    cases isGiven with
    | octets => exact (ofValue_eq_ok_iff_of_byteString? rfl).mpr rfl
    | buffer => exact (ofValue_eq_ok_iff_of_byteString? rfl).mpr rfl
    | digits isSpelled => rw [ofValue, Value.hexOctets_eq_ok_iff.mpr isSpelled]
    | privateKey => rfl

end SealedGateway
