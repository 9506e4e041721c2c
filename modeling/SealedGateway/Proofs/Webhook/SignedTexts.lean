import SealedGateway.Proofs.Bytes.Hex
import SealedGateway.Proofs.Decimal.DigitRun
import SealedGateway.Proofs.Key.Reading
import SealedGateway.Proofs.Text.Utf8
import SealedGateway.Webhook.Intake
import SealedGateway.Webhook.Signing

/-!
# The texts of a webhook

A webhook is judged by seven texts: six that are authenticated, and the code.  This module says
when the code has the right form, when it is the right one, and when the six texts are readable,
and shows that the readers of codes and of incoming messages decide exactly that.
-/

namespace SealedGateway

/-- The texts by which a webhook is judged. -/
structure SignedTexts extends Delivery where
  /-- The nonce in hexadecimal. -/
  nonce : String
  /-- The box in hexadecimal. -/
  box : String
  /-- The authentication code in hexadecimal. -/
  mac : String

/-- Whether a form has these texts under their names. -/
structure Form.Presents (form : Form) (texts : SignedTexts) : Prop where
  sender : form.find? "from" = some (WideText.ofString texts.sender)
  recipient : form.find? "to" = some (WideText.ofString texts.recipient)
  messageId : form.find? "messageId" = some (WideText.ofString texts.messageId)
  date : form.find? "date" = some (WideText.ofString texts.date)
  nonce : form.find? "nonce" = some (WideText.ofString texts.nonce)
  box : form.find? "box" = some (WideText.ofString texts.box)
  mac : form.find? "mac" = some (WideText.ofString texts.mac)

namespace SignedTexts

/-- Whether the code has exactly sixty-four hexadecimal digits. -/
def HasCode (texts : SignedTexts) : Prop :=
  texts.mac.toList.length = 64 ∧ ∀ char ∈ texts.mac.toList, Hex.IsDigit char

instance (texts : SignedTexts) : Decidable texts.HasCode :=
  decidable_of_iff (texts.mac.toList.length = 64 ∧
    texts.mac.toList.all (fun char => decide (Hex.IsDigit char)) = true) (by
      simp only [HasCode, List.all_eq_true, decide_eq_true_eq])

/-- The authenticated text: the six texts one after the other. -/
def authenticated (texts : SignedTexts) : String :=
  texts.sender ++ texts.recipient ++ texts.messageId ++ texts.date ++ texts.nonce ++ texts.box

/-- The code that a secret gives to the authenticated text. -/
def code (texts : SignedTexts) (secret : String) : Octets 32 :=
  Sha256.authenticate (Utf8.encode secret) (Utf8.encode texts.authenticated)

/-- Whether the code is the one that the secret gives, in digits of either case. -/
def IsAuthentic (texts : SignedTexts) (secret : String) : Prop :=
  texts.mac.toList.map Numeral.lowerAscii = Hex.encode (texts.code secret).toList

/-- Whether the date, the nonce and the box can be read. -/
structure IsReadable (texts : SignedTexts) : Prop where
  date : Numeral.IsRun texts.date.toList
  date_short : (Numeral.significant texts.date.toList).length ≤ 4300
  nonce : ∀ char ∈ texts.nonce.toList, Hex.IsDigit char
  nonce_length : texts.nonce.toList.length = 48
  box : ∀ char ∈ texts.box.toList, Hex.IsDigit char
  box_even : texts.box.toList.length % 2 = 0

/-- Whether a message says what the texts say: the names and the code as they stand, the value of
the date, and the bytes of the nonce and of the box. -/
structure Yields (texts : SignedTexts) (nickname : Option WideText) (message : Incoming) :
    Prop where
  sender : message.sender = texts.sender
  recipient : message.recipient = texts.recipient
  messageId : message.messageId = texts.messageId
  date : message.date = Numeral.ofDigits texts.date.toList
  nonce : texts.nonce.toList.map Numeral.lowerAscii = Hex.encode message.nonce.toList
  box : texts.box.toList.map Numeral.lowerAscii = Hex.encode message.box
  mac : message.mac = texts.mac
  nickname : message.nickname = nickname

end SignedTexts

/-! ## The code -/

namespace Mac

/-- A text is read as the code whose digits it has. -/
theorem read?_ofString_eq_some_iff {text : String} {code : Octets 32} :
    read? (WideText.ofString text) = some code ↔
      text.toList.map Numeral.lowerAscii = Hex.encode code.toList := by
  rw [read?, WideText.toChars?_ofString, Option.bind_some, Option.bind_eq_some_iff]
  constructor
  · rintro ⟨bytes, read, fixed⟩
    rw [Octets.toList_of_ofList? fixed]
    exact Hex.decode?_eq_some_iff.mp read
  · intro written
    exact ⟨code.toList, Hex.decode?_eq_some_iff.mpr written, Octets.ofList?_toList code⟩

/-- Only ordinary text is read as a code. -/
theorem exists_string_of_read? {text : WideText} {code : Octets 32}
    (read : read? text = some code) :
    ∃ string, text = WideText.ofString string := by
  obtain ⟨bytes, isHex, -⟩ := Option.bind_eq_some_iff.mp read
  obtain ⟨chars, areChars, -⟩ := Option.bind_eq_some_iff.mp isHex
  rw [WideText.toChars?_eq_some_iff.mp areChars]
  exact (WideText.isPlain_ofChars chars).exists_string

/-- The texts that are read as codes. -/
theorem exists_read?_iff {texts : SignedTexts} :
    (∃ code, read? (WideText.ofString texts.mac) = some code) ↔ texts.HasCode := by
  simp only [read?_ofString_eq_some_iff, ← Hex.decode?_eq_some_iff]
  constructor
  · rintro ⟨code, decoded⟩
    have lengthIs := Hex.length_of_decode? decoded
    rw [code.length_toList] at lengthIs
    exact ⟨lengthIs, (Hex.exists_decode?_iff.mp ⟨_, decoded⟩).2⟩
  · rintro ⟨lengthIs, areDigits⟩
    obtain ⟨bytes, decoded⟩ := Hex.exists_decode?_iff.mpr ⟨by omega, areDigits⟩
    have lengths := Hex.length_of_decode? decoded
    exact ⟨⟨bytes, by omega⟩, decoded⟩

theorem inputOf_cons {form : Form} {name text : String}
    (found : form.find? name = some (WideText.ofString text)) (rest : List String) :
    inputOf form (name :: rest) =
      (inputOf form rest).map fun others => Utf8.encode text ++ others := by
  simp only [inputOf, found, WideText.encode?_ofString]

/-- What comes of the bytes of named fields: all of them are there and have a UTF-8 form, or the
first that is not so decides the failure. -/
theorem inputOf_cases (form : Form) (names : List String) :
    (∃ bytes, inputOf form names = .ok bytes ∧
      ∀ name ∈ names, ∃ text, form.find? name = some (WideText.ofString text)) ∨
    (∃ name ∈ names, form.find? name = none ∧ inputOf form names = .error (.missing name)) ∨
    ∃ name ∈ names, ∃ value, form.find? name = some value ∧ ¬ value.IsPlain ∧
      inputOf form names = .error .unencodable := by
  induction names with
  | nil => exact .inl ⟨[], rfl, nofun⟩
  | cons name rest ih =>
    cases found : form.find? name with
    | none =>
      have refused : inputOf form (name :: rest) = .error (.missing name) := by
        simp only [inputOf, found]
      exact .inr (.inl ⟨name, List.mem_cons_self, found, refused⟩)
    | some value =>
      by_cases isPlain : value.IsPlain
      · obtain ⟨text, rfl⟩ := isPlain.exists_string
        rw [inputOf_cons found]
        rcases ih with ⟨bytes, made, areTexts⟩ | ⟨other, isMember, isMissing, refused⟩ |
          ⟨other, isMember, marred, otherFound, isMarred, refused⟩
        · rw [made]
          exact .inl ⟨_, rfl, List.forall_mem_cons.mpr ⟨⟨text, found⟩, areTexts⟩⟩
        · rw [refused]
          exact .inr (.inl ⟨other, List.mem_cons_of_mem _ isMember, isMissing, rfl⟩)
        · rw [refused]
          exact .inr (.inr ⟨other, List.mem_cons_of_mem _ isMember, marred, otherFound, isMarred,
            rfl⟩)
      · have refused : inputOf form (name :: rest) = .error .unencodable := by
          simp only [inputOf, found, WideText.encode?_eq_none_of_not_isPlain isPlain]
        exact .inr (.inr ⟨name, List.mem_cons_self, value, found, isPlain, refused⟩)

/-- The authenticated bytes of a form are those of the authenticated text. -/
theorem input_eq {form : Form} {texts : SignedTexts} (presents : form.Presents texts) :
    input form = .ok (Utf8.encode texts.authenticated) := by
  rw [input, fieldNames, inputOf_cons presents.sender, inputOf_cons presents.recipient,
    inputOf_cons presents.messageId, inputOf_cons presents.date, inputOf_cons presents.nonce,
    inputOf_cons presents.box]
  simp only [inputOf, Except.map, List.append_nil, SignedTexts.authenticated, Utf8.encode_append,
    List.append_assoc]

theorem input_of_compute {form : Form} {secret : String} {code : Octets 32}
    (computed : compute form secret = .ok code) : ∃ bytes, input form = .ok bytes := by
  rw [compute] at computed
  cases made : input form with
  | error failure =>
    rw [made] at computed
    cases computed
  | ok bytes => exact ⟨bytes, rfl⟩

theorem compute_eq {form : Form} {texts : SignedTexts} (presents : form.Presents texts)
    (secret : String) : compute form secret = .ok (texts.code secret) := by
  rw [compute, input_eq presents]
  rfl

end Mac

/-! ## The fields of the message -/

namespace Incoming

theorem readDate_of_isRun {text : String} (isRun : Numeral.IsRun text.toList) :
    readDate (Value.ofString text) =
      if (Numeral.significant text.toList).length ≤ 4300 then
        .ok (Numeral.ofDigits text.toList)
      else .error .wholeTooLong := by
  have areDigits : text.toList.all Text.isAsciiDigit = true := List.all_eq_true.mpr isRun.2
  have isNonempty : text.toList.isEmpty = false := by
    simpa using isRun.1
  simp only [readDate, Value.ofString, WideText.toChars?_ofString, areDigits, isNonempty,
    Bool.not_false, Bool.and_self, if_true, Field.readCount, Field.readWhole, Field.spelling?,
    Field.readWholeText_of_isRun isRun, Numeral.digitLimit]
  by_cases isShort : (Numeral.significant text.toList).length ≤ 4300
  · simp only [isShort, if_true, Int.natCast_nonneg, Int.toNat_natCast]
  · simp only [isShort, if_false]

/-- Text is read as a date exactly when it is a run of digits that is not too long, and as the value
of that run. -/
theorem readDate_ofString_eq_ok_iff {text : String} {date : Nat} :
    readDate (Value.ofString text) = .ok date ↔
      Numeral.IsRun text.toList ∧ (Numeral.significant text.toList).length ≤ 4300 ∧
        date = Numeral.ofDigits text.toList := by
  by_cases isRun : Numeral.IsRun text.toList
  · rw [readDate_of_isRun isRun]
    grind
  · have refused : readDate (Value.ofString text) = .error (.broken .dateDigits) := by
      have noDigits : (!text.toList.isEmpty && text.toList.all Text.isAsciiDigit) = false := by
        simpa [Numeral.IsRun] using isRun
      simp only [readDate, Value.ofString, WideText.toChars?_ofString, noDigits, Bool.false_eq_true,
        if_false]
    rw [refused]
    grind

theorem hexBytes_ofString_eq_ok_iff {text : String} {bytes : Bytes} :
    (Value.ofString text).hexBytes = .ok bytes ↔
      text.toList.map Numeral.lowerAscii = Hex.encode bytes :=
  Value.hexBytes_eq_ok_iff.trans WideText.spells_ofString_iff

theorem hexOctets_ofString_eq_ok_iff {size : Nat} {text : String} {octets : Octets size} :
    (Value.ofString text).hexOctets size = .ok octets ↔
      text.toList.map Numeral.lowerAscii = Hex.encode octets.toList :=
  Value.hexOctets_eq_ok_iff.trans WideText.spells_ofString_iff

/-- Text can always be looked at as a nonce, and is one exactly when it has the digits of
twenty-four bytes. -/
theorem readNonce_ofString (text : String) :
    ∃ reading, readNonce (Value.ofString text) = .ok reading ∧
      ∀ nonce, reading = .ok nonce ↔
        text.toList.map Numeral.lowerAscii = Hex.encode nonce.toList := by
  rw [Value.ofString, readNonce, ← Value.ofString]
  cases read : (Value.ofString text).hexOctets 24 with
  | ok fixed =>
    refine ⟨.ok fixed, rfl, fun nonce => ?_⟩
    rw [← hexOctets_ofString_eq_ok_iff, read]
    simp
  | error fault =>
    refine ⟨.error (.malformed fault), rfl, fun nonce => ?_⟩
    rw [← hexOctets_ofString_eq_ok_iff, read]
    simp

theorem readBox_ofString_eq_ok_iff {text : String} {box : Bytes} :
    readBox (Value.ofString text) = .ok box ↔
      text.toList.map Numeral.lowerAscii = Hex.encode box := by
  rw [← hexBytes_ofString_eq_ok_iff, Value.ofString, readBox, ← Value.ofString]
  cases (Value.ofString text).hexBytes <;> simp

theorem readOptional_text (text? : Option WideText) :
    Field.readOptional Field.readText (text?.map Value.text) = .ok text? := by
  cases text? <;> rfl

end Incoming

namespace Intake

/-- A name is looked up among the entries with ordinary names as it is among all entries. -/
theorem find?_namedEntries (entries : List (WideText × Value)) (name : String) :
    Field.find? name (Field.namedEntries entries) =
      (entries.find? fun entry => entry.1 = WideText.ofString name).map Prod.snd := by
  induction entries with
  | nil => rfl
  | cons entry rest ih =>
    obtain ⟨own, value⟩ := entry
    cases isNamed : own.toString? with
    | none =>
      have isOther : own ≠ WideText.ofString name := by
        rintro rfl
        rw [WideText.toString?_ofString] at isNamed
        cases isNamed
      have isPassedOver : Field.namedEntries ((own, value) :: rest) = Field.namedEntries rest :=
        List.filterMap_cons_none (Option.map_eq_none_iff.mpr isNamed)
      rw [isPassedOver, ih, List.find?_cons_of_neg (by simpa using isOther)]
    | some ownName =>
      obtain rfl := WideText.toString?_eq_some_iff.mp isNamed
      have isKept : Field.namedEntries ((WideText.ofString ownName, value) :: rest) =
          (ownName, value) :: Field.namedEntries rest :=
        List.filterMap_cons_some (Option.map_eq_some_iff.mpr ⟨ownName, isNamed, rfl⟩)
      rw [isKept]
      by_cases isSame : ownName = name
      · simp [Field.find?, isSame]
      · have isOther : ¬ WideText.ofString ownName = WideText.ofString name :=
          fun same => isSame (WideText.ofString_injective same)
        rw [Field.find?, List.find?_cons_of_neg (by simpa using isSame), ← Field.find?, ih,
          List.find?_cons_of_neg (by simpa using isOther)]

theorem find?_fieldValues (form : Form) (name : String) :
    Field.find? name (fieldValues form) = (form.find? name).map Value.text := by
  rw [fieldValues, find?_namedEntries, List.find?_map, Form.find?, Option.map_map, Option.map_map]
  rfl

/-- The message that texts and the readings of three of them make; whatever is wrong with the
readings is one fault. -/
def assemble (texts : SignedTexts) (nickname : Option WideText) :
    Except FieldFault Nat → Except FieldFault (Octets 24) → Except FieldFault Bytes →
      Except Failure Incoming
  | .ok date, .ok nonce, .ok box =>
    .ok ⟨texts.sender, texts.recipient, texts.messageId, date, nonce, box, texts.mac, nickname⟩
  | _, _, _ => .error (.malformed .malformedIncoming)

theorem interpret_eq {form : Form} {texts : SignedTexts} (presents : form.Presents texts)
    {reading : Except FieldFault (Octets 24)}
    (looked : Incoming.readNonce (Value.ofString texts.nonce) = .ok reading) :
    interpret form =
      assemble texts (form.find? "nickname") (Incoming.readDate (Value.ofString texts.date))
        reading (Incoming.readBox (Value.ofString texts.box)) := by
  rw [Value.ofString] at looked ⊢
  simp only [interpret, Incoming.ofFields, Incoming.findEither?, find?_fieldValues,
    presents.sender, presents.recipient, presents.messageId, presents.date, presents.nonce,
    presents.box, presents.mac, Option.map_some, looked, Field.readRequired, Value.ofString,
    Incoming.readOptional_text, Field.readText]
  cases Incoming.readDate (.text (WideText.ofString texts.date)) <;> cases reading <;>
    cases Incoming.readBox (.text (WideText.ofString texts.box)) <;> rfl

/-- A form that presents texts is interpreted as a message exactly when the date can be read and the
message says what the texts say. -/
theorem interpret_eq_ok_iff {form : Form} {texts : SignedTexts}
    (presents : form.Presents texts) {message : Incoming} :
    interpret form = .ok message ↔
      (Numeral.IsRun texts.date.toList ∧
        (Numeral.significant texts.date.toList).length ≤ 4300) ∧
        texts.Yields (form.find? "nickname") message := by
  obtain ⟨reading, looked, nonceRead⟩ := Incoming.readNonce_ofString texts.nonce
  rw [interpret_eq presents looked]
  constructor
  · intro interpreted
    unfold assemble at interpreted
    split at interpreted
    · next date nonce box dateRead boxRead =>
      cases interpreted
      obtain ⟨isRun, isShort, value⟩ := Incoming.readDate_ofString_eq_ok_iff.mp dateRead
      exact ⟨⟨isRun, isShort⟩, ⟨rfl, rfl, rfl, value, (nonceRead nonce).mp rfl,
        Incoming.readBox_ofString_eq_ok_iff.mp boxRead, rfl, rfl⟩⟩
    · cases interpreted
  · rintro ⟨⟨isRun, isShort⟩, yields⟩
    have dateRead := Incoming.readDate_ofString_eq_ok_iff.mpr ⟨isRun, isShort, yields.date⟩
    have boxRead := Incoming.readBox_ofString_eq_ok_iff.mpr yields.box
    rw [dateRead, (nonceRead _).mpr yields.nonce, boxRead, assemble, ← yields.sender,
      ← yields.recipient, ← yields.messageId, ← yields.mac, ← yields.nickname]

/-- A form that presents texts is either interpreted as a message or refused with one fault. -/
theorem interpret_cases {form : Form} {texts : SignedTexts} (presents : form.Presents texts) :
    (∃ message, interpret form = .ok message) ∨
      interpret form = .error (.malformed .malformedIncoming) := by
  obtain ⟨reading, looked, -⟩ := Incoming.readNonce_ofString texts.nonce
  rw [interpret_eq presents looked]
  unfold assemble
  split
  · exact Or.inl ⟨_, rfl⟩
  · exact Or.inr rfl

end Intake

namespace SignedTexts

/-- Texts are readable exactly when their date is and some message says what they say. -/
theorem isReadable_iff {texts : SignedTexts} {nickname : Option WideText} :
    texts.IsReadable ↔
      (Numeral.IsRun texts.date.toList ∧
        (Numeral.significant texts.date.toList).length ≤ 4300) ∧
        ∃ message, texts.Yields nickname message := by
  constructor
  · intro readable
    obtain ⟨nonceBytes, nonceRead⟩ := Hex.exists_decode?_iff.mpr
      ⟨by rw [readable.nonce_length], readable.nonce⟩
    obtain ⟨box, boxRead⟩ := Hex.exists_decode?_iff.mpr ⟨readable.box_even, readable.box⟩
    have nonceLength := Hex.length_of_decode? nonceRead
    have nonceExact : nonceBytes.length = 24 := by
      rw [readable.nonce_length] at nonceLength
      omega
    exact ⟨⟨readable.date, readable.date_short⟩,
      ⟨texts.sender, texts.recipient, texts.messageId, _, ⟨nonceBytes, nonceExact⟩, box,
        texts.mac, nickname⟩,
      ⟨rfl, rfl, rfl, rfl, Hex.decode?_eq_some_iff.mp nonceRead,
        Hex.decode?_eq_some_iff.mp boxRead, rfl, rfl⟩⟩
  · rintro ⟨⟨isRun, isShort⟩, message, yields⟩
    have nonceRead := Hex.decode?_eq_some_iff.mpr yields.nonce
    have boxRead := Hex.decode?_eq_some_iff.mpr yields.box
    have nonceLength := Hex.length_of_decode? nonceRead
    rw [message.nonce.length_toList] at nonceLength
    exact ⟨isRun, isShort, (Hex.exists_decode?_iff.mp ⟨_, nonceRead⟩).2, nonceLength,
      (Hex.exists_decode?_iff.mp ⟨_, boxRead⟩).2, (Hex.exists_decode?_iff.mp ⟨_, boxRead⟩).1⟩

end SignedTexts
end SealedGateway
