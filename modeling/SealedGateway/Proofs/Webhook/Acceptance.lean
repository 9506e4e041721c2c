import SealedGateway.Proofs.Webhook.PlainForm
import SealedGateway.Proofs.Webhook.SignedTexts

/-!
# The stages of intake

What comes of a webhook is decided in four stages: the form is read, the code and the authenticated
fields must be there, the code must be the right one, and the fields must be readable.  Each
statement here says what a webhook comes to that gets as far as one of the stages.
-/

namespace SealedGateway
namespace Intake

/-- The requests that can come in: text without lone surrogates, or any bytes. -/
inductive IsRequest : Value → Prop
  | text (chars : List Char) : IsRequest (.text (WideText.ofChars chars))
  | octets (bytes : Bytes) : IsRequest (.octets bytes)
  | buffer (bytes : Bytes) : IsRequest (.buffer bytes)

/-- What comes of a body under a secret. -/
def outcome (body : Value) (secret : String) (context : Context) : Except Failure Incoming :=
  ((accept body secret).perform context).1

theorem outcome_of_ofBody_error {body : Value} {failure : Failure}
    (refused : Form.ofBody body = .error failure) (secret : String) (context : Context) :
    outcome body secret context = .error failure := by
  rw [outcome, accept, Work.perform_bind, Work.perform_ofExcept, refused]

theorem perform_accept {body : Value} {form : Form} (read : Form.ofBody body = .ok form)
    (secret : String) (context : Context) :
    (accept body secret).perform context = (acceptForm form secret).perform context := by
  rw [accept, Work.perform_bind, Work.perform_ofExcept, read]

theorem outcome_of_ofBody_ok {body : Value} {form : Form} (read : Form.ofBody body = .ok form)
    (secret : String) (context : Context) :
    outcome body secret context = ((acceptForm form secret).perform context).1 := by
  rw [outcome, perform_accept read]

/-- The form in a request holds no lone surrogate. -/
theorem IsRequest.isPlain {body : Value} (isRequest : IsRequest body) {form : Form}
    (read : Form.ofBody body = .ok form) : form.IsPlain := by
  have ofChars {chars : List Char}
      (parsed : (Form.parse (WideText.ofChars chars)).mapError Failure.malformed = .ok form) :
      form.IsPlain :=
    Form.isPlain_of_parse (Outcome.mapError_eq_ok_iff.mp parsed) (WideText.isPlain_ofChars chars)
  cases isRequest with
  | text chars => exact ofChars ((Form.ofBody_eq_of_isBody (.text _)).symm.trans read)
  | octets bytes | buffer bytes =>
    cases decoded : Utf8.decodeChars? bytes with
    | none => simp [Form.ofBody, Value.byteString?, decoded] at read
    | some chars =>
      obtain rfl := Utf8.decodeChars?_eq_some_iff.mp decoded
      -- Bytes and buffers are read alike.
      exact ofChars ((Form.ofBody_eq_of_isBody (.octets chars)).symm.trans read)

/-- No name is missing exactly when every authenticated field is there. -/
theorem missingFields_eq_nil_iff {form : Form} :
    missingFields form = [] ↔ ∀ name ∈ Mac.fieldNames, ∃ value, form.find? name = some value := by
  rw [missingFields, List.filter_eq_nil_iff]
  simp only [Option.isNone_iff_eq_none]
  exact forall₂_congr fun _ _ => Option.ne_none_iff_exists'

theorem missingFields_of_presents {form : Form} {texts : SignedTexts}
    (presents : form.Presents texts) : missingFields form = [] := by
  rw [missingFields_eq_nil_iff]
  simp [Mac.fieldNames, presents.sender, presents.recipient, presents.messageId, presents.date,
    presents.nonce, presents.box]

/-- A form with a code of the right form and authenticated bytes presents texts. -/
theorem exists_presents {form : Form} {code : Octets 32}
    (received : (form.find? "mac").bind Mac.read? = some code) {bytes : Bytes}
    (made : Mac.input form = .ok bytes) : ∃ texts, form.Presents texts ∧ texts.HasCode := by
  obtain ⟨mac, macIs, macRead⟩ := Option.bind_eq_some_iff.mp received
  obtain ⟨macText, rfl⟩ := Mac.exists_string_of_read? macRead
  rcases Mac.inputOf_cases form Mac.fieldNames with ⟨_, -, areTexts⟩ | ⟨_, -, -, refused⟩ |
    ⟨_, -, _, -, -, refused⟩
  · obtain ⟨sender, senderIs⟩ := areTexts "from" (by decide)
    obtain ⟨recipient, recipientIs⟩ := areTexts "to" (by decide)
    obtain ⟨messageId, messageIdIs⟩ := areTexts "messageId" (by decide)
    obtain ⟨date, dateIs⟩ := areTexts "date" (by decide)
    obtain ⟨nonce, nonceIs⟩ := areTexts "nonce" (by decide)
    obtain ⟨box, boxIs⟩ := areTexts "box" (by decide)
    exact ⟨⟨⟨sender, recipient, messageId, date⟩, nonce, box, macText⟩,
      ⟨senderIs, recipientIs, messageIdIs, dateIs, nonceIs, boxIs, macIs⟩,
      Mac.exists_read?_iff.mp ⟨code, macRead⟩⟩
  · cases made.symm.trans refused
  · cases made.symm.trans refused

/-- A form without a code of the right form is refused for that, and otherwise one without some of
the authenticated fields for the lack of these; one with lone surrogates in them has no
authenticated bytes. -/
theorem acceptForm_of_lacking {form : Form}
    (isIncomplete : ¬ ∃ texts, form.Presents texts ∧ texts.HasCode) (secret : String)
    (context : Context) :
    ((acceptForm form secret).perform context).1 = .error (.malformed .macMissing) ∨
      ((acceptForm form secret).perform context).1 =
        .error (.malformed (.fieldsMissing (missingFields form))) ∨
      ¬ form.IsPlain ∧ ((acceptForm form secret).perform context).1 = .error .unencodable := by
  rw [acceptForm, Work.perform_bind]
  cases received : (form.find? "mac").bind Mac.read? with
  | none => exact .inl rfl
  | some code =>
    rw [Work.perform_orFail_some]
    cases missing : missingFields form with
    | cons name names => exact .inr (.inl rfl)
    | nil =>
      rcases Mac.inputOf_cases form Mac.fieldNames with ⟨bytes, made, -⟩ |
        ⟨name, isMember, isMissing, -⟩ | ⟨name, -, value, found, isMarred, refused⟩
      · exact absurd (exists_presents received made) isIncomplete
      · obtain ⟨value, found⟩ := missingFields_eq_nil_iff.mp missing name isMember
        cases isMissing.symm.trans found
      · refine .inr (.inr ⟨fun isPlain => isMarred (isPlain.find? found), ?_⟩)
        simp only [Work.perform_bind, Work.perform_ofExcept, Mac.compute, Mac.input, refused]
        rfl

/-- A form with a code of the right form is interpreted if the code is the right one, and refused
for its code otherwise, whatever else it holds. -/
theorem acceptForm_of_presents {form : Form} {texts : SignedTexts}
    (presents : form.Presents texts) (hasCode : texts.HasCode) (secret : String)
    (context : Context) :
    (texts.IsAuthentic secret →
      ((acceptForm form secret).perform context).1 = interpret form) ∧
    (¬ texts.IsAuthentic secret →
      ((acceptForm form secret).perform context).1 = .error .invalidMac) := by
  obtain ⟨received, macRead⟩ := Mac.exists_read?_iff.mpr hasCode
  have isAuthentic_iff : received = texts.code secret ↔ texts.IsAuthentic secret := by
    rw [SignedTexts.IsAuthentic, ← Mac.read?_ofString_eq_some_iff, macRead, Option.some.injEq]
  rw [← isAuthentic_iff, acceptForm, Work.perform_bind, presents.mac, Option.bind_some, macRead,
    Work.perform_orFail_some]
  simp only [missingFields_of_presents presents, Work.perform_bind, Mac.compute_eq presents,
    Work.perform_ofExcept]
  constructor
  · intro isRight
    rw [if_pos isRight, Work.perform_bind, Work.perform_ofExcept]
    cases interpret form <;> rfl
  · intro isWrong
    rw [if_neg isWrong]
    rfl

/-- A form presents at most one seven of texts. -/
theorem presents_unique {form : Form} {texts other : SignedTexts}
    (presents : form.Presents texts) (presentsOther : form.Presents other) : texts = other := by
  obtain ⟨⟨sender, recipient, messageId, date⟩, nonce, box, mac⟩ := texts
  obtain ⟨⟨_, _, _, _⟩, _, _, _⟩ := other
  have same {name text otherText : String} (found : form.find? name = some (WideText.ofString text))
      (foundOther : form.find? name = some (WideText.ofString otherText)) : text = otherText :=
    WideText.ofString_injective (Option.some.inj (found.symm.trans foundOther))
  cases same presents.sender presentsOther.sender
  cases same presents.recipient presentsOther.recipient
  cases same presents.messageId presentsOther.messageId
  cases same presents.date presentsOther.date
  cases same presents.nonce presentsOther.nonce
  cases same presents.box presentsOther.box
  cases same presents.mac presentsOther.mac
  rfl

/-- What has been accepted has passed all four stages. -/
theorem exists_texts_of_outcome_ok {body : Value} {secret : String} {context : Context}
    {message : Incoming} (accepted : outcome body secret context = .ok message) :
    ∃ form texts, Form.ofBody body = .ok form ∧ form.Presents texts ∧ texts.HasCode ∧
      texts.IsAuthentic secret ∧ interpret form = .ok message := by
  cases read : Form.ofBody body with
  | error failure =>
    rw [outcome_of_ofBody_error read] at accepted
    cases accepted
  | ok form =>
    rw [outcome_of_ofBody_ok read] at accepted
    by_cases isComplete : ∃ texts, form.Presents texts ∧ texts.HasCode
    · obtain ⟨texts, presents, hasCode⟩ := isComplete
      obtain ⟨whenRight, whenWrong⟩ := acceptForm_of_presents presents hasCode secret context
      by_cases isAuthentic : texts.IsAuthentic secret
      · rw [whenRight isAuthentic] at accepted
        exact ⟨form, texts, rfl, presents, hasCode, isAuthentic, accepted⟩
      · rw [whenWrong isAuthentic] at accepted
        cases accepted
    · rcases acceptForm_of_lacking isComplete secret context with
        refused | refused | ⟨-, refused⟩ <;>
        cases refused.symm.trans accepted

/-- An accepted message says what the texts of its form say. -/
theorem yields_of_outcome_ok {body : Value} {secret : String} {context : Context}
    {message : Incoming} (accepted : outcome body secret context = .ok message) {form : Form}
    (read : Form.ofBody body = .ok form) {texts : SignedTexts}
    (presents : form.Presents texts) :
    texts.IsReadable ∧ texts.Yields (form.find? "nickname") message := by
  obtain ⟨other, otherTexts, otherRead, otherPresents, -, -, interpreted⟩ :=
    exists_texts_of_outcome_ok accepted
  cases read.symm.trans otherRead
  cases presents_unique presents otherPresents
  obtain ⟨dateIs, yields⟩ := (interpret_eq_ok_iff presents).mp interpreted
  exact ⟨SignedTexts.isReadable_iff.mpr ⟨dateIs, message, yields⟩, yields⟩

end Intake
end SealedGateway
