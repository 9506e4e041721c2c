import SealedGateway.Proofs.Webhook.Acceptance
import SealedGateway.Proofs.Webhook.WrittenForm

/-!
# Signed bodies are accepted

A delivered envelope that is signed under the secret of the receiver and has a date that can be read
is accepted in every written form, and the message that comes of it says what was delivered.
-/

namespace SealedGateway

namespace Mac

/-- The digest of a form hangs on its authenticated fields only. -/
theorem compute_congr {form other : Form}
    (agree : ∀ name ∈ fieldNames, form.find? name = other.find? name) (secret : String) :
    compute form secret = compute other secret := by
  have inputs (names : List String) (isKnown : names ⊆ fieldNames) :
      inputOf form names = inputOf other names := by
    induction names with
    | nil => rfl
    | cons name rest ih =>
      rw [inputOf, inputOf, agree name (isKnown List.mem_cons_self),
        ih fun _ isMember => isKnown (List.mem_cons_of_mem _ isMember)]
  rw [compute, compute, input, input, inputs fieldNames (List.Subset.refl _)]

end Mac

namespace Delivery

/-- The texts of a delivered envelope with a code. -/
def texts (delivery : Delivery) (envelope : Envelope) (code : Octets 32) : SignedTexts :=
  { delivery with
    nonce := Hex.text envelope.nonce.toList
    box := Hex.text envelope.box
    mac := Hex.text code.toList }

/-- The message that a delivered envelope becomes. -/
def incoming (delivery : Delivery) (envelope : Envelope) (code : Octets 32) : Incoming :=
  ⟨delivery.sender, delivery.recipient, delivery.messageId,
    Numeral.ofDigits delivery.date.toList, envelope.nonce, envelope.box, Hex.text code.toList, none⟩

theorem presents_texts (delivery : Delivery) (envelope : Envelope) (code : Octets 32) :
    (delivery.form envelope ++ Form.ofTexts [("mac", Hex.text code.toList)]).Presents
      (delivery.texts envelope code) := by
  constructor <;> rfl

theorem names_signed (delivery : Delivery) (envelope : Envelope) (mac : String) :
    (delivery.form envelope ++ Form.ofTexts [("mac", mac)]).map Prod.fst =
      (Mac.fieldNames ++ ["mac"]).map WideText.ofString := rfl

theorem compute_signed (delivery : Delivery) (envelope : Envelope) (secret mac : String) :
    Mac.compute (delivery.form envelope ++ Form.ofTexts [("mac", mac)]) secret =
      Mac.compute (delivery.form envelope) secret := by
  apply Mac.compute_congr
  simp only [Mac.fieldNames, List.forall_mem_cons]
  exact ⟨rfl, rfl, rfl, rfl, rfl, rfl, List.forall_mem_nil _⟩

/-- The code of a signed form is the one that the secret gives to the texts of the form. -/
theorem exists_code_of_signedForm {delivery : Delivery} {envelope : Envelope} {secret : String}
    {form : Form} (signed : delivery.signedForm envelope secret = .ok form) :
    ∃ code, form = delivery.form envelope ++ Form.ofTexts [("mac", Hex.text code.toList)] ∧
      (delivery.texts envelope code).code secret = code := by
  rw [signedForm, macText] at signed
  cases computed : Mac.compute (delivery.form envelope) secret with
  | error failure =>
    rw [computed] at signed
    cases signed
  | ok code =>
    rw [computed] at signed
    refine ⟨code, (Except.ok.inj signed).symm, ?_⟩
    have same := compute_signed delivery envelope secret (Hex.text code.toList)
    rw [Mac.compute_eq (presents_texts delivery envelope code), computed] at same
    exact Except.ok.inj same

/-- A signed form holds no lone surrogate. -/
theorem isPlain_of_signedForm {delivery : Delivery} {envelope : Envelope} {secret : String}
    {form : Form} (signed : delivery.signedForm envelope secret = .ok form) : form.IsPlain := by
  obtain ⟨code, rfl, -⟩ := exists_code_of_signedForm signed
  exact List.forall_mem_append.mpr ⟨Form.isPlain_ofTexts _, Form.isPlain_ofTexts _⟩

theorem yields_incoming (delivery : Delivery) (envelope : Envelope) (code : Octets 32) :
    (delivery.texts envelope code).Yields none (delivery.incoming envelope code) where
  sender := rfl
  recipient := rfl
  messageId := rfl
  date := rfl
  nonce := by
    rw [texts, Hex.toList_text, Hex.map_lowerAscii_encode]
    rfl
  box := by
    rw [texts, Hex.toList_text, Hex.map_lowerAscii_encode]
    rfl
  mac := rfl
  nickname := rfl

/-- A signed form in any of its written forms is read as that form. -/
theorem ofBody_of_signedForm {delivery : Delivery} {envelope : Envelope} {secret : String}
    {form : Form} (signed : delivery.signedForm envelope secret = .ok form)
    {text : WideText} (writes : form.Writes text) {body : Value}
    (carries : Form.IsBody body text) : Form.ofBody body = .ok form := by
  obtain ⟨code, rfl, -⟩ := exists_code_of_signedForm signed
  apply Form.ofBody_of_parse carries
  apply writes.parse
  · rw [← List.length_map Prod.fst, names_signed]
    decide
  · rw [names_signed]
    decide

/-- A signed form in any of its written forms is accepted as the message that it delivers. -/
theorem outcome_of_signedForm {delivery : Delivery} {envelope : Envelope} {secret : String}
    {form : Form} (signed : delivery.signedForm envelope secret = .ok form)
    {text : WideText} (writes : form.Writes text) {body : Value}
    (carries : Form.IsBody body text) (isRun : Numeral.IsRun delivery.date.toList)
    (isShort : (Numeral.significant delivery.date.toList).length ≤ 4300) (context : Context) :
    ∃ code, form = delivery.form envelope ++ Form.ofTexts [("mac", Hex.text code.toList)] ∧
      Intake.outcome body secret context = .ok (delivery.incoming envelope code) := by
  have read := ofBody_of_signedForm signed writes carries
  obtain ⟨code, rfl, isCode⟩ := exists_code_of_signedForm signed
  have presents := presents_texts delivery envelope code
  have isAuthentic : (delivery.texts envelope code).IsAuthentic secret := by
    rw [SignedTexts.IsAuthentic, isCode, texts, Hex.toList_text, Hex.map_lowerAscii_encode]
  have hasCode : (delivery.texts envelope code).HasCode :=
    Mac.exists_read?_iff.mp ⟨_, Mac.read?_ofString_eq_some_iff.mpr isAuthentic⟩
  have interpreted := (Intake.interpret_eq_ok_iff presents).mpr
    ⟨⟨isRun, isShort⟩, yields_incoming delivery envelope code⟩
  refine ⟨code, rfl, ?_⟩
  rw [Intake.outcome_of_ofBody_ok read,
    (Intake.acceptForm_of_presents presents hasCode secret context).1 isAuthentic, interpreted]

/-- The customary body of a delivered envelope that is signed under a secret. -/
def customaryBody (delivery : Delivery) (envelope : Envelope) (secret : String) : Value :=
  match delivery.signedForm envelope secret with
  | .ok form => .text form.encoded
  | .error _ => .null

theorem exists_signedForm (delivery : Delivery) (envelope : Envelope) (secret : String) :
    ∃ form, delivery.signedForm envelope secret = .ok form := by
  have presents := presents_texts delivery envelope (Octets.zero 32)
  rw [signedForm, macText, ← compute_signed delivery envelope secret
    (Hex.text (Octets.zero 32).toList), Mac.compute_eq presents]
  exact ⟨_, rfl⟩

/-- The customary body is read as the signed form and accepted as the message that it delivers. -/
theorem outcome_customaryBody (delivery : Delivery) (envelope : Envelope) (secret : String)
    (isRun : Numeral.IsRun delivery.date.toList)
    (isShort : (Numeral.significant delivery.date.toList).length ≤ 4300) (context : Context) :
    ∃ code,
      Form.ofBody (delivery.customaryBody envelope secret) =
          .ok (delivery.form envelope ++ Form.ofTexts [("mac", Hex.text code.toList)]) ∧
        Intake.outcome (delivery.customaryBody envelope secret) secret context =
          .ok (delivery.incoming envelope code) := by
  obtain ⟨form, signed⟩ := exists_signedForm delivery envelope secret
  have carries : Form.IsBody (delivery.customaryBody envelope secret) form.encoded := by
    rw [customaryBody, signed]
    exact .text form.encoded
  have read := ofBody_of_signedForm signed form.writes_encoded carries
  obtain ⟨code, rfl, accepted⟩ :=
    outcome_of_signedForm signed form.writes_encoded carries isRun isShort context
  exact ⟨code, read, accepted⟩

end Delivery
end SealedGateway
