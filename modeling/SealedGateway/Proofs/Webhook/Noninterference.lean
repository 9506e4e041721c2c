import SealedGateway.Proofs.Webhook.SignedBody

/-!
# What cannot influence a webhook

What comes of a body hangs on eight of its fields: the six authenticated ones, the code and the
nickname.  The order of the fields, the way in which they are escaped and every further field are
without influence, and the nickname reaches nothing but the nickname of the message.
-/

namespace SealedGateway

/-- Whether two forms agree on the authenticated fields and on the code. -/
def Form.Agrees (form other : Form) : Prop :=
  ∀ name ∈ Mac.fieldNames ++ ["mac"], form.find? name = other.find? name

/-- The same message under another nickname. -/
def Incoming.withNickname (message : Incoming) (nickname : Option WideText) : Incoming :=
  { message with nickname }

namespace Form.Agrees

variable {form other : Form} (agrees : form.Agrees other)

include agrees

theorem find?_mac : form.find? "mac" = other.find? "mac" :=
  agrees "mac" (by decide)

theorem find?_fieldNames (name : String) (isMember : name ∈ Mac.fieldNames) :
    form.find? name = other.find? name :=
  agrees name (List.mem_append_left _ isMember)

theorem presents {texts : SignedTexts} (presents : form.Presents texts) :
    other.Presents texts where
  sender := (agrees "from" (by decide)).symm.trans presents.sender
  recipient := (agrees "to" (by decide)).symm.trans presents.recipient
  messageId := (agrees "messageId" (by decide)).symm.trans presents.messageId
  date := (agrees "date" (by decide)).symm.trans presents.date
  nonce := (agrees "nonce" (by decide)).symm.trans presents.nonce
  box := (agrees "box" (by decide)).symm.trans presents.box
  mac := (agrees "mac" (by decide)).symm.trans presents.mac

theorem missingFields_eq : Intake.missingFields form = Intake.missingFields other := by
  apply List.filter_congr
  intro name isMember
  rw [agrees.find?_fieldNames name isMember]

end Form.Agrees

namespace Intake

theorem assemble_nickname (texts : SignedTexts) (nickname other : Option WideText)
    (date : Except FieldFault Nat) (nonce : Except FieldFault (Octets 24))
    (box : Except FieldFault Bytes) :
    assemble texts other date nonce box =
      (assemble texts nickname date nonce box).map fun message => message.withNickname other := by
  cases date <;> cases nonce <;> cases box <;> rfl

/-- Forms that agree and present texts are interpreted as messages that differ in their nickname
only. -/
theorem interpret_of_agrees {form other : Form} (agrees : form.Agrees other)
    {texts : SignedTexts} (presents : form.Presents texts) :
    interpret other =
      (interpret form).map fun message => message.withNickname (other.find? "nickname") := by
  obtain ⟨reading, looked, -⟩ := Incoming.readNonce_ofString texts.nonce
  rw [interpret_eq presents looked, interpret_eq (agrees.presents presents) looked]
  exact assemble_nickname texts _ _ _ _ _

/-- Forms that agree and have the same nickname are interpreted alike. -/
theorem interpret_of_agrees_of_nickname {form other : Form} (agrees : form.Agrees other)
    (sameNickname : form.find? "nickname" = other.find? "nickname") {texts : SignedTexts}
    (presents : form.Presents texts) : interpret other = interpret form := by
  obtain ⟨reading, looked, -⟩ := Incoming.readNonce_ofString texts.nonce
  rw [interpret_eq presents looked, interpret_eq (agrees.presents presents) looked, sameNickname]

/-- Whatever leaves the identifier of a message alone carries over from the interpretation of a form
to its acceptance, with the same records. -/
theorem acceptForm_of_agrees {form other : Form} (agrees : form.Agrees other)
    (change : Incoming → Incoming)
    (keepsId : ∀ message, (change message).messageId = message.messageId)
    (interpreted : ∀ texts, form.Presents texts → interpret other = (interpret form).map change)
    (secret : String) (context : Context) :
    (acceptForm other secret).perform context =
      (((acceptForm form secret).perform context).1.map change,
        ((acceptForm form secret).perform context).2) := by
  simp only [acceptForm, Work.perform_bind, ← agrees.find?_mac, ← agrees.missingFields_eq,
    ← Mac.compute_congr agrees.find?_fieldNames secret]
  cases received : (form.find? "mac").bind Mac.read? with
  | none => rfl
  | some code =>
    rw [Work.perform_orFail_some]
    cases missing : missingFields form with
    | cons name names => rfl
    | nil =>
      simp only [Work.perform_bind, Work.perform_ofExcept]
      cases made : Mac.input form with
      | error failure =>
        rw [Mac.compute, made]
        rfl
      | ok bytes =>
        obtain ⟨texts, presents, -⟩ := exists_presents received made
        rw [Mac.compute_eq presents]
        by_cases isRight : code = texts.code secret
        · simp only [if_pos isRight, Work.perform_bind, Work.perform_ofExcept,
            interpreted texts presents]
          cases interpret form with
          | error failure => rfl
          | ok message =>
            simp only [Except.map, Work.perform_record, keepsId]
            rfl
        · simp only [if_neg isRight]
          rfl

section Bodies

variable {body other : Value} {form otherForm : Form} (read : Form.ofBody body = .ok form)
  (readOther : Form.ofBody other = .ok otherForm) (agrees : form.Agrees otherForm)

include read readOther agrees

theorem perform_accept_of_agrees (sameNickname : form.find? "nickname" = otherForm.find? "nickname")
    (secret : String) (context : Context) :
    (accept other secret).perform context = (accept body secret).perform context := by
  have interpreted (texts : SignedTexts) (presents : form.Presents texts) :
      interpret otherForm = (interpret form).map id := by
    rw [interpret_of_agrees_of_nickname agrees sameNickname presents, Except.map_id]
    rfl
  have same := acceptForm_of_agrees agrees id (fun _ => rfl) interpreted secret context
  rw [perform_accept read, perform_accept readOther, same, Except.map_id]
  rfl

theorem outcome_of_agrees (secret : String) (context : Context) :
    outcome other secret context =
      (outcome body secret context).map fun message =>
        message.withNickname (otherForm.find? "nickname") := by
  have renamed := acceptForm_of_agrees agrees
    (fun message => message.withNickname (otherForm.find? "nickname")) (fun _ => rfl)
    (fun _ presents => interpret_of_agrees agrees presents) secret context
  rw [outcome, outcome, perform_accept read, perform_accept readOther, renamed]

end Bodies

/-- Two bodies that are forms and agree on the authenticated fields and on the code come to the same
end with the same records if they also agree on the nickname; whether they do or not, they come to
the same failure or to messages that differ in their nickname only. -/
theorem accept_eq_of_agrees {body other : Value} {form otherForm : Form}
    (read : Form.ofBody body = .ok form) (readOther : Form.ofBody other = .ok otherForm)
    (agrees : form.Agrees otherForm) (secret : String) :
    (form.find? "nickname" = otherForm.find? "nickname" → ∀ context,
      (accept other secret).perform context = (accept body secret).perform context) ∧
    ∀ context, outcome other secret context =
      (outcome body secret context).map fun message =>
        message.withNickname (otherForm.find? "nickname") :=
  ⟨fun sameNickname => perform_accept_of_agrees read readOther agrees sameNickname secret,
    outcome_of_agrees read readOther agrees secret⟩

/-- A form with its fields in the customary order. -/
def orderlyForm : Form :=
  Form.ofTexts [("from", "ECHOECHO"), ("to", "*TESTTST"), ("messageId", "0102030405060708"),
    ("date", "1700000000"), ("nonce", "abababababababababababababababababababababababab"),
    ("box", "0123456789abcdef"),
    ("mac", "a9da5500d74ffb06cf31d77a29f5e779874d47f2f0fc0edc5320c9a05d03257a")]

/-- The same fields in another order behind a second sender, which ends with a lone surrogate. -/
def disorderlyForm : Form :=
  ("sender", WideText.ofString "intruso" ++ (Symbol.ofCode? 0xD800).toList) :: orderlyForm.reverse

/-- The customary body of the orderly form. -/
def orderlyBody : Value := .text orderlyForm.encoded

/-- A body of the disorderly form that begins with empty segments. -/
def disorderlyBody : Value := .text (.char '&' :: .char '&' :: disorderlyForm.encoded)

/-- The two bodies come to the same end. -/
theorem perform_accept_disorderlyBody :
    Form.ofBody orderlyBody = .ok orderlyForm ∧
      Form.ofBody disorderlyBody = .ok disorderlyForm ∧ orderlyForm.Agrees disorderlyForm ∧
      (accept disorderlyBody "nevergonnagiveyouup").perform (Context.initial []) =
        (accept orderlyBody "nevergonnagiveyouup").perform (Context.initial []) := by
  have read : Form.ofBody orderlyBody = .ok orderlyForm :=
    Form.ofBody_of_parse (.text _) (orderlyForm.writes_encoded.parse (by decide) (by decide))
  have writes : disorderlyForm.Writes (.char '&' :: .char '&' :: disorderlyForm.encoded) :=
    .separator (.separator disorderlyForm.writes_encoded)
  have readOther : Form.ofBody disorderlyBody = .ok disorderlyForm :=
    Form.ofBody_of_parse (.text _) (writes.parse (by decide) (by decide))
  have agrees : orderlyForm.Agrees disorderlyForm := by
    unfold Form.Agrees
    decide
  exact ⟨read, readOther, agrees, (accept_eq_of_agrees read readOther agrees _).1 rfl _⟩

end Intake
end SealedGateway
