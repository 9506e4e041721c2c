import SealedGateway.Proofs.Webhook.SignedBody

/-!
# Where one authenticated text ends and the next begins

The authenticated texts follow each other with nothing in between, so that a code authenticates all
of them together and not the places at which they are cut.  Two accepted bodies with the same
authenticated bytes carry the same code; they say the same exactly when the sender, the recipient,
the identifier and the date are as long in one as in the other.  The nonce needs no mention, since
every nonce that can be read has the same length.
-/

namespace SealedGateway

/-- The names of the authenticated fields in front of the nonce. -/
def Mac.leadingNames : List String := ["from", "to", "messageId", "date"]

/-- Whether the authenticated fields of two forms are cut at the same places. -/
def Form.SameBoundaries (form other : Form) : Prop :=
  ∀ name ∈ Mac.leadingNames,
    (form.find? name).map List.length = (other.find? name).map List.length

/-- Whether two messages agree in everything that is authenticated. -/
structure Incoming.Agrees (message other : Incoming) : Prop where
  sender : message.sender = other.sender
  recipient : message.recipient = other.recipient
  messageId : message.messageId = other.messageId
  date : message.date = other.date
  nonce : message.nonce = other.nonce
  box : message.box = other.box

namespace SignedTexts

theorem toList_authenticated (texts : SignedTexts) :
    texts.authenticated.toList =
      texts.sender.toList ++ (texts.recipient.toList ++ (texts.messageId.toList ++
        (texts.date.toList ++ (texts.nonce.toList ++ texts.box.toList)))) := by
  simp only [authenticated, String.toList_append, List.append_assoc]

/-- Whether the texts in front of the nonce have the same lengths. -/
structure SameLengths (texts other : SignedTexts) : Prop where
  sender : texts.sender.length = other.sender.length
  recipient : texts.recipient.length = other.recipient.length
  messageId : texts.messageId.length = other.messageId.length
  date : texts.date.length = other.date.length

section Pair

variable {texts other : SignedTexts} (sameText : texts.authenticated = other.authenticated)
  {nickname otherNickname : Option WideText} {message otherMessage : Incoming}
  (yields : texts.Yields nickname message) (yieldsOther : other.Yields otherNickname otherMessage)

/-- A readable nonce has forty-eight digits. -/
theorem Yields.length_nonce (yields : texts.Yields nickname message) :
    texts.nonce.toList.length = 48 := by
  have lengths := congrArg List.length yields.nonce
  rw [List.length_map, Hex.length_encode, message.nonce.length_toList] at lengths
  exact lengths

theorem Yields.length_box (yields : texts.Yields nickname message) :
    texts.box.toList.length = 2 * message.box.length := by
  have lengths := congrArg List.length yields.box
  rw [List.length_map, Hex.length_encode] at lengths
  exact lengths

include sameText yields yieldsOther

/-- The same characters cut at the same places are the same texts, and these say the same. -/
theorem SameLengths.agrees (sameLengths : texts.SameLengths other) :
    message.Agrees otherMessage := by
  have sameChars := congrArg String.toList sameText
  rw [toList_authenticated, toList_authenticated] at sameChars
  obtain ⟨sender, sameChars⟩ := List.append_inj sameChars sameLengths.sender
  obtain ⟨recipient, sameChars⟩ := List.append_inj sameChars sameLengths.recipient
  obtain ⟨messageId, sameChars⟩ := List.append_inj sameChars sameLengths.messageId
  obtain ⟨date, sameChars⟩ := List.append_inj sameChars sameLengths.date
  obtain ⟨nonce, box⟩ :=
    List.append_inj sameChars (yields.length_nonce.trans yieldsOther.length_nonce.symm)
  refine ⟨?_, ?_, ?_, ?_, ?_, ?_⟩
  · rw [yields.sender, yieldsOther.sender, String.toList_inj.mp sender]
  · rw [yields.recipient, yieldsOther.recipient, String.toList_inj.mp recipient]
  · rw [yields.messageId, yieldsOther.messageId, String.toList_inj.mp messageId]
  · rw [yields.date, yieldsOther.date, date]
  · apply Octets.ext
    apply Hex.encode_injective
    rw [← yields.nonce, ← yieldsOther.nonce, nonce]
  · apply Hex.encode_injective
    rw [← yields.box, ← yieldsOther.box, box]

/-- Texts that say the same are cut at the same places: the boxes are equally long, and the date
takes what the other texts leave. -/
theorem sameLengths_of_agrees (agrees : message.Agrees otherMessage) :
    texts.SameLengths other := by
  have sender : texts.sender = other.sender := by
    apply WideText.ofString_injective
    rw [← yields.sender, ← yieldsOther.sender, agrees.sender]
  have recipient : texts.recipient = other.recipient := by
    apply WideText.ofString_injective
    rw [← yields.recipient, ← yieldsOther.recipient, agrees.recipient]
  have messageId : texts.messageId = other.messageId := by
    apply WideText.ofString_injective
    rw [← yields.messageId, ← yieldsOther.messageId, agrees.messageId]
  have box : texts.box.toList.length = other.box.toList.length := by
    rw [yields.length_box, yieldsOther.length_box, agrees.box]
  have total := congrArg (fun text => text.toList.length) sameText
  simp only [toList_authenticated, List.length_append, sender, recipient, messageId, box,
    yields.length_nonce, yieldsOther.length_nonce] at total
  refine ⟨congrArg String.length sender, congrArg String.length recipient,
    congrArg String.length messageId, ?_⟩
  rw [← String.length_toList, ← String.length_toList]
  omega

end Pair

end SignedTexts

theorem Form.sameBoundaries_iff {form other : Form} {texts otherTexts : SignedTexts}
    (presents : form.Presents texts) (presentsOther : other.Presents otherTexts) :
    form.SameBoundaries other ↔ texts.SameLengths otherTexts := by
  simp only [SameBoundaries, Mac.leadingNames, List.mem_cons, List.not_mem_nil, or_false,
    forall_eq_or_imp, forall_eq, presents.sender, presents.recipient, presents.messageId,
    presents.date, presentsOther.sender, presentsOther.recipient, presentsOther.messageId,
    presentsOther.date, Option.map_some, Option.some.injEq, WideText.length_ofString]
  constructor
  · rintro ⟨sender, recipient, messageId, date⟩
    exact ⟨sender, recipient, messageId, date⟩
  · rintro ⟨sender, recipient, messageId, date⟩
    exact ⟨sender, recipient, messageId, date⟩

namespace Intake

/-- The code of an accepted message is the one that the secret gives to the authenticated text. -/
theorem read?_mac_of_outcome_ok {body : Value} {secret : String} {context : Context}
    {message : Incoming} (accepted : outcome body secret context = .ok message) {form : Form}
    (read : Form.ofBody body = .ok form) {texts : SignedTexts}
    (presents : form.Presents texts) : Mac.read? message.mac = some (texts.code secret) := by
  obtain ⟨otherForm, otherTexts, otherRead, otherPresents, -, isAuthentic, -⟩ :=
    exists_texts_of_outcome_ok accepted
  cases read.symm.trans otherRead
  cases presents_unique presents otherPresents
  rw [(yields_of_outcome_ok accepted read presents).2.mac]
  exact Mac.read?_ofString_eq_some_iff.mpr isAuthentic

/-- Two accepted bodies with the same authenticated bytes carry the same code, and what they say
agrees exactly when their authenticated fields are cut at the same places. -/
theorem agrees_iff_sameBoundaries {body other : Value} {secret : String}
    {context otherContext : Context} {message otherMessage : Incoming}
    (accepted : outcome body secret context = .ok message)
    (acceptedOther : outcome other secret otherContext = .ok otherMessage)
    {form otherForm : Form} (read : Form.ofBody body = .ok form)
    (readOther : Form.ofBody other = .ok otherForm)
    (sameInput : Mac.input form = Mac.input otherForm) :
    Mac.read? message.mac = Mac.read? otherMessage.mac ∧
      (message.Agrees otherMessage ↔ form.SameBoundaries otherForm) := by
  obtain ⟨_, texts, readAgain, presents, -⟩ := exists_texts_of_outcome_ok accepted
  cases read.symm.trans readAgain
  obtain ⟨_, otherTexts, readAgain, presentsOther, -⟩ := exists_texts_of_outcome_ok acceptedOther
  cases readOther.symm.trans readAgain
  have sameText : texts.authenticated = otherTexts.authenticated := by
    rw [Mac.input_eq presents, Mac.input_eq presentsOther] at sameInput
    exact Utf8.encode_injective (Except.ok.inj sameInput)
  have yields := (yields_of_outcome_ok accepted read presents).2
  have yieldsOther := (yields_of_outcome_ok acceptedOther readOther presentsOther).2
  constructor
  · rw [read?_mac_of_outcome_ok accepted read presents,
      read?_mac_of_outcome_ok acceptedOther readOther presentsOther, SignedTexts.code,
      SignedTexts.code, sameText]
  · rw [Form.sameBoundaries_iff presents presentsOther]
    constructor
    · intro agrees
      exact SignedTexts.sameLengths_of_agrees sameText yields yieldsOther agrees
    · intro sameLengths
      exact sameLengths.agrees sameText yields yieldsOther

/-- A delivery. -/
def echoDelivery : Delivery := ⟨"ECHOECHO", "*TESTTST", "0102030405060708", "1700000000"⟩

/-- The same characters with the last one of the sender moved to the recipient. -/
def movedDelivery : Delivery := ⟨"ECHOECH", "O*TESTTST", "0102030405060708", "1700000000"⟩

/-- The customary body of a delivery with an empty box. -/
def emptyBody (delivery : Delivery) : Value :=
  delivery.customaryBody ⟨[], Octets.zero 24⟩ "nevergonnagiveyouup"

/-- Both deliveries are accepted and have the same authenticated bytes. -/
theorem exists_messages_of_moved :
    ∃ form otherForm message otherMessage,
      Form.ofBody (emptyBody echoDelivery) = .ok form ∧
      Form.ofBody (emptyBody movedDelivery) = .ok otherForm ∧
      outcome (emptyBody echoDelivery) "nevergonnagiveyouup" (Context.initial []) = .ok message ∧
      outcome (emptyBody movedDelivery) "nevergonnagiveyouup" (Context.initial []) =
        .ok otherMessage ∧
      Mac.input form = Mac.input otherForm ∧ message.sender = "ECHOECHO" ∧
      otherMessage.sender = "ECHOECH" := by
  obtain ⟨code, read, accepted⟩ := echoDelivery.outcome_customaryBody ⟨[], Octets.zero 24⟩
    "nevergonnagiveyouup" (by decide) (by decide) (Context.initial [])
  obtain ⟨otherCode, readOther, acceptedOther⟩ := movedDelivery.outcome_customaryBody
    ⟨[], Octets.zero 24⟩ "nevergonnagiveyouup" (by decide) (by decide) (Context.initial [])
  refine ⟨_, _, _, _, read, readOther, accepted, acceptedOther, ?_, rfl, rfl⟩
  rw [Mac.input_eq (Delivery.presents_texts echoDelivery _ code),
    Mac.input_eq (Delivery.presents_texts movedDelivery _ otherCode)]
  rfl

theorem agrees_iff_sameBoundaries_of_moved :
    ∃ form otherForm message otherMessage,
      Form.ofBody (emptyBody echoDelivery) = .ok form ∧
      Form.ofBody (emptyBody movedDelivery) = .ok otherForm ∧
      outcome (emptyBody echoDelivery) "nevergonnagiveyouup" (Context.initial []) = .ok message ∧
      outcome (emptyBody movedDelivery) "nevergonnagiveyouup" (Context.initial []) =
        .ok otherMessage ∧
      Mac.input form = Mac.input otherForm ∧
      Mac.read? message.mac = Mac.read? otherMessage.mac ∧
      (message.Agrees otherMessage ↔ form.SameBoundaries otherForm) := by
  obtain ⟨form, otherForm, message, otherMessage, read, readOther, accepted, acceptedOther,
    sameInput, -⟩ := exists_messages_of_moved
  exact ⟨form, otherForm, message, otherMessage, read, readOther, accepted, acceptedOther,
    sameInput, agrees_iff_sameBoundaries accepted acceptedOther read readOther sameInput⟩

/-- The authenticated bytes do not determine the message: the two deliveries have the same bytes and
different senders. -/
theorem not_agrees_of_moved :
    ¬ ∀ form otherForm message otherMessage,
      Form.ofBody (emptyBody echoDelivery) = .ok form →
      Form.ofBody (emptyBody movedDelivery) = .ok otherForm →
      outcome (emptyBody echoDelivery) "nevergonnagiveyouup" (Context.initial []) = .ok message →
      outcome (emptyBody movedDelivery) "nevergonnagiveyouup" (Context.initial []) =
        .ok otherMessage →
      Mac.input form = Mac.input otherForm → message.Agrees otherMessage := by
  obtain ⟨form, otherForm, message, otherMessage, read, readOther, accepted, acceptedOther,
    sameInput, sender, otherSender⟩ := exists_messages_of_moved
  intro determines
  have agrees := determines _ _ _ _ read readOther accepted acceptedOther sameInput
  rw [agrees.sender, otherSender] at sender
  exact absurd sender (by decide)

end Intake
end SealedGateway
