import SealedGateway.Gateway.Basic
import SealedGateway.Proofs.Message.Boxes
import SealedGateway.Proofs.Webhook.Opened
import SealedGateway.Proofs.Webhook.SignedBody

/-!
# Delivery from one gateway to another

What a gateway sends to the public key of another, and what is then delivered under the secret of
that other gateway, arrives: the body is accepted in every written form, the message says who sent
it to whom and when, and opening it gives the kind and the payload.
-/

namespace SealedGateway
namespace Gateway

/-- Whether two gateways share one key, whichever of the two private keys is used. -/
def KeysAgree (sender receiver : Gateway) : Prop :=
  PublicBox.sharedKey? sender.privateKey.octets receiver.publicKey.octets =
    PublicBox.sharedKey? receiver.privateKey.octets sender.publicKey.octets

/-- Whether an envelope that is delivered to a gateway in any signed body is accepted as a message
that says what the delivery says and opens to a kind and a payload. -/
def Receives (receiver : Gateway) (delivery : Delivery) (envelope : Envelope)
    (senderKey : RecipientKey) (kind : UInt8) (payload : Bytes) : Prop :=
  ∃ form, delivery.signedForm envelope receiver.secret = .ok form ∧
    ∀ chars body, form.Writes chars → Form.IsBody body chars → ∀ context,
      ∃ message after, (receiver.accept body).perform context = (.ok message, after) ∧
        message.sender = delivery.sender ∧ message.recipient = delivery.recipient ∧
        message.messageId = delivery.messageId ∧
        message.date = Numeral.ofDigits delivery.date.toList ∧
        ∀ later, ((receiver.openIncoming message (.recipientKey senderKey)).perform later).1 =
          .ok (kind, payload)

/-- The key of a message to another gateway is the key under which that gateway opens it. -/
theorem prepare_of_keysAgree {sender receiver : Gateway} (keysAgree : sender.KeysAgree receiver)
    {refusal : Failure} {key : Octets 32}
    (prepared : PublicBox.prepare refusal (.recipientKey receiver.publicKey) sender.ownKey =
      .ok key) (other : Failure) :
    PublicBox.prepare other (.recipientKey sender.publicKey) receiver.ownKey = .ok key := by
  obtain ⟨_, _, ⟨⟩, ⟨⟩, shared⟩ := PublicBox.prepare_eq_ok_iff.mp prepared
  exact PublicBox.prepare_eq_ok_iff.mpr ⟨_, _, rfl, rfl, keysAgree.symm.trans shared⟩

/-- A message in the box of a padded payload opens to the kind and the payload. -/
theorem openIncoming_padded {receiver : Gateway} {senderKey : Value} {key : Octets 32}
    (prepared : ∀ refusal, PublicBox.prepare refusal senderKey receiver.ownKey = .ok key)
    {message : Incoming} {kind : UInt8} {payload : Bytes} {amount : Nat}
    (bounds : 1 ≤ amount ∧ amount ≤ 255)
    (boxIs : message.box =
      SecretBox.lock key message.nonce (Padding.padded kind payload amount)) (context : Context) :
    ((receiver.openIncoming message senderKey).perform context).1 = .ok (kind, payload) := by
  have opened : message.openBox senderKey receiver.ownKey = .ok (kind :: payload) := by
    rw [Incoming.openBox_eq, boxIs, Opening.openBox_lock (prepared _), Except.bind,
      Padding.strip_padded kind payload bounds.1 bounds.2]
    rfl
  exact (openIncoming_of_openBox opened context).1

/-- A padded payload in a box under the key of the two gateways is received with any date that can
be read. -/
theorem receives_of_readable {receiver : Gateway} {senderKey : RecipientKey} {key : Octets 32}
    (prepared : ∀ refusal,
      PublicBox.prepare refusal (.recipientKey senderKey) receiver.ownKey = .ok key)
    {delivery : Delivery} (isRun : Numeral.IsRun delivery.date.toList)
    (isShort : (Numeral.significant delivery.date.toList).length ≤ 4300) {envelope : Envelope}
    {kind : UInt8} {payload : Bytes} {amount : Nat} (bounds : 1 ≤ amount ∧ amount ≤ 255)
    (boxIs : envelope.box =
      SecretBox.lock key envelope.nonce (Padding.padded kind payload amount)) :
    receiver.Receives delivery envelope senderKey kind payload := by
  obtain ⟨form, signed⟩ := delivery.exists_signedForm envelope receiver.secret
  refine ⟨form, signed, ?_⟩
  intro chars body writes carries context
  obtain ⟨code, -, accepted⟩ :=
    Delivery.outcome_of_signedForm signed writes carries isRun isShort context
  refine ⟨delivery.incoming envelope code, ((receiver.accept body).perform context).2,
    Prod.ext accepted rfl, rfl, rfl, rfl, rfl, ?_⟩
  intro later
  exact openIncoming_padded prepared bounds boxIs later

/-- A padded payload in a box under the key of the two gateways is received. -/
theorem receives_of_box {receiver : Gateway} {senderKey : RecipientKey} {key : Octets 32}
    (prepared : ∀ refusal,
      PublicBox.prepare refusal (.recipientKey senderKey) receiver.ownKey = .ok key)
    {delivery : Delivery} (isRun : Numeral.IsRun delivery.date.toList)
    (isShort : delivery.date.toList.length ≤ 4300) {envelope : Envelope} {kind : UInt8}
    {payload : Bytes} {amount : Nat} (bounds : 1 ≤ amount ∧ amount ≤ 255)
    (boxIs : envelope.box =
      SecretBox.lock key envelope.nonce (Padding.padded kind payload amount)) :
    receiver.Receives delivery envelope senderKey kind payload :=
  receives_of_readable prepared isRun ((Numeral.length_significant_le _).trans isShort) bounds
    boxIs

/-- What one gateway sends to another is received by that other gateway: a payload with its kind,
and a text as its UTF-8 with the kind of texts. -/
theorem receives_of_send (sender receiver : Gateway) (keysAgree : sender.KeysAgree receiver)
    (delivery : Delivery) (isRun : Numeral.IsRun delivery.date.toList)
    (isShort : delivery.date.toList.length ≤ 4300) (context after : Context)
    (envelope : Envelope) :
    (∀ (payload kind : Value) (number : UInt8) (bytes : Bytes),
      kind.toNumber = .ok number.toNat → payload.toBytes = .ok bytes →
      (sender.send payload kind (.recipientKey receiver.publicKey)).perform context =
        (.ok envelope, after) →
      receiver.Receives delivery envelope sender.publicKey number bytes) ∧
    (∀ text : WideText,
      (sender.sendText (.text text) (.recipientKey receiver.publicKey)).perform context =
        (.ok envelope, after) →
      ∃ bytes, text.encode? = some bytes ∧
        receiver.Receives delivery envelope sender.publicKey (UInt8.ofNat MessageKind.text.code)
          bytes) := by
  have received (payload kind : Value) (number : UInt8) (bytes : Bytes)
      (kindIs : kind.toNumber = .ok number.toNat) (payloadIs : payload.toBytes = .ok bytes)
      (sent : (sender.send payload kind (.recipientKey receiver.publicKey)).perform context =
        (.ok envelope, after)) :
      receiver.Receives delivery envelope sender.publicKey number bytes := by
    obtain ⟨key, amount, prepared, bounds, boxIs⟩ :=
      Sending.exists_key_of_send kindIs payloadIs sent
    exact receives_of_box (prepare_of_keysAgree keysAgree prepared) isRun isShort bounds boxIs
  refine ⟨received, ?_⟩
  intro text sent
  obtain ⟨bytes, encoded, sent⟩ := Sending.send_of_sendText sent
  exact ⟨bytes, encoded, received (.octets bytes) (.messageKind .text) _ bytes rfl rfl sent⟩

/-- A gateway that sends. -/
def echoGateway : Gateway := ⟨"ECHOECHO", "otro secreto", ⟨Octets.ofPadded 32 [1]⟩⟩

/-- A gateway that receives. -/
def testGateway : Gateway := ⟨"*TESTTST", "nevergonnagiveyouup", ⟨Octets.ofPadded 32 [2]⟩⟩

/-- A delivery with identities that have to be escaped, and zeros at the head of the date. -/
def escapedDelivery : Delivery := ⟨"ECHO&ECHO=+%", "*ÑANDÚ", "mensaje 1", "0001700000000"⟩

/-- A payload that ends with what looks like padding is received between the two gateways; the first
byte of the entropy is no amount of padding. -/
theorem receives_of_send_echoGateway :
    ∃ envelope after,
      echoGateway.KeysAgree testGateway ∧ Numeral.IsRun escapedDelivery.date.toList ∧
      escapedDelivery.date.toList.length ≤ 4300 ∧
      (echoGateway.send (.octets [65, 2, 2]) (.whole 19)
          (.recipientKey testGateway.publicKey)).perform
        (Context.initial (255 :: 2 :: List.replicate 24 7)) = (.ok envelope, after) ∧
      testGateway.Receives escapedDelivery envelope echoGateway.publicKey 19 [65, 2, 2] := by
  have keysAgree : echoGateway.KeysAgree testGateway := by
    unfold KeysAgree
    decide +kernel
  have isShared : PublicBox.sharedKey? echoGateway.privateKey.octets
      testGateway.publicKey.octets ≠ none := by
    decide +kernel
  obtain ⟨key, shared⟩ := Option.ne_none_iff_exists'.mp isShared
  have prepared : PublicBox.prepare .unusableKeys (.recipientKey testGateway.publicKey)
      echoGateway.ownKey = .ok key :=
    PublicBox.prepare_eq_ok_iff.mpr ⟨_, _, rfl, rfl, shared⟩
  have kindIs : (Value.whole 19).toNumber = .ok (19 : UInt8).toNat := rfl
  have payloadIs : (Value.octets [65, 2, 2]).toBytes = .ok [65, 2, 2] := rfl
  have lengthIs : (Value.octets [65, 2, 2]).length = .ok 3 := rfl
  have given : Padding.amountOf?
      (Context.initial (255 :: 2 :: List.replicate 24 7)).entropy.remaining = some (3, 2) := by
    decide
  obtain ⟨envelope, after, sent⟩ :=
    Sending.exists_envelope_of_send kindIs payloadIs lengthIs prepared given (by decide)
  have isRun : Numeral.IsRun escapedDelivery.date.toList := by decide
  have isShort : escapedDelivery.date.toList.length ≤ 4300 := by decide
  exact ⟨envelope, after, keysAgree, isRun, isShort, sent,
    (receives_of_send echoGateway testGateway keysAgree escapedDelivery isRun isShort _ after
      envelope).1 _ _ 19 _ kindIs payloadIs sent⟩

end Gateway
end SealedGateway
