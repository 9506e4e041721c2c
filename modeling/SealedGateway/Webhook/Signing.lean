import SealedGateway.Message.Envelope
import SealedGateway.Webhook.Mac

/-!
# Signed bodies

The sending side of a webhook: the form that carries an envelope, and that form with its
authentication code behind the other fields.
-/

namespace SealedGateway

/-- What a webhook says about a message besides its envelope. -/
structure Delivery where
  /-- The identity of the sender. -/
  sender : String
  /-- The identity of the recipient. -/
  recipient : String
  /-- The identifier of the message. -/
  messageId : String
  /-- The time of the message in digits. -/
  date : String
deriving DecidableEq

namespace Delivery

/-- The authenticated fields of a delivered envelope. -/
def form (delivery : Delivery) (envelope : Envelope) : Form :=
  Form.ofTexts ([("from", delivery.sender), ("to", delivery.recipient),
    ("messageId", delivery.messageId), ("date", delivery.date)] ++ envelope.formFields)

/-- The authentication code of a delivered envelope in hexadecimal. -/
def macText (delivery : Delivery) (envelope : Envelope) (secret : String) :
    Except Failure String :=
  (Mac.compute (delivery.form envelope) secret).map fun code => Hex.text code.toList

/-- The form of a delivered envelope with its authentication code. -/
def signedForm (delivery : Delivery) (envelope : Envelope) (secret : String) :
    Except Failure Form :=
  (delivery.macText envelope secret).map fun code =>
    delivery.form envelope ++ Form.ofTexts [("mac", code)]

end Delivery

/-- The fields of a form as they stand, with nothing escaped. -/
def Form.plainBody (form : Form) : WideText :=
  List.intercalate [.char '&'] (form.map fun (name, value) => name ++ .char '=' :: value)

end SealedGateway
