import SealedGateway.Webhook.Incoming
import SealedGateway.Webhook.Mac

/-!
# Intake of webhooks

The body of a webhook is authenticated before any of its fields is interpreted: the form is
read, the code and the authenticated fields must be there, and the code must be the keyed digest
of those fields.  Whatever is wrong with an authenticated field afterwards is one fault.
-/

namespace SealedGateway
namespace Intake

/-- The authenticated fields that a form lacks. -/
def missingFields (form : Form) : List String :=
  Mac.fieldNames.filter fun name => (form.find? name).isNone

/-- The record of a webhook whose code is wrong. -/
def rejectedRecord : String := "Mensaje entrante rechazado: MAC inválido"

/-- The record of a webhook that has been accepted. -/
def acceptedRecord (messageId : WideText) : WideText :=
  WideText.ofString "Mensaje entrante " ++ messageId ++ WideText.ofString " verificado"

/-- The fields of a form as values. -/
def fieldValues (form : Form) : List (String × Value) :=
  Field.namedEntries (form.map fun (name, value) => (name, .text value))

/-- The message that an authenticated form carries. -/
def interpret (form : Form) : Except Failure Incoming :=
  match Incoming.ofFields (fieldValues form) with
  | .ok message => .ok message
  | .error (.invalidFields _) => .error (.malformed .malformedIncoming)
  | .error failure => .error failure

/-- Authenticates and interprets a form. -/
def acceptForm (form : Form) (secret : String) : Work Incoming := do
  let received ← Work.orFail (.malformed .macMissing) ((form.find? "mac").bind Mac.read?)
  match missingFields form with
  | [] =>
    let expected ← Work.ofExcept (Mac.compute form secret)
    if received = expected then
      let message ← Work.ofExcept (interpret form)
      Work.record .debug .intake (acceptedRecord message.messageId)
      return message
    else
      Work.record .warning .intake rejectedRecord
      Work.ofExcept (.error .invalidMac)
  | names => Work.ofExcept (.error (.malformed (.fieldsMissing names)))

/-- Authenticates and interprets the body of a webhook. -/
def accept (body : Value) (secret : String) : Work Incoming := do
  let form ← Work.ofExcept (Form.ofBody body)
  acceptForm form secret

end Intake
end SealedGateway
