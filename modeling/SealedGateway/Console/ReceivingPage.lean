import SealedGateway.Console.Screen
import SealedGateway.Gateway.Basic
import SealedGateway.Text.Blank

/-!
# The receiving page

The receiving page authenticates the body of a webhook, shows the fields of the message, and
opens its box if the operator has typed the key of the sender.
-/

namespace SealedGateway
namespace ReceivingPage

/-- Shows the fields of an authenticated message. -/
def putMessage (message : Incoming) : Screen Unit := do
  let nickname := match message.nickname with
    | some nickname => if nickname = [] then "-" else nickname
    | none => "-"
  Screen.put (.success "✅ MAC verificado")
  Screen.put (.entry "**De:**" (.text message.sender))
  Screen.put (.entry "**Para:**" (.text message.recipient))
  Screen.put (.entry "**Id de mensaje:**" (.text message.messageId))
  Screen.put (.entry "**Fecha:**" (.number message.date))
  Screen.put (.entry "**Apodo:**" (.text nickname))

/-- Authenticates a body under a secret; the private key is looked at first. -/
def accept (secret privateKey body : String) : Work (Gateway × Incoming) := do
  let gateway ← Work.ofExcept (Gateway.create "" secret (Value.ofString privateKey))
  let message ← gateway.accept (Value.ofString (Text.strip body))
  return (gateway, message)

/-- Opens the box of a message with the key of the sender as it is typed. -/
def openMessage (gateway : Gateway) (message : Incoming) (sender : String) :
    Work (UInt8 × Bytes) := do
  let senderKey ← Work.ofExcept (match Hex.decodeSpaced sender with
    | .ok bytes => .ok bytes
    | .error place => .error (.badValue (.spacedHex place)))
  gateway.openIncoming message (.octets senderKey)

/-- The kind and the payload of a message that is shown in hexadecimal. -/
def rawText (kind : UInt8) (payload : Bytes) : String :=
  "tipo=0x" ++ Sending.kindText kind.toNat ++ "\n" ++ Hex.text payload

/-- Shows the payload of a message by its kind. -/
def putPayload (kind : UInt8) (payload : Bytes) : Screen Unit :=
  match MessageKind.ofCode? kind.toNat with
  | some .text => Screen.put (.code (Utf8.decodeForgiving payload))
  | some .file =>
    match Descriptor.ofJson (.octets payload) with
    | .ok descriptor => Screen.put (.record descriptor.wire)
    | .error failure =>
      if failure.isReported then
        Screen.put (.error
          (WideText.ofString "Mensaje de archivo inválido: " ++ failure.message?.getD ""))
      else Screen.halt (.failed failure)
  | _ => Screen.put (.code (rawText kind payload))

/-- What happens when a body is to be authenticated. -/
def receive (secret privateKey sender body : String) : Screen Unit := do
  match ← Screen.attempt (accept secret privateKey body) with
  | .error .invalidMac =>
    Screen.put (.error "❌ MAC inválido: mensaje rechazado.")
    Screen.halt .stopped
  | .error failure =>
    if failure.isReported then Screen.reportAndStop "Mensaje rechazado: " failure
    else Screen.halt (.failed failure)
  | .ok (gateway, message) =>
    putMessage message
    if sender ≠ "" then
      match ← Screen.attempt (openMessage gateway message sender) with
      | .ok (kind, payload) => putPayload kind payload
      | .error failure =>
        if failure.isReported || failure.isBadValue then
          Screen.reportAndStop "No se pudo descifrar: " failure
        else Screen.halt (.failed failure)

/-- The receiving page. -/
def screen : Screen Unit := do
  Screen.put (.title "📥 Recibir webhook")
  let secret ← Screen.askText ⟨"Secreto de la API", none, true, none⟩
  let privateKey ← Screen.askText ⟨"Clave privada propia (hex)", none, true, none⟩
  let sender ← Screen.askText (.plain "Clave pública del remitente (hex)")
  let body ← Screen.askLines "Cuerpo de la petición (url-encoded)"
  let isDisabled := secret.isEmpty || privateKey.isEmpty || body.isEmpty
  if ← Screen.askButton ⟨"Validar y descifrar", some isDisabled, none⟩ then
    receive secret privateKey sender body

end ReceivingPage
end SealedGateway
