import SealedGateway.Console.Screen
import SealedGateway.FileName.Suffix
import SealedGateway.Gateway.Basic

/-!
# The sending page

The sending page locks text, files and file messages for a recipient.  A locked file waits on
the desk until the operator types the identifier of its blob; then its descriptor can be sent.
-/

namespace SealedGateway
namespace SendingPage

/-- The keys that the operator has typed: the gateway and the recipient, where they are there. -/
def readKeys (gatewayId privateKey recipient : String) :
    Except Failure (Option Gateway × Option RecipientKey) := do
  let gateway? ← if privateKey = "" then pure none
    else (Gateway.create gatewayId "" (Value.ofString privateKey)).map some
  let recipient? ← if recipient = "" then pure none
    else
      match RecipientKey.ofText (Value.ofString recipient) with
      | .ok key => .ok (some key)
      | .error fault => .error (.badKey fault)
  return (gateway?, recipient?)

/-- Shows the form fields of an envelope. -/
def putEnvelope (envelope : Envelope) : Screen Unit :=
  Screen.put (.record (envelope.formFields.map fun (name, value) =>
    (WideText.ofString name, .text (WideText.ofString value))))

/-- The part of the page that sends text. -/
def textTab (gateway : Gateway) (recipient : RecipientKey) : Screen Unit := do
  let text ← Screen.askLines "Mensaje"
  if ← Screen.askButton ⟨"Cifrar texto", some text.isEmpty, some "btn_text"⟩ then
    let envelope ← Screen.perform (gateway.sendText (Value.ofString text) (.recipientKey recipient))
    Screen.put (.success "Mensaje cifrado.")
    putEnvelope envelope

/-- The media type of a file whose name tells none. -/
def unknownMediaType : String := "application/octet-stream"

/-- Locks a file and keeps it on the desk. -/
def lockFile (name : String) (content : Bytes) : Screen Unit := do
  let (locked, key) ← Screen.perform (PlainFile.lockValues (.octets content) .null)
  let guessed? ← Screen.perform (Work.ofExcept (match FileName.guessType? name with
    | .ok guessed? => .ok guessed?
    | .error fault => .error (.badValue fault)))
  Screen.setPending ⟨name, content.length, key, guessed?.getD unknownMediaType⟩
  Screen.put (.download "Descargar blob cifrado" locked.file (name ++ ".blob"))
  Screen.put (.caption "Sube el blob al servidor de blobs y pega aquí el id que devuelve.")

/-- The descriptor of a file that waits for its blob. -/
def describe (pending : PendingFile) (blobText : String) : Except Failure Descriptor :=
  match BlobId.ofText (Value.ofString blobText) with
  | .error fault => .error (.malformed fault)
  | .ok blobId =>
    Descriptor.ofFields [("file_blob_id", .blobId blobId),
      ("media_type", Value.ofString pending.mediaType),
      ("blob_encryption_key", Value.ofString pending.key.text),
      ("file_size_bytes", .whole pending.size), ("file_name", Value.ofString pending.name)]

/-- Sends the descriptor of a file that waits for its blob. -/
def sendPending (gateway : Gateway) (recipient : RecipientKey) (pending : PendingFile)
    (blobText : String) : Screen Unit := do
  match describe pending blobText with
  | .ok descriptor =>
    putEnvelope (← Screen.perform (gateway.sendDescriptor descriptor (.recipientKey recipient)))
  | .error failure =>
    if failure.isReported then Screen.reportAndStop "" failure
    else Screen.halt (.failed failure)

/-- The part of the page that locks files and sends their descriptors. -/
def fileTab (gateway : Gateway) (recipient : RecipientKey) : Screen Unit := do
  if let some (name, content) ← Screen.askFile "Selecciona un archivo" then
    if ← Screen.askButton ⟨"Cifrar archivo", none, some "btn_file"⟩ then
      lockFile name content
  let pending? ← Screen.pending
  let blobText ← Screen.askText ⟨"Id del blob subido", none, false, some "blob_id"⟩
  if let some pending := pending? then
    if blobText ≠ "" then
      if ← Screen.askButton ⟨"Cifrar mensaje de archivo", none, some "btn_file_msg"⟩ then
        sendPending gateway recipient pending blobText

/-- The sending page. -/
def screen : Screen Unit := do
  Screen.put (.title "✉️ Cifrar mensaje")
  let gatewayId ← Screen.askText ⟨"Identidad del gateway", some "*XXXXXXX", false, none⟩
  let privateKey ← Screen.askText ⟨"Clave privada propia (hex)", none, true, none⟩
  let recipientText ← Screen.askText (.plain "Clave pública del destinatario (hex)")
  match readKeys gatewayId privateKey recipientText with
  | .ok (some gateway, some recipient) =>
    Screen.put (.tabs ["Texto", "Archivo"])
    Screen.within "Texto" (textTab gateway recipient)
    Screen.within "Archivo" (fileTab gateway recipient)
  | .ok _ =>
    Screen.put (.info "Introduce tu clave privada y la clave pública del destinatario.")
    Screen.halt .stopped
  | .error failure => Screen.reportAndStop "Clave inválida: " failure

end SendingPage
end SealedGateway
