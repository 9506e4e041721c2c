import SealedGateway.File.Basic
import SealedGateway.Message.Sending
import SealedGateway.Settings
import SealedGateway.Webhook.Intake

/-!
# Gateways

A gateway is an identity with the secret of its webhooks and its private key.  It sends messages
under its own key and opens those that come in.
-/

namespace SealedGateway

/-- The identity of a gateway. -/
structure Gateway where
  /-- The name of the gateway. -/
  id : String
  /-- The key of the authentication codes of its webhooks. -/
  secret : String
  /-- The private key of the gateway. -/
  privateKey : PrivateKey
deriving DecidableEq

namespace Gateway

/-- The gateway with a private key in any accepted form. -/
def create (id secret : String) (privateKey : Value) : Except Failure Gateway :=
  match PrivateKey.ofValue privateKey with
  | .ok key => .ok ⟨id, secret, key⟩
  | .error fault => .error (.badKey fault)

/-- The gateway that the settings describe. -/
def ofSettings (settings : Settings) : Except Failure Gateway :=
  if settings.gatewayId = "" ∨ settings.secret = "" then .error (.badValue .settingsMissing)
  else if settings.privateKey = "" then .error (.badKey .privateUnset)
  else create settings.gatewayId settings.secret (Value.ofString settings.privateKey)

/-- The public key of a gateway. -/
def publicKey (gateway : Gateway) : RecipientKey := ⟨gateway.privateKey.publicKey.octets⟩

/-- The private key of a gateway as an argument. -/
def ownKey (gateway : Gateway) : Value := .privateKey gateway.privateKey

/-- Sends data as it stands. -/
def sendRaw (gateway : Gateway) (data recipient : Value) : Work Envelope :=
  Sending.sendRaw data recipient gateway.ownKey

/-- Sends a payload of a given kind. -/
def send (gateway : Gateway) (payload kind recipient : Value) : Work Envelope :=
  Sending.send payload kind recipient gateway.ownKey

/-- Sends text. -/
def sendText (gateway : Gateway) (text recipient : Value) : Work Envelope :=
  Sending.sendText text recipient gateway.ownKey

/-- Sends a pointer to an image. -/
def sendImage (gateway : Gateway) (blobId size nonce recipient : Value) : Work Envelope :=
  Sending.sendImage blobId size nonce recipient gateway.ownKey

/-- Sends a descriptor. -/
def sendDescriptor (gateway : Gateway) (descriptor : Descriptor) (recipient : Value) :
    Work Envelope :=
  Sending.sendDescriptor descriptor recipient gateway.ownKey

/-- Sends a delivery receipt. -/
def sendReceipt (gateway : Gateway) (status : Value) (ids : List Value) (recipient : Value) :
    Work Envelope :=
  Sending.sendReceipt status ids recipient gateway.ownKey

/-- Authenticates the body of a webhook with the secret of the gateway. -/
def accept (gateway : Gateway) (body : Value) : Work Incoming :=
  Intake.accept body gateway.secret

/-- The record of an opened message. -/
def openedRecord (sender : WideText) (kind : UInt8) : WideText :=
  WideText.ofString "Mensaje de " ++ sender ++
    WideText.ofString (" descifrado, tipo 0x" ++ Sending.kindText kind.toNat)

/-- Opens an incoming message: its kind and its payload. -/
def openIncoming (gateway : Gateway) (message : Incoming) (sender : Value) :
    Work (UInt8 × Bytes) := do
  let opened ← message.openBoxIn sender gateway.ownKey
  match opened with
  | [] => Work.ofExcept (.error .noFirstByte)
  | kind :: payload =>
    Work.record .debug .service (openedRecord message.sender kind)
    return (kind, payload)

end Gateway
end SealedGateway
