import SealedGateway.Descriptor.Wire
import SealedGateway.Key.Pair
import SealedGateway.Message.Envelope
import SealedGateway.Message.Padding

/-!
# Sending messages

A message is padded, and the padded form is locked in a box under a drawn nonce.  Each kind of
message has its own payload: text in UTF-8, a record that points to an image, a descriptor, or a
status and the identifiers of the messages that it confirms.
-/

namespace SealedGateway
namespace Sending

/-- Locks data as it stands.  The keys are looked at before the nonce is drawn, and the data is
looked at last. -/
def sendRaw (data publicKey privateKey : Value) : Work Envelope := do
  let sharedKey ← Work.ofExcept (PublicBox.prepare .unusableKeys publicKey privateKey)
  let nonce ← Work.draw 24
  let bytes ← Work.ofExcept data.toBytes
  return ⟨SecretBox.lock sharedKey nonce bytes, nonce⟩

/-- A whole number in hexadecimal, with at least two characters. -/
def kindText (number : Int) : String :=
  if number < 0 then String.ofList ('-' :: Nat.toDigits 16 number.natAbs)
  else String.ofList (Hex.ofNat number.toNat)

/-- The record of a message that is about to be locked. -/
def sendingRecord (number : Int) (length : Nat) : String :=
  "Cifrando mensaje tipo 0x" ++ kindText number ++ " (" ++ decimalText length ++ " bytes)"

/-- Pads and locks a payload of a given kind. -/
def send (payload kind publicKey privateKey : Value) : Work Envelope := do
  let number ← Work.ofExcept kind.toNumber
  let length ← Work.ofExcept payload.length
  Work.record .debug .publicBox (sendingRecord number length)
  let padded ← Padding.wrap payload kind
  sendRaw (.octets padded) publicKey privateKey

/-- Sends text. -/
def sendText (text publicKey privateKey : Value) : Work Envelope := do
  let payload ← Work.ofExcept (match text with
    | .text text =>
      match text.encode? with
      | some bytes => .ok bytes
      | none => .error .unencodable
    | _ => .error .lacksOperation)
  send (.octets payload) (.messageKind .text) publicKey privateKey

/-- The greatest size of an image in bytes. -/
def imageSizeLimit : Nat := 0xFFFFFFFF

/-- The size of an image.  A floating point value is compared with the limits and then refused. -/
def imageSize (size : Value) : Except Failure Nat :=
  match size.index? with
  | some number =>
    if 0 ≤ number ∧ number ≤ imageSizeLimit then .ok number.toNat else .error (.badValue .imageSize)
  | none =>
    match size with
    | .real value =>
      if value.isNonnegative && value.isAtMost imageSizeLimit then .error .unpackable
      else .error (.badValue .imageSize)
    | _ => .error .wrongKind

/-- The record that points to an image: its blob, its size in order of increasing weight, and the
nonce under which the blob was locked.  The length of the nonce is checked first, then the size. -/
def imageRecord (blobId size nonce : Value) : Except Failure Bytes := do
  let nonceLength ← nonce.length
  if nonceLength ≠ 24 then .error (.badNonce .ofImage)
  else
    match imageSize size, blobId.ownBytes? with
    | .error .unpackable, none => .error .lacksOperation
    | .error failure, _ => .error failure
    | .ok _, none => .error .lacksOperation
    | .ok size, some blobBytes =>
      let nonceBytes ← nonce.toBytes
      .ok (blobBytes ++ Bytes.ofNatLE 4 size ++ nonceBytes)

/-- Sends a pointer to an image. -/
def sendImage (blobId size nonce publicKey privateKey : Value) : Work Envelope := do
  let payload ← Work.ofExcept (imageRecord blobId size nonce)
  send (.octets payload) (.messageKind .image) publicKey privateKey

/-- Sends a descriptor. -/
def sendDescriptor (descriptor : Descriptor) (publicKey privateKey : Value) : Work Envelope := do
  let payload ← Work.ofExcept descriptor.toJson
  send (.octets payload) (.messageKind .file) publicKey privateKey

/-- The eight bytes of the identifier of a message: spelled in hexadecimal, or given as they are. -/
def messageId : Value → Except Failure Bytes
  | .text text =>
    match (Value.text text).hexOctets 8 with
    | .ok octets => .ok octets.toList
    | .error fault => .error (.malformed fault)
  | value => do
    let length ← value.length
    if length ≠ 8 then .error (.badValue .receiptIdLength) else value.toBytes

/-- The payload of a delivery receipt: the status and the identifiers one after the other.  The
identifiers are looked at before the status. -/
def receiptRecord (status : Value) (ids : List Value) : Except Failure Bytes := do
  let identifiers ← ids.mapM messageId
  if identifiers.isEmpty then .error (.badValue .noReceiptIds)
  else
    let status ← status.toReceiptStatus
    .ok (UInt8.ofNat status.code :: identifiers.flatten)

/-- Sends a delivery receipt. -/
def sendReceipt (status : Value) (ids : List Value) (publicKey privateKey : Value) :
    Work Envelope := do
  let payload ← Work.ofExcept (receiptRecord status ids)
  send (.octets payload) (.messageKind .deliveryReceipt) publicKey privateKey

end Sending
end SealedGateway
