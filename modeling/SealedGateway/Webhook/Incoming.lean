import SealedGateway.Field
import SealedGateway.Message.Opening

/-!
# Incoming messages

A message from outside names its sender and its recipient and carries a box and its nonce.  It
is made from loosely typed fields: each is looked up under the name it has on the wire, and then
under its own name.  Only the length of the padding in the box is checked.
-/

namespace SealedGateway

/-- A message from outside. -/
structure Incoming where
  /-- The identity of the sender. -/
  sender : WideText
  /-- The identity to which the message is sent. -/
  recipient : WideText
  /-- The identifier that the sender gave the message. -/
  messageId : WideText
  /-- The time that the sender put on the message. -/
  date : Nat
  /-- The nonce of the box. -/
  nonce : Octets 24
  /-- The box. -/
  box : Bytes
  /-- The authentication code as it was received. -/
  mac : WideText
  /-- The public nickname of the sender. -/
  nickname : Option WideText
deriving DecidableEq

namespace Incoming

/-- Reads a date.  Text must consist of digits. -/
def readDate : Value → Except FieldFault Nat
  | .text text =>
    let isDigits := match text.toChars? with
      | some chars => !chars.isEmpty && chars.all Text.isAsciiDigit
      | none => false
    if isDigits then Field.readCount (.text text) else .error (.broken .dateDigits)
  | value => Field.readCount value

/-- Reads a nonce: text in hexadecimal, or bytes.  A value without a length cannot be looked at. -/
def readNonce : Value → Except Failure (Except FieldFault (Octets 24))
  | .text text =>
    match (Value.text text).hexOctets 24 with
    | .ok nonce => .ok (.ok nonce)
    | .error fault => .ok (.error (.malformed fault))
  | value =>
    match value.length with
    | .error failure => .error failure
    | .ok length =>
      if length ≠ 24 then .ok (.error (.broken .nonceLength))
      else
        match Field.readOctets value with
        | .error fault => .ok (.error fault)
        | .ok bytes =>
          match Octets.ofList? 24 bytes with
          | some nonce => .ok (.ok nonce)
          | none => .ok (.error (.broken .nonceLength))

/-- Reads a box: text in hexadecimal, or bytes. -/
def readBox : Value → Except FieldFault Bytes
  | .text text =>
    match (Value.text text).hexBytes with
    | .ok bytes => .ok bytes
    | .error fault => .error (.malformed fault)
  | value => Field.readOctets value

/-- A field under its name on the wire, or else under its own name. -/
def findEither? (wireName ownName : String) (fields : List (String × Value)) : Option Value :=
  match Field.find? wireName fields with
  | some value => some value
  | none => Field.find? ownName fields

/-- The message made from loosely typed fields. -/
def ofFields (fields : List (String × Value)) : Except Failure Incoming :=
  let nonceRead : Except Failure (Except FieldFault (Octets 24)) :=
    match Field.find? "nonce" fields with
    | none => .ok (.error .required)
    | some value => readNonce value
  match nonceRead with
  | .error failure => .error failure
  | .ok nonce =>
    let readText := fun value? => Field.readRequired Field.readText value?
    let sender := readText (findEither? "from" "sender" fields)
    let recipient := readText (findEither? "to" "recipient" fields)
    let messageId := readText (findEither? "messageId" "message_id" fields)
    let date := Field.readRequired readDate (Field.find? "date" fields)
    let box := Field.readRequired readBox (Field.find? "box" fields)
    let mac := readText (Field.find? "mac" fields)
    let nickname := Field.readOptional Field.readText (Field.find? "nickname" fields)
    match sender, recipient, messageId, date, nonce, box, mac, nickname with
    | .ok sender, .ok recipient, .ok messageId, .ok date, .ok nonce, .ok box, .ok mac,
        .ok nickname =>
      .ok ⟨sender, recipient, messageId, date, nonce, box, mac, nickname⟩
    | sender, recipient, messageId, date, nonce, box, mac, nickname =>
      .error (.invalidFields (Field.faultsAt
        [("from", Field.fault? sender), ("to", Field.fault? recipient),
          ("messageId", Field.fault? messageId), ("date", Field.fault? date),
          ("nonce", Field.fault? nonce), ("box", Field.fault? box), ("mac", Field.fault? mac),
          ("nickname", Field.fault? nickname)]))

/-- Opens the box of a message wherever an operation can fail. -/
def openBoxIn {m : Type → Type} [Monad m] [MonadExceptOf Failure m] (message : Incoming)
    (publicKey privateKey : Value) : m Bytes := do
  let content ← Opening.openBoxIn (.octets message.box) (.octets message.nonce.toList) publicKey
    privateKey
  match Padding.strip content with
  | .ok opened => return opened
  | .error fault => throw (.badPadding fault)

/-- The kind and the payload in the box of a message, as one byte string. -/
def openBox (message : Incoming) (publicKey privateKey : Value) : Except Failure Bytes :=
  message.openBoxIn publicKey privateKey

end Incoming
end SealedGateway
