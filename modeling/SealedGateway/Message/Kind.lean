/-!
# Kinds of messages

The byte that opens a padded message names its kind.  A file message also says how it is shown,
and a delivery receipt says what it confirms.
-/

namespace SealedGateway

/-- The kinds of messages. -/
inductive MessageKind
  | text
  | image
  | video
  | file
  | deliveryReceipt
deriving DecidableEq

namespace MessageKind

/-- The byte that stands for a kind. -/
def code : MessageKind → Nat
  | text => 0x01
  | image => 0x02
  | video => 0x13
  | file => 0x17
  | deliveryReceipt => 0x80

/-- The name of a kind. -/
def name : MessageKind → String
  | text => "TEXT"
  | image => "IMAGE"
  | video => "VIDEO"
  | file => "FILE"
  | deliveryReceipt => "DELIVERY_RECEIPT"

/-- Every kind. -/
def all : List MessageKind := [text, image, video, file, deliveryReceipt]

/-- The kind that a code stands for. -/
def ofCode? (code : Int) : Option MessageKind :=
  all.find? fun kind => (kind.code : Int) = code

@[simp] theorem ofCode?_code (kind : MessageKind) : ofCode? kind.code = some kind := by
  cases kind <;> rfl

end MessageKind

/-- How the receiver shows a file message. -/
inductive Rendering
  | file
  | media
  | sticker
deriving DecidableEq

namespace Rendering

/-- The number that stands for a rendering. -/
def code : Rendering → Nat
  | file => 0
  | media => 1
  | sticker => 2

/-- The name of a rendering. -/
def name : Rendering → String
  | file => "FILE"
  | media => "MEDIA"
  | sticker => "STICKER"

/-- Every rendering. -/
def all : List Rendering := [file, media, sticker]

/-- The rendering that a code stands for. -/
def ofCode? (code : Int) : Option Rendering :=
  all.find? fun rendering => (rendering.code : Int) = code

@[simp] theorem ofCode?_code (rendering : Rendering) : ofCode? rendering.code = some rendering := by
  cases rendering <;> rfl

/-- Older clients tell only plain files from everything else. -/
def legacyFlag : Rendering → Nat
  | file => 0
  | _ => 1

end Rendering

/-- What a delivery receipt confirms. -/
inductive ReceiptStatus
  | received
  | read
  | acknowledged
  | declined
deriving DecidableEq

namespace ReceiptStatus

/-- The number that stands for a status. -/
def code : ReceiptStatus → Nat
  | received => 1
  | read => 2
  | acknowledged => 3
  | declined => 4

/-- The name of a status. -/
def name : ReceiptStatus → String
  | received => "RECEIVED"
  | read => "READ"
  | acknowledged => "USER_ACK"
  | declined => "USER_DEC"

/-- Every status. -/
def all : List ReceiptStatus := [received, read, acknowledged, declined]

/-- The status that a code stands for. -/
def ofCode? (code : Int) : Option ReceiptStatus :=
  all.find? fun status => (status.code : Int) = code

@[simp] theorem ofCode?_code (status : ReceiptStatus) : ofCode? status.code = some status := by
  cases status <;> rfl

end ReceiptStatus
end SealedGateway
