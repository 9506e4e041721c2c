import SealedGateway.Proofs.Key.Reading
import SealedGateway.Proofs.Message.Carried
import SealedGateway.Proofs.Work.Outcomes

/-!
# Delivery receipts decode uniquely

A receipt says one thing of one or more messages.  Its payload is a byte for what it says and eight
bytes for each message, so that it is read in one way only, whatever padding was put behind it and
however the identifiers were spelled.  One identifier that is misshapen lets the whole receipt fail.
-/

namespace SealedGateway

/-- The byte of a status tells which it is. -/
theorem ReceiptStatus.eq_of_byte {left right : ReceiptStatus}
    (same : UInt8.ofNat left.code = UInt8.ofNat right.code) : left = right := by
  revert same
  cases left <;> cases right <;> decide

/-- What a delivery receipt says. -/
structure Receipt where
  /-- What is confirmed. -/
  status : ReceiptStatus
  /-- The identifiers of the messages for which it is confirmed, in order. -/
  identifiers : List (Octets 8)
deriving DecidableEq

namespace Receipt

/-- Whether a value is given for an identifier: its eight bytes, or their digits in either case. -/
inductive IsIdentifier (identifier : Octets 8) : Value → Prop
  | bytes {value : Value} (isBytes : value.byteString? = some identifier.toList) :
      IsIdentifier identifier value
  | digits {spelled : WideText} (isSpelled : spelled.Spells identifier.toList) :
      IsIdentifier identifier (.text spelled)

/-- Whether a value is bytes or text and yet no identifier: its bytes are not eight, or its text
does not consist of the digits of eight bytes. -/
inductive IsMisshapen : Value → Prop
  | bytes {value : Value} {bytes : Bytes} (isBytes : value.byteString? = some bytes)
      (isOther : bytes.length ≠ 8) : IsMisshapen value
  | text {spelled : WideText} (isOther : ¬ spelled.IsHexOf 8) : IsMisshapen (.text spelled)

/-- Whether a receipt is what values for its status and its identifiers ask for. -/
structure IsGivenAs (receipt : Receipt) (status : Value) (ids : List Value) : Prop where
  status_eq : status.equalInt? = some (receipt.status.code : Int)
  areIdentifiers : List.Forall₂ IsIdentifier receipt.identifiers ids
  isNonempty : ids ≠ []

/-- Whether a receipt is read from a payload: the first byte is the number of its status, and the
rest, cut into blocks of eight bytes, is its identifiers. -/
structure IsReadFrom (receipt : Receipt) (payload : Bytes) : Prop where
  head_eq : payload.head? = some (UInt8.ofNat receipt.status.code)
  blocks_eq : Bytes.blocks 8 payload.tail = receipt.identifiers.map Octets.toList

variable {receipt other : Receipt} {status : Value} {ids : List Value}

/-! ## Reading a payload -/

theorem map_toList_injective :
    Function.Injective (List.map (Octets.toList : Octets 8 → Bytes)) :=
  List.map_injective_iff.mpr fun _ _ => Octets.ext

/-- A payload is read as one receipt only. -/
theorem IsReadFrom.unique {payload : Bytes} (isRead : receipt.IsReadFrom payload)
    (isOther : other.IsReadFrom payload) : receipt = other := by
  have sameByte := Option.some.inj (isRead.head_eq.symm.trans isOther.head_eq)
  have sameBlocks := isRead.blocks_eq.symm.trans isOther.blocks_eq
  exact congrArg₂ Receipt.mk (ReceiptStatus.eq_of_byte sameByte) (map_toList_injective sameBlocks)

/-- The payload of a receipt. -/
def payload (receipt : Receipt) : Bytes :=
  UInt8.ofNat receipt.status.code :: (receipt.identifiers.map Octets.toList).flatten

theorem isReadFrom_payload (receipt : Receipt) : receipt.IsReadFrom receipt.payload where
  head_eq := rfl
  blocks_eq := by
    apply Bytes.blocks_flatten (Nat.succ_pos 7)
    simp

/-- Different receipts have different payloads. -/
theorem payload_injective : Function.Injective payload := by
  intro receipt other same
  have isRead := receipt.isReadFrom_payload
  rw [same] at isRead
  exact isRead.unique other.isReadFrom_payload

/-! ## Making a payload -/

theorem messageId_of_byteString? {value : Value} {bytes : Bytes}
    (isBytes : value.byteString? = some bytes) :
    Sending.messageId value =
      if bytes.length ≠ 8 then .error (.badValue .receiptIdLength) else .ok bytes := by
  cases value with
  | octets given =>
    cases isBytes
    rfl
  | buffer given =>
    cases isBytes
    rfl
  | _ => cases isBytes

theorem messageId_of_isIdentifier {identifier : Octets 8} {value : Value}
    (isIdentifier : IsIdentifier identifier value) :
    Sending.messageId value = .ok identifier.toList := by
  cases isIdentifier with
  | bytes isBytes =>
    rw [messageId_of_byteString? isBytes, if_neg (not_not.mpr identifier.length_toList)]
  | digits isSpelled => rw [Sending.messageId, Value.hexOctets_eq_ok_iff.mpr isSpelled]

theorem exists_failure_of_isMisshapen {value : Value} (isMisshapen : IsMisshapen value) :
    ∃ failure, Sending.messageId value = .error failure := by
  cases isMisshapen with
  | bytes isBytes isOther =>
    exact ⟨_, (messageId_of_byteString? isBytes).trans (if_pos isOther)⟩
  | @text spelled isOther =>
    rw [Sending.messageId]
    cases read : (Value.text spelled).hexOctets 8 with
    | error fault => exact ⟨_, rfl⟩
    | ok octets => exact absurd (Value.exists_hexOctets_iff.mp ⟨octets, read⟩) isOther

/-- Identifiers are read one by one, in order. -/
theorem mapM_messageId {identifiers : List (Octets 8)}
    (areIdentifiers : List.Forall₂ IsIdentifier identifiers ids) :
    ids.mapM Sending.messageId = .ok (identifiers.map Octets.toList) := by
  rw [Outcome.mapM_eq_ok_iff, List.forall₂_map_right_iff]
  exact areIdentifiers.flip.imp fun _ _ => messageId_of_isIdentifier

theorem toReceiptStatus_of_equalInt? {member : ReceiptStatus}
    (status_eq : status.equalInt? = some (member.code : Int)) :
    status.toReceiptStatus = .ok member := by
  rw [Value.toReceiptStatus, Value.toMember, status_eq, Option.bind_some,
    ReceiptStatus.ofCode?_code]

/-- The payload is made of what the values stand for, however they are spelled. -/
theorem receiptRecord_of_isGivenAs (isGiven : receipt.IsGivenAs status ids) :
    Sending.receiptRecord status ids = .ok receipt.payload := by
  have areSome : (receipt.identifiers.map Octets.toList).isEmpty = false := by
    have lengths := isGiven.areIdentifiers.length_eq
    have isLong := List.length_pos_iff.mpr isGiven.isNonempty
    rw [List.isEmpty_eq_false_iff, ← List.length_pos_iff, List.length_map]
    omega
  rw [Sending.receiptRecord, mapM_messageId isGiven.areIdentifiers]
  simp only [bind, Except.bind, areSome, toReceiptStatus_of_equalInt? isGiven.status_eq]
  rfl

/-- No identifiers, or a misshapen one at any place, are refused. -/
theorem exists_failure_of_receiptRecord (status : Value)
    (areOther : ids = [] ∨ ∃ id ∈ ids, IsMisshapen id) :
    ∃ failure, Sending.receiptRecord status ids = .error failure := by
  rcases areOther with rfl | ⟨id, isMember, isMisshapen⟩
  · exact ⟨.badValue .noReceiptIds, rfl⟩
  · obtain ⟨_, isRefused⟩ := exists_failure_of_isMisshapen isMisshapen
    obtain ⟨failure, refused⟩ := Outcome.exists_error_of_mapM isMember isRefused
    exact ⟨failure, by rw [Sending.receiptRecord, refused]; rfl⟩

/-! ## Sending and opening -/

theorem sendReceipt_eq (status : Value) (ids : List Value) :
    Sending.sendReceipt status ids =
      Sending.sendMade (Sending.receiptRecord status ids) .deliveryReceipt :=
  rfl

/-- A receipt is sent for every status and all identifiers that are given as bytes or as digits, if
the keys share a key and the entropy suffices, and then the message opens with all keys that share
this key to the kind of receipts and to a payload from which the receipt is read: its first byte is
the status, and the rest in blocks of eight is the identifiers in order.  Payloads that come out of
two calls are the same exactly if the calls ask for the same receipt.  Without identifiers, or with
a misshapen one at any place, there is a failure and no message, and nothing is drawn. -/
theorem receipts_decode_uniquely :
    (∀ (receipt : Receipt) (status : Value) (ids : List Value) (publicKey privateKey : Value)
      (key : Octets 32) (context : Context), receipt.IsGivenAs status ids →
      PublicBox.Shares publicKey privateKey key →
        (context.entropy.SufficesForMessage → ∃ envelope after,
          (Sending.sendReceipt status ids publicKey privateKey).perform context =
            (.ok envelope, after)) ∧
        ∀ envelope after,
          (Sending.sendReceipt status ids publicKey privateKey).perform context =
            (.ok envelope, after) →
          ∃ payload, envelope.Carries key .deliveryReceipt payload ∧
            receipt.IsReadFrom payload) ∧
    (∀ (receipt other : Receipt) (status otherStatus : Value) (ids otherIds : List Value)
      (payload otherPayload : Bytes), receipt.IsGivenAs status ids →
      other.IsGivenAs otherStatus otherIds →
      Sending.ComesOut (Sending.sendReceipt status ids) payload →
      Sending.ComesOut (Sending.sendReceipt otherStatus otherIds) otherPayload →
        (payload = otherPayload ↔ receipt = other)) ∧
    (∀ (status : Value) (ids : List Value) (publicKey privateKey : Value) (context : Context),
      (ids = [] ∨ ∃ id ∈ ids, IsMisshapen id) →
        ∃ failure, (Sending.sendReceipt status ids publicKey privateKey).perform context =
          (.error failure, context)) := by
  simp only [sendReceipt_eq]
  refine ⟨?_, ?_, ?_⟩
  · intro receipt status ids publicKey privateKey key context isGiven shares
    have isMade := receiptRecord_of_isGivenAs isGiven
    refine ⟨Sending.exists_envelope_of_sendMade isMade shares, ?_⟩
    intro envelope after sent
    exact ⟨receipt.payload, Sending.carries_of_sendMade isMade shares sent,
      receipt.isReadFrom_payload⟩
  · intro receipt other status otherStatus ids otherIds payload otherPayload isGiven isOtherGiven
      comesOut otherComesOut
    obtain rfl := Except.ok.inj ((receiptRecord_of_isGivenAs isGiven).symm.trans comesOut.made_eq)
    obtain rfl :=
      Except.ok.inj ((receiptRecord_of_isGivenAs isOtherGiven).symm.trans otherComesOut.made_eq)
    exact payload_injective.eq_iff
  · intro status ids publicKey privateKey context areOther
    obtain ⟨failure, refused⟩ := exists_failure_of_receiptRecord status areOther
    exact ⟨failure, Sending.perform_sendMade_of_error refused context⟩

/-- A receipt for two messages. -/
def pairReceipt : Receipt :=
  ⟨.read, [⟨[1, 2, 3, 4, 5, 6, 7, 8], rfl⟩, ⟨[10, 11, 12, 13, 14, 15, 16, 255], rfl⟩]⟩

/-- The receipt for the same messages in the other order. -/
def swappedReceipt : Receipt := ⟨.read, pairReceipt.identifiers.reverse⟩

/-- The identifiers of two messages, one in bytes and one in digits of both cases. -/
def mixedIds : List Value :=
  [.octets [1, 2, 3, 4, 5, 6, 7, 8], .text (WideText.ofString "0A0b0C0d0E0f10fF")]

theorem isGivenAs_mixedIds :
    pairReceipt.IsGivenAs (.whole 2) mixedIds ∧
      swappedReceipt.IsGivenAs (.whole 2) mixedIds.reverse := by
  have inBytes : IsIdentifier ⟨[1, 2, 3, 4, 5, 6, 7, 8], rfl⟩
      (.octets [1, 2, 3, 4, 5, 6, 7, 8]) := .bytes rfl
  have inDigits : IsIdentifier ⟨[10, 11, 12, 13, 14, 15, 16, 255], rfl⟩
      (.text (WideText.ofString "0A0b0C0d0E0f10fF")) :=
    .digits (WideText.spells_ofString_iff.mpr (by decide))
  exact ⟨⟨rfl, .cons inBytes (.cons inDigits .nil), nofun⟩,
    ⟨rfl, .cons inDigits (.cons inBytes .nil), nofun⟩⟩

/-- Two identifiers in different spellings arrive in their order behind padding that is drawn at the
second byte, and one with a blank in it lets the receipt fail. -/
theorem receipts_decode_uniquely_of_mixedIds :
    (∃ payload otherPayload, Sending.ComesOut (Sending.sendReceipt (.whole 2) mixedIds) payload ∧
      pairReceipt.IsReadFrom payload ∧
      Sending.ComesOut (Sending.sendReceipt (.whole 2) mixedIds.reverse) otherPayload ∧
      payload ≠ otherPayload) ∧
    ∃ failure, (Sending.sendReceipt (.whole 2)
      (mixedIds ++ [.text (WideText.ofString "0102030405060 08")]) (.publicKey Opening.basePoint)
      (.octets Opening.plainKey)).perform (Context.initial []) =
        (.error failure, Context.initial []) := by
  obtain ⟨areSent, areDifferent, areRefused⟩ := receipts_decode_uniquely
  constructor
  · obtain ⟨key, shares⟩ := PublicBox.canPrepare_iff.mp Opening.canPrepare_plainKey
    have arrives {receipt : Receipt} {ids : List Value}
        (isGiven : receipt.IsGivenAs (.whole 2) ids) :
        ∃ payload, Sending.ComesOut (Sending.sendReceipt (.whole 2) ids) payload ∧
          receipt.IsReadFrom payload := by
      obtain ⟨isSent, isCarried⟩ := areSent receipt _ _ _ _ key
        (Context.initial (255 :: 1 :: List.replicate 24 5)) isGiven shares
      obtain ⟨envelope, after, sent⟩ :=
        isSent ⟨1, 1, List.replicate 24 5, rfl, by decide, by decide⟩
      obtain ⟨payload, carries, isRead⟩ := isCarried envelope after sent
      exact ⟨payload, .opened shares sent shares (carries _ _ shares), isRead⟩
    obtain ⟨isGiven, isOtherGiven⟩ := isGivenAs_mixedIds
    obtain ⟨payload, comesOut, isRead⟩ := arrives isGiven
    obtain ⟨otherPayload, otherComesOut, -⟩ := arrives isOtherGiven
    refine ⟨payload, otherPayload, comesOut, isRead, otherComesOut, ?_⟩
    rw [Ne, areDifferent _ _ _ _ _ _ _ _ isGiven isOtherGiven comesOut otherComesOut]
    decide
  · apply areRefused
    refine .inr ⟨_, List.mem_append_right _ (List.mem_singleton_self _), .text ?_⟩
    intro isHex
    obtain ⟨octets, read⟩ := Value.exists_hexOctets_iff.mpr isHex
    cases read

end Receipt
end SealedGateway
