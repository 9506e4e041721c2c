import SealedGateway.Proofs.Gateway.LengthCheck
import SealedGateway.Proofs.Key.Reading

/-!
# The forms of keys

A public key is handed over as bytes, as the key of a recipient or ready for the box, and a private
key as bytes, as digits or ready for the box.  No operation can tell in which form it has got a key:
it looks at what the keys are read as, and all forms of a key are read as that key.  A gateway keeps
what it has read, so that it acts like the operations with any form of its key.
-/

namespace SealedGateway

variable {value publicKey otherPublic privateKey otherPrivate : Value}

/-! ## Operations with two keys -/

/-- Whether all operations with two keys do the same with two other ones: they give the same result
or fail alike, draw the same entropy and keep the same records. -/
structure PublicBox.ActsAlike (publicKey privateKey otherPublic otherPrivate : Value) : Prop where
  sendRaw (data : Value) :
    Sending.sendRaw data publicKey privateKey = Sending.sendRaw data otherPublic otherPrivate
  send (payload kind : Value) :
    Sending.send payload kind publicKey privateKey =
      Sending.send payload kind otherPublic otherPrivate
  sendText (text : Value) :
    Sending.sendText text publicKey privateKey = Sending.sendText text otherPublic otherPrivate
  sendImage (blobId size nonce : Value) :
    Sending.sendImage blobId size nonce publicKey privateKey =
      Sending.sendImage blobId size nonce otherPublic otherPrivate
  sendDescriptor (descriptor : Descriptor) :
    Sending.sendDescriptor descriptor publicKey privateKey =
      Sending.sendDescriptor descriptor otherPublic otherPrivate
  sendReceipt (status : Value) (ids : List Value) :
    Sending.sendReceipt status ids publicKey privateKey =
      Sending.sendReceipt status ids otherPublic otherPrivate
  openBox (box nonce : Value) :
    Opening.openBox box nonce publicKey privateKey =
      Opening.openBox box nonce otherPublic otherPrivate
  openMessage (box nonce : Value) :
    Opening.openMessage box nonce publicKey privateKey =
      Opening.openMessage box nonce otherPublic otherPrivate
  openIncoming (message : Incoming) :
    message.openBox publicKey privateKey = message.openBox otherPublic otherPrivate

/-- Operations look at what their keys are read as, and at nothing else of them. -/
theorem PublicBox.actsAlike_of_ofValue_eq
    (samePublic : PublicKey.ofValue publicKey = PublicKey.ofValue otherPublic)
    (samePrivate : PrivateKey.ofValue privateKey = PrivateKey.ofValue otherPrivate) :
    ActsAlike publicKey privateKey otherPublic otherPrivate := by
  have sendRaw (data : Value) : Sending.sendRaw data publicKey privateKey =
      Sending.sendRaw data otherPublic otherPrivate := by
    rw [Sending.sendRaw, Sending.sendRaw, prepare_congr samePublic samePrivate]
  have send (payload kind : Value) : Sending.send payload kind publicKey privateKey =
      Sending.send payload kind otherPublic otherPrivate := by
    simp only [Sending.send, sendRaw]
  have openBox := Opening.openBox_congr samePublic samePrivate
  constructor
  case sendRaw => exact sendRaw
  case send => exact send
  case sendText => simp only [Sending.sendText, send, implies_true]
  case sendImage => simp only [Sending.sendImage, send, implies_true]
  case sendDescriptor => simp only [Sending.sendDescriptor, send, implies_true]
  case sendReceipt => simp only [Sending.sendReceipt, send, implies_true]
  case openBox => exact openBox
  case openMessage => simp only [Opening.openMessage_eq, openBox, implies_true]
  case openIncoming => simp only [Incoming.openBox_eq, openBox, implies_true]

/-! ## Gateways -/

/-- Whether a gateway does what the operations do with a private key: it sends alike, and what it
opens is, with the kind in front of the payload, what they find in the box. -/
structure Gateway.ActsWith (gateway : Gateway) (privateKey : Value) : Prop where
  sendRaw (data recipient : Value) :
    gateway.sendRaw data recipient = Sending.sendRaw data recipient privateKey
  send (payload kind recipient : Value) :
    gateway.send payload kind recipient = Sending.send payload kind recipient privateKey
  sendText (text recipient : Value) :
    gateway.sendText text recipient = Sending.sendText text recipient privateKey
  sendImage (blobId size nonce recipient : Value) :
    gateway.sendImage blobId size nonce recipient =
      Sending.sendImage blobId size nonce recipient privateKey
  sendDescriptor (descriptor : Descriptor) (recipient : Value) :
    gateway.sendDescriptor descriptor recipient =
      Sending.sendDescriptor descriptor recipient privateKey
  sendReceipt (status : Value) (ids : List Value) (recipient : Value) :
    gateway.sendReceipt status ids recipient =
      Sending.sendReceipt status ids recipient privateKey
  /-- Bodies are authenticated with the secret, whatever the key is. -/
  accept (body : Value) : gateway.accept body = Intake.accept body gateway.secret
  openIncoming (message : Incoming) (sender : Value) (context : Context) :
    let performed := (gateway.openIncoming message sender).perform context
    performed.1.map (fun opened => opened.1 :: opened.2) = message.openBox sender privateKey ∧
      performed.2.entropy = context.entropy

/-- What a gateway opens is the content of the box, whose first byte is the kind.  It draws
nothing. -/
theorem Gateway.openIncoming_eq_openBox (gateway : Gateway) (message : Incoming) (sender : Value)
    (context : Context) :
    let performed := (gateway.openIncoming message sender).perform context
    performed.1.map (fun opened => opened.1 :: opened.2) = message.openBox sender gateway.ownKey ∧
      performed.2.entropy = context.entropy := by
  intro performed
  rcases message.openBox_stages sender gateway.ownKey with
    ⟨_, content, opened, -, -, stripped, isOpen⟩ | ⟨failure, refused, -⟩
  · obtain ⟨kind, payload, rfl⟩ := List.exists_cons_of_ne_nil (Padding.ne_nil_of_strip stripped)
    obtain ⟨isParted, drawsNothing⟩ := openIncoming_of_openBox isOpen context
    refine ⟨?_, drawsNothing⟩
    rw [isParted, isOpen]
    rfl
  · have isRefused : performed = (.error failure, context) :=
      openIncoming_of_refused refused context
    rw [isRefused, refused]
    exact ⟨rfl, rfl⟩

/-- A gateway acts with every value that is read as its key. -/
theorem Gateway.actsWith_of_ofValue {gateway : Gateway}
    (isOwn : PrivateKey.ofValue privateKey = .ok gateway.privateKey) :
    gateway.ActsWith privateKey := by
  have alike (peer : Value) : PublicBox.ActsAlike peer gateway.ownKey peer privateKey :=
    PublicBox.actsAlike_of_ofValue_eq rfl isOwn.symm
  constructor
  case sendRaw => exact fun data recipient => (alike recipient).sendRaw data
  case send => exact fun payload kind recipient => (alike recipient).send payload kind
  case sendText => exact fun text recipient => (alike recipient).sendText text
  case sendImage =>
    exact fun blobId size nonce recipient => (alike recipient).sendImage blobId size nonce
  case sendDescriptor =>
    exact fun descriptor recipient => (alike recipient).sendDescriptor descriptor
  case sendReceipt => exact fun status ids recipient => (alike recipient).sendReceipt status ids
  case accept => exact fun _ => rfl
  case openIncoming =>
    intro message sender context
    rw [← (alike sender).openIncoming message]
    exact gateway.openIncoming_eq_openBox message sender context

/-! ## All forms -/

/-- The forms of a key are what is read as this key.  With any two forms of a public key and any two
forms of a private key, all operations do the same.  A gateway can be made from every form of a
private key, it is the same gateway for all of them, and it acts with all of them alike. -/
theorem operations_agree_on_forms :
    (∀ (peer : PublicKey) (publicKey : Value),
      PublicKey.ofValue publicKey = .ok peer ↔ peer.IsGivenAs publicKey) ∧
    (∀ (own : PrivateKey) (privateKey : Value),
      PrivateKey.ofValue privateKey = .ok own ↔ own.IsGivenAs privateKey) ∧
    (∀ (peer : PublicKey) (own : PrivateKey)
      (publicKey otherPublic privateKey otherPrivate : Value),
      peer.IsGivenAs publicKey → peer.IsGivenAs otherPublic →
      own.IsGivenAs privateKey → own.IsGivenAs otherPrivate →
        PublicBox.ActsAlike publicKey privateKey otherPublic otherPrivate) ∧
    (∀ (own : PrivateKey) (privateKey otherPrivate : Value) (id secret : String),
      own.IsGivenAs privateKey → own.IsGivenAs otherPrivate →
        ∃ gateway, Gateway.create id secret privateKey = .ok gateway ∧
          Gateway.create id secret otherPrivate = .ok gateway ∧ gateway.ActsWith otherPrivate) := by
  refine ⟨?_, ?_, ?_, ?_⟩
  · intro peer publicKey
    exact PublicKey.ofValue_eq_ok_iff
  · intro own privateKey
    exact PrivateKey.ofValue_eq_ok_iff
  · intro peer own publicKey otherPublic privateKey otherPrivate isPeer isPeerToo isOwn isOwnToo
    apply PublicBox.actsAlike_of_ofValue_eq
    · rw [PublicKey.ofValue_eq_ok_iff.mpr isPeer, PublicKey.ofValue_eq_ok_iff.mpr isPeerToo]
    · rw [PrivateKey.ofValue_eq_ok_iff.mpr isOwn, PrivateKey.ofValue_eq_ok_iff.mpr isOwnToo]
  · intro own privateKey otherPrivate id secret isOwn isOwnToo
    have isRead := PrivateKey.ofValue_eq_ok_iff.mpr isOwn
    have isReadToo := PrivateKey.ofValue_eq_ok_iff.mpr isOwnToo
    refine ⟨⟨id, secret, own⟩, ?_, ?_, Gateway.actsWith_of_ofValue isReadToo⟩
    · rw [Gateway.create, isRead]
    · rw [Gateway.create, isReadToo]

/-- A private key whose digits have letters. -/
def letteredKey : PrivateKey := ⟨⟨List.replicate 32 171, rfl⟩⟩

/-- The digits of the key in both cases. -/
def letteredDigits : WideText :=
  WideText.ofString "aBAbaBAbaBAbaBAbaBAbaBAbaBAbaBAbaBAbaBAbaBAbaBAbaBAbaBAbaBAbaBAb"

/-- Digits of both cases and a public key of low order, with which no box can be prepared, act like
the ready forms of these keys, and a gateway made from the digits acts with the bytes. -/
theorem operations_agree_on_forms_of_letteredDigits :
    PublicBox.ActsAlike (.recipientKey ⟨Octets.zero 32⟩) (.text letteredDigits)
        (.buffer (List.replicate 32 0)) (.privateKey letteredKey) ∧
      ∃ gateway, Gateway.create "*TESTTST" "secreto" (.text letteredDigits) = .ok gateway ∧
        gateway.ActsWith (.octets (List.replicate 32 171)) := by
  obtain ⟨-, -, agree, areGateways⟩ := operations_agree_on_forms
  have areDigits : letteredKey.IsGivenAs (.text letteredDigits) :=
    .digits (WideText.spells_ofString_iff.mpr (by decide))
  have areZeros : PublicKey.IsGivenAs ⟨Octets.zero 32⟩ (.buffer (List.replicate 32 0)) := .buffer
  constructor
  · exact agree ⟨Octets.zero 32⟩ letteredKey _ _ _ _ .recipientKey areZeros areDigits .privateKey
  · have areBytes : letteredKey.IsGivenAs (.octets (List.replicate 32 171)) := .octets
    obtain ⟨gateway, isMade, -, actsWith⟩ :=
      areGateways letteredKey _ _ "*TESTTST" "secreto" areDigits areBytes
    exact ⟨gateway, isMade, actsWith⟩

end SealedGateway
