import SealedGateway.Gateway.Basic
import SealedGateway.Proofs.Key.Reading
import SealedGateway.Proofs.Message.Boxes

/-!
# What opens an incoming message

The box of a message from outside opens with thirty-two bytes as the key of the sender, if the key
that these share with the own key unlocks it and the padding in it has a possible length.
Everything else is a documented error.
-/

namespace SealedGateway

/-- What is left of a buffer is never empty. -/
theorem Padding.ne_nil_of_strip {buffer stripped : Bytes} (accepted : strip buffer = .ok stripped) :
    stripped ≠ [] := by
  rw [strip] at accepted
  split at accepted
  · cases accepted
  · dsimp only at accepted
    split at accepted
    · cases accepted
    · next last _ isPossible =>
      cases accepted
      rw [← List.length_pos_iff, List.length_take]
      omega

/-- A byte string is a public key exactly if it has thirty-two bytes. -/
theorem PublicKey.ofValue_octets_eq_ok_iff {bytes : Bytes} {key : PublicKey} :
    PublicKey.ofValue (.octets bytes) = .ok key ↔ key.octets.toList = bytes := by
  rw [ofValue_eq_ok_iff]
  constructor
  · rintro ⟨⟩
    rfl
  · rintro rfl
    exact .octets

/-- Keys are refused as keys, or as the caller says. -/
theorem PublicBox.eq_of_prepare_error {refusal failure : Failure} {publicKey privateKey : Value}
    (refused : prepare refusal publicKey privateKey = .error failure) :
    failure = refusal ∨ ∃ fault, failure = .badKey fault := by
  rw [prepare] at refused
  split at refused
  · cases refused
    exact .inr ⟨_, rfl⟩
  · split at refused
    · cases refused
      exact .inr ⟨_, rfl⟩
    · next own _ _ peer _ =>
      cases shared : sharedKey? own.octets peer.octets with
      | none =>
        rw [shared] at refused
        cases refused
        exact .inl rfl
      | some key =>
        rw [shared] at refused
        cases refused

/-- What can keep a message from being opened: a key, the box or the padding. -/
inductive IsOpeningFailure : Failure → Prop
  | key (fault : KeyFault) : IsOpeningFailure (.badKey fault)
  | box (fault : OpeningFault) : IsOpeningFailure (.cannotOpen fault)
  | padding (fault : PaddingFault) : IsOpeningFailure (.badPadding fault)

theorem IsOpeningFailure.isReported {failure : Failure}
    (isOpeningFailure : IsOpeningFailure failure) : failure.isReported = true := by
  cases isOpeningFailure <;> rfl

namespace Incoming

variable {message : Incoming} {senderKey opened : Bytes} {own : PrivateKey}

/-- Whether the bytes of a key of the sender and a private key open the box of a message, and what
is in it. -/
def OpensAs (message : Incoming) (senderKey : Bytes) (own : PrivateKey) (opened : Bytes) : Prop :=
  ∃ (peer sharedKey : Octets 32) (content : Bytes), peer.toList = senderKey ∧
    PublicBox.sharedKey? own.octets peer = some sharedKey ∧
    SecretBox.unlock? sharedKey message.nonce message.box = some content ∧
    Padding.strip content = .ok opened

theorem openBox_eq (message : Incoming) (publicKey privateKey : Value) :
    message.openBox publicKey privateKey =
      (Opening.openBox (.octets message.box) (.octets message.nonce.toList) publicKey
        privateKey).bind fun content => (Padding.strip content).mapError .badPadding := by
  rw [openBox, openBoxIn, Opening.openBox]
  congr 1
  funext content
  cases Padding.strip content <;> rfl

/-- In a run the box of a message is opened without an effect. -/
theorem perform_openBoxIn (message : Incoming) (publicKey privateKey : Value) (context : Context) :
    Work.perform (message.openBoxIn publicKey privateKey) context =
      (message.openBox publicKey privateKey, context) := by
  rw [openBox_eq, openBoxIn, Work.perform_bind, Opening.perform_openBoxIn]
  cases Opening.openBox (.octets message.box) (.octets message.nonce.toList) publicKey
      privateKey with
  | error failure => rfl
  | ok content =>
    simp only [Except.bind]
    cases Padding.strip content <;> rfl

/-- With any keys, what the box of a message holds is stripped of its padding, or a key, the box or
the padding is in the way. -/
theorem openBox_stages (message : Incoming) (publicKey privateKey : Value) :
    (∃ sharedKey content opened,
      PublicBox.prepare (.cannotOpen .unusableKeys) publicKey privateKey = .ok sharedKey ∧
        SecretBox.unlock? sharedKey message.nonce message.box = some content ∧
        Padding.strip content = .ok opened ∧
        message.openBox publicKey privateKey = .ok opened) ∨
    ∃ failure, message.openBox publicKey privateKey = .error failure ∧
      IsOpeningFailure failure := by
  rw [openBox_eq, Opening.openBox_octets]
  cases prepared : PublicBox.prepare (.cannotOpen .unusableKeys) publicKey privateKey with
  | error failure =>
    refine .inr ⟨failure, rfl, ?_⟩
    rcases PublicBox.eq_of_prepare_error prepared with rfl | ⟨fault, rfl⟩
    · exact .box .unusableKeys
    · exact .key fault
  | ok sharedKey =>
    cases unlocked : SecretBox.unlock? sharedKey message.nonce message.box with
    | none =>
      rw [Except.bind, unlocked]
      exact .inr ⟨_, rfl, .box .envelope⟩
    | some content =>
      rw [Except.bind, unlocked, Option.elim_some, Except.bind]
      cases stripped : Padding.strip content with
      | error fault => exact .inr ⟨_, rfl, .padding fault⟩
      | ok opened => exact .inl ⟨sharedKey, content, opened, rfl, unlocked, stripped, rfl⟩

/-- A message is opened by keys that open it, and everything else is a documented error. -/
theorem openBox_cases (message : Incoming) (senderKey : Bytes) (own : PrivateKey) :
    (∃ opened, message.openBox (.octets senderKey) (.privateKey own) = .ok opened ∧
      message.OpensAs senderKey own opened) ∨
    ∃ failure, message.openBox (.octets senderKey) (.privateKey own) = .error failure ∧
      failure.isReported = true := by
  rcases message.openBox_stages (.octets senderKey) (.privateKey own) with
    ⟨sharedKey, content, opened, prepared, unlocked, stripped, isOpen⟩ |
      ⟨failure, refused, isOpeningFailure⟩
  · obtain ⟨_, peer, ⟨⟩, isPeer, isShared⟩ := PublicBox.prepare_eq_ok_iff.mp prepared
    exact .inl ⟨opened, isOpen, peer.octets, sharedKey, content,
      PublicKey.ofValue_octets_eq_ok_iff.mp isPeer, isShared, unlocked, stripped⟩
  · exact .inr ⟨failure, refused, isOpeningFailure.isReported⟩

theorem openBox_of_opensAs (opens : message.OpensAs senderKey own opened) :
    message.openBox (.octets senderKey) (.privateKey own) = .ok opened := by
  obtain ⟨peer, sharedKey, content, peerIs, isShared, isUnlocked, isStripped⟩ := opens
  have prepared : PublicBox.prepare (.cannotOpen .unusableKeys) (.octets senderKey)
      (.privateKey own) = .ok sharedKey :=
    PublicBox.prepare_eq_ok_iff.mpr
      ⟨own, ⟨peer⟩, rfl, PublicKey.ofValue_octets_eq_ok_iff.mpr peerIs, isShared⟩
  rw [openBox_eq, Opening.openBox_octets, prepared, Except.bind, isUnlocked, Option.elim_some,
    Except.bind, isStripped]
  rfl

/-- A box holds one content at most. -/
theorem OpensAs.unique {other : Bytes} (opens : message.OpensAs senderKey own opened)
    (opensOther : message.OpensAs senderKey own other) : opened = other :=
  Except.ok.inj ((openBox_of_opensAs opens).symm.trans (openBox_of_opensAs opensOther))

end Incoming

namespace Gateway

section Openings

variable {gateway : Gateway} {message : Incoming} {sender : Value}

/-- A gateway parts what it finds in a box, and draws nothing for it. -/
theorem openIncoming_of_openBox {kind : UInt8} {payload : Bytes}
    (opened : message.openBox sender gateway.ownKey = .ok (kind :: payload)) (context : Context) :
    ((gateway.openIncoming message sender).perform context).1 = .ok (kind, payload) ∧
      ((gateway.openIncoming message sender).perform context).2.entropy = context.entropy := by
  rw [openIncoming, Work.perform_bind, Incoming.perform_openBoxIn, opened]
  simp only [Work.perform_bind, Work.perform_record]
  refine ⟨rfl, ?_⟩
  split <;> rfl

/-- A gateway does nothing with a box that does not open. -/
theorem openIncoming_of_refused {failure : Failure}
    (refused : message.openBox sender gateway.ownKey = .error failure) (context : Context) :
    (gateway.openIncoming message sender).perform context = (.error failure, context) := by
  rw [openIncoming, Work.perform_bind, Incoming.perform_openBoxIn, refused]

end Openings

/-- A gateway gives the kind and the payload in a box that the keys open, and everything else is a
documented error. -/
theorem openIncoming_cases (gateway : Gateway) (message : Incoming) (senderKey : Bytes)
    (context : Context) :
    (∃ kind payload, ((gateway.openIncoming message (.octets senderKey)).perform context).1 =
        .ok (kind, payload) ∧ message.OpensAs senderKey gateway.privateKey (kind :: payload)) ∨
    ∃ failure, ((gateway.openIncoming message (.octets senderKey)).perform context).1 =
        .error failure ∧ failure.isReported = true ∧
      ∀ opened, ¬ message.OpensAs senderKey gateway.privateKey opened := by
  rcases message.openBox_cases senderKey gateway.privateKey with
    ⟨opened, isOpen, opens⟩ | ⟨failure, refused, isReported⟩
  · have ⟨_, _, content, _, _, _, isStripped⟩ := opens
    obtain ⟨kind, payload, rfl⟩ := List.exists_cons_of_ne_nil (Padding.ne_nil_of_strip isStripped)
    exact .inl ⟨kind, payload, (openIncoming_of_openBox isOpen context).1, opens⟩
  · refine .inr ⟨failure, ?_, isReported, fun opened opens => ?_⟩
    · rw [openIncoming_of_refused refused]
    · cases refused.symm.trans (Incoming.openBox_of_opensAs opens)

end Gateway
end SealedGateway
