import SealedGateway.Message.Opening
import SealedGateway.Message.Sending
import SealedGateway.Proofs.Message.Padding

/-!
# What is in a box

A message that has been sent is the box of its padded form under the key of the two parties and the
nonce that travels with it, and opening the box gives the padded form back.
-/

namespace SealedGateway

namespace PublicBox

/-- The key of a box is the one that the two keys share; which failure refuses keys that share none
is without influence on it. -/
theorem prepare_eq_ok_iff {refusal : Failure} {publicKey privateKey : Value} {key : Octets 32} :
    prepare refusal publicKey privateKey = .ok key ↔
      ∃ own peer, PrivateKey.ofValue privateKey = .ok own ∧ PublicKey.ofValue publicKey = .ok peer ∧
        sharedKey? own.octets peer.octets = some key := by
  rw [prepare]
  cases PrivateKey.ofValue privateKey with
  | error fault => simp
  | ok own =>
    cases PublicKey.ofValue publicKey with
    | error fault => simp
    | ok peer =>
      simp only [Except.ok.injEq, exists_eq_left', exists_and_left]
      cases sharedKey? own.octets peer.octets with
      | none => simp
      | some sharedKey => simp

/-- The key of a box, or the refusal, depends only on what the two keys are read as. -/
theorem prepare_congr {publicKey privateKey otherPublic otherPrivate : Value}
    (samePublic : PublicKey.ofValue publicKey = PublicKey.ofValue otherPublic)
    (samePrivate : PrivateKey.ofValue privateKey = PrivateKey.ofValue otherPrivate)
    (refusal : Failure) :
    prepare refusal publicKey privateKey = prepare refusal otherPublic otherPrivate := by
  rw [prepare, prepare, samePublic, samePrivate]

end PublicBox

namespace Sending

variable {publicKey privateKey : Value} {context after : Context} {envelope : Envelope}

/-- Data that has been sent is in the box of its envelope. -/
theorem exists_key_of_sendRaw {data : Bytes}
    (sent : (sendRaw (.octets data) publicKey privateKey).perform context =
      (.ok envelope, after)) :
    ∃ key, PublicBox.prepare .unusableKeys publicKey privateKey = .ok key ∧
      envelope.box = SecretBox.lock key envelope.nonce data := by
  obtain ⟨key, _, prepared, sent⟩ := Work.perform_bind_eq_ok_iff.mp sent
  obtain ⟨nonce, _, _, sent⟩ := Work.perform_bind_eq_ok_iff.mp sent
  refine ⟨key, congrArg Prod.fst prepared, ?_⟩
  cases sent
  rfl

/-- A message that has been sent is in the box of its envelope, with its kind and some padding. -/
theorem exists_key_of_send {payload kind : Value} {number : UInt8} {bytes : Bytes}
    (kindIs : kind.toNumber = .ok number.toNat) (payloadIs : payload.toBytes = .ok bytes)
    (sent : (send payload kind publicKey privateKey).perform context = (.ok envelope, after)) :
    ∃ key amount, PublicBox.prepare .unusableKeys publicKey privateKey = .ok key ∧
      (1 ≤ amount ∧ amount ≤ 255) ∧
      envelope.box = SecretBox.lock key envelope.nonce (Padding.padded number bytes amount) := by
  obtain ⟨_, _, _, sent⟩ := Work.perform_bind_eq_ok_iff.mp sent
  obtain ⟨_, _, _, sent⟩ := Work.perform_bind_eq_ok_iff.mp sent
  obtain ⟨_, _, _, sent⟩ := Work.perform_bind_eq_ok_iff.mp sent
  obtain ⟨content, _, wrapped, sent⟩ := Work.perform_bind_eq_ok_iff.mp sent
  obtain ⟨amount, bounds, rfl⟩ := Padding.eq_padded_of_wrap kindIs payloadIs wrapped
  obtain ⟨key, prepared, boxIs⟩ := exists_key_of_sendRaw sent
  exact ⟨key, amount, prepared, bounds, boxIs⟩

/-- A text that has been sent has been sent as its UTF-8 with the kind of texts. -/
theorem send_of_sendText {text : WideText}
    (sent : (sendText (.text text) publicKey privateKey).perform context =
      (.ok envelope, after)) :
    ∃ bytes, text.encode? = some bytes ∧
      (send (.octets bytes) (.messageKind .text) publicKey privateKey).perform context =
        (.ok envelope, after) := by
  rw [sendText] at sent
  cases encoded : text.encode? with
  | none =>
    rw [encoded, Work.perform_bind, Work.perform_ofExcept] at sent
    cases sent
  | some bytes =>
    rw [encoded, Work.perform_bind, Work.perform_ofExcept] at sent
    exact ⟨bytes, rfl, sent⟩

/-- Keys that can be used lock the data under the nonce that is drawn. -/
theorem perform_sendRaw_of_draw? {key : Octets 32} {nonce : Octets 24} {entropy : Entropy}
    (prepared : PublicBox.prepare .unusableKeys publicKey privateKey = .ok key)
    (drawn : context.entropy.draw? 24 = some (nonce, entropy)) (data : Bytes) :
    (sendRaw (.octets data) publicKey privateKey).perform context =
      (.ok ⟨SecretBox.lock key nonce data, nonce⟩, { context with entropy }) := by
  rw [sendRaw, Work.perform_bind, prepared, Work.perform_ofExcept]
  simp only [Work.perform_bind, Work.perform_draw_of_draw? drawn]
  rfl

/-- Data is sent whenever the keys can be used and the entropy gives a nonce. -/
theorem exists_envelope_of_sendRaw {data : Bytes} {key : Octets 32}
    (prepared : PublicBox.prepare .unusableKeys publicKey privateKey = .ok key)
    (hasNonce : 24 ≤ context.entropy.remaining.length) :
    ∃ envelope after, (sendRaw (.octets data) publicKey privateKey).perform context =
      (.ok envelope, after) := by
  have isLong : context.entropy.draw? 24 ≠ none := by
    rw [Ne, Entropy.draw?_eq_none_iff]
    omega
  obtain ⟨⟨nonce, entropy⟩, drawn⟩ := Option.ne_none_iff_exists'.mp isLong
  exact ⟨_, _, perform_sendRaw_of_draw? prepared drawn data⟩

/-- A message is sent as its padded form, with the entropy behind the amount of padding. -/
theorem exists_perform_send {payload kind : Value} {number : UInt8} {bytes : Bytes}
    (kindIs : kind.toNumber = .ok number.toNat) (payloadIs : payload.toBytes = .ok bytes)
    {length : Nat} (lengthIs : payload.length = .ok length) {amount used : Nat}
    (given : Padding.amountOf? context.entropy.remaining = some (amount, used)) :
    ∃ between, between.entropy = context.entropy.skip used ∧
      (send payload kind publicKey privateKey).perform context =
        (sendRaw (.octets (Padding.padded number bytes amount)) publicKey privateKey).perform
          between := by
  have kept (record : LogRecord) :
      (if context.thresholds.admits record then { context with log := context.log ++ [record] }
        else context).entropy = context.entropy := by
    split <;> rfl
  rw [send, kindIs, lengthIs]
  simp only [Work.perform_bind, Work.perform_ofExcept, Work.perform_record]
  rw [Padding.perform_wrap kindIs payloadIs (by rw [kept]; exact given)]
  exact ⟨_, by rw [kept], rfl⟩

/-- A message is sent whenever the keys can be used and the entropy gives an amount of padding and a
nonce. -/
theorem exists_envelope_of_send {payload kind : Value} {number : UInt8} {bytes : Bytes}
    (kindIs : kind.toNumber = .ok number.toNat) (payloadIs : payload.toBytes = .ok bytes)
    {length : Nat} (lengthIs : payload.length = .ok length) {key : Octets 32}
    (prepared : PublicBox.prepare .unusableKeys publicKey privateKey = .ok key)
    {amount used : Nat}
    (given : Padding.amountOf? context.entropy.remaining = some (amount, used))
    (hasNonce : used + 24 ≤ context.entropy.remaining.length) :
    ∃ envelope after, (send payload kind publicKey privateKey).perform context =
      (.ok envelope, after) := by
  obtain ⟨between, entropyIs, isSent⟩ := exists_perform_send kindIs payloadIs lengthIs given
  rw [isSent]
  apply exists_envelope_of_sendRaw prepared
  rw [entropyIs, Entropy.skip, List.length_drop]
  omega

end Sending

namespace Opening

/-- With a nonce of the right length, what a box holds is decided by the key that the two keys
give. -/
theorem openBox_octets (box : Bytes) (nonce : Octets 24) (publicKey privateKey : Value) :
    openBox (.octets box) (.octets nonce.toList) publicKey privateKey =
      (PublicBox.prepare (.cannotOpen .unusableKeys) publicKey privateKey).bind fun key =>
        (SecretBox.unlock? key nonce box).elim (.error (.cannotOpen .envelope)) .ok := by
  have lengthIs : (Value.octets nonce.toList).length = .ok 24 := by
    rw [Value.length, Value.length?, nonce.length_toList]
  rw [openBox, openBoxIn, lengthIs]
  simp only [MonadExcept.ofExcept, pure_bind, ne_eq, not_true_eq_false, if_false, Value.toBytes,
    Octets.ofList?_toList]
  cases PublicBox.prepare (.cannotOpen .unusableKeys) publicKey privateKey with
  | error failure => rfl
  | ok key =>
    simp only [pure_bind, Except.bind]
    cases SecretBox.unlock? key nonce box <;> rfl

/-- In a run a box is opened without an effect. -/
theorem perform_openBoxIn (box nonce publicKey privateKey : Value) (context : Context) :
    Work.perform (openBoxIn box nonce publicKey privateKey) context =
      (openBox box nonce publicKey privateKey, context) := by
  refine Work.perform_step_bind fun nonceLength => ?_
  split
  · rfl
  refine Work.perform_step_bind fun sharedKey => ?_
  refine Work.perform_step_bind fun boxBytes => ?_
  refine Work.perform_step_bind fun nonceBytes => ?_
  cases Octets.ofList? 24 nonceBytes with
  | none => rfl
  | some nonce =>
    dsimp only
    cases SecretBox.unlock? sharedKey nonce boxBytes <;> rfl

/-- A message is opened by opening its box and checking the padding in it. -/
theorem openMessage_eq (box nonce publicKey privateKey : Value) :
    openMessage box nonce publicKey privateKey =
      (openBox box nonce publicKey privateKey).bind fun content =>
        (Padding.unwrap content).mapError .badPadding := by
  rw [openMessage, openMessageIn, openBox]
  congr 1
  funext content
  cases Padding.unwrap content <;> rfl

/-- A box opens alike with all keys that are read alike. -/
theorem openBox_congr {publicKey privateKey otherPublic otherPrivate : Value}
    (samePublic : PublicKey.ofValue publicKey = PublicKey.ofValue otherPublic)
    (samePrivate : PrivateKey.ofValue privateKey = PrivateKey.ofValue otherPrivate)
    (box nonce : Value) :
    openBox box nonce publicKey privateKey = openBox box nonce otherPublic otherPrivate := by
  unfold openBox openBoxIn
  rw [PublicBox.prepare_congr samePublic samePrivate]

/-- What has been locked under the key of the two parties opens again. -/
theorem openBox_lock {publicKey privateKey : Value} {key : Octets 32}
    (prepared : PublicBox.prepare (.cannotOpen .unusableKeys) publicKey privateKey = .ok key)
    (nonce : Octets 24) (content : Bytes) :
    openBox (.octets (SecretBox.lock key nonce content)) (.octets nonce.toList) publicKey
      privateKey = .ok content := by
  have opened : SecretBox.unlock? key nonce (SecretBox.lock key nonce content) = some content :=
    SecretBox.unlock?_eq_some_iff.mpr rfl
  rw [openBox_octets, prepared, Except.bind, opened]
  rfl

/-- What has been locked under the key of the two parties with full padding opens to its kind and
its payload. -/
theorem openMessage_lock {publicKey privateKey : Value} {key : Octets 32}
    (prepared : PublicBox.prepare (.cannotOpen .unusableKeys) publicKey privateKey = .ok key)
    (nonce : Octets 24) (kind : UInt8) (payload : Bytes) {amount : Nat}
    (bounds : 1 ≤ amount ∧ amount ≤ 255) :
    openMessage (.octets (SecretBox.lock key nonce (Padding.padded kind payload amount)))
      (.octets nonce.toList) publicKey privateKey = .ok (kind, payload) := by
  rw [openMessage_eq, openBox_lock prepared, Except.bind,
    Padding.unwrap_padded kind payload bounds.1 bounds.2]
  rfl

end Opening
end SealedGateway
