import SealedGateway.Proofs.Message.PaddedForm
import SealedGateway.Proofs.Message.Reopening
import SealedGateway.Proofs.Webhook.Opened
import SealedGateway.Proofs.Work.Outcomes

/-!
# The check of the length

Messages from outside have only the length of their padding checked.  That check accepts whatever
the full check accepts, with the same result, and it leaves at least one byte.  So a gateway always
finds a kind in a message that it opens, and it opens every message that passes the full check.
-/

namespace SealedGateway
namespace Padding

variable {buffer stripped payload : Bytes} {kind last : UInt8} {value : Value}

/-- The last byte of a buffer is an amount of padding that leaves at least one byte. -/
structure IsMeasured (buffer : Bytes) (last : UInt8) : Prop where
  getLast?_eq : buffer.getLast? = some last
  isPositive : 1 ≤ last.toNat
  isShort : last.toNat < buffer.length

/-- The check of the length takes the last byte at its word. -/
theorem strip_eq_ok_iff :
    strip buffer = .ok stripped ↔
      ∃ last, IsMeasured buffer last ∧ stripped = buffer.take (buffer.length - last.toNat) := by
  constructor
  · intro accepted
    unfold strip at accepted
    split at accepted
    · cases accepted
    next last isLast =>
    dsimp only at accepted
    split at accepted
    · cases accepted
    next isPossible =>
    cases accepted
    exact ⟨last, ⟨isLast, by omega, by omega⟩, rfl⟩
  · rintro ⟨last, ⟨isLast, isPositive, isShort⟩, rfl⟩
    rw [strip, isLast]
    exact if_neg (by omega)

/-- What passes the full check passes the check of the length. -/
theorem strip_of_unwrap (accepted : unwrap buffer = .ok (kind, payload)) :
    strip buffer = .ok (kind :: payload) := by
  obtain ⟨amount, isPadded⟩ := exists_isPadded_of_unwrap accepted
  rw [isPadded.buffer_eq]
  exact strip_padded kind payload isPadded.isPositive isPadded.isSmall

/-- The bytes that the last byte counts, all of them equal to it, make a padded form. -/
theorem IsMeasured.exists_isPadded (isMeasured : IsMeasured buffer last)
    (areSame : ∀ byte ∈ buffer.drop (buffer.length - last.toNat), byte = last) :
    ∃ kind payload, IsPadded buffer kind payload last.toNat := by
  have isShort := isMeasured.isShort
  have isByte := last.toNat_lt
  have paddingIs : buffer.drop (buffer.length - last.toNat) = List.replicate last.toNat last := by
    rw [List.eq_replicate_iff, List.length_drop]
    exact ⟨by omega, areSame⟩
  have isLong : 0 < (buffer.take (buffer.length - last.toNat)).length := by
    rw [List.length_take]
    omega
  obtain ⟨kind, payload, contentIs⟩ := List.exists_cons_of_length_pos isLong
  refine ⟨kind, payload, isMeasured.isPositive, by omega, ?_⟩
  calc buffer
      = buffer.take (buffer.length - last.toNat) ++ buffer.drop (buffer.length - last.toNat) := by
        rw [List.take_append_drop]
    _ = padded kind payload last.toNat := by
        rw [contentIs, paddingIs, padded, UInt8.ofNat_toNat]

/-- Where only the length is right, a byte of the padding differs from the last one. -/
theorem IsMeasured.exists_other_byte (isMeasured : IsMeasured buffer last)
    (isRefused : ∀ kind payload, unwrap buffer ≠ .ok (kind, payload)) :
    ∃ byte ∈ buffer.drop (buffer.length - last.toNat), byte ≠ last := by
  apply Classical.byContradiction
  intro noOther
  have areSame : ∀ byte ∈ buffer.drop (buffer.length - last.toNat), byte = last := by
    intro byte isMember
    apply Classical.byContradiction
    intro isOther
    exact noOther ⟨byte, isMember, isOther⟩
  obtain ⟨kind, payload, isPadded⟩ := isMeasured.exists_isPadded areSame
  exact isRefused kind payload isPadded.unwrap_eq

/-! ## Loosely typed buffers -/

theorem stripValue_eq (value : Value) :
    stripValue value =
      readBuffer value >>= fun buffer => (strip buffer).mapError .badPadding := by
  rw [stripValue]
  apply bind_congr
  intro buffer
  cases strip buffer <;> rfl

theorem stripValue_of_byteString? (isBytes : value.byteString? = some buffer) :
    stripValue value = (strip buffer).mapError .badPadding := by
  rw [stripValue_eq, readBuffer_of_byteString? isBytes]
  rfl

theorem stripValue_eq_ok_iff (isBytes : value.byteString? = some buffer) :
    stripValue value = .ok stripped ↔ strip buffer = .ok stripped := by
  rw [stripValue_of_byteString? isBytes, Outcome.mapError_eq_ok_iff]

/-- What passes the full check passes the check of the length, with the kind in front of the
payload. -/
theorem stripValue_of_unwrapValue (accepted : unwrapValue value = .ok (kind, payload)) :
    stripValue value = .ok (kind :: payload) := by
  rw [unwrapValue_eq] at accepted
  obtain ⟨buffer, isRead, unwrapped⟩ := Outcome.bind_eq_ok_iff.mp accepted
  rw [Outcome.mapError_eq_ok_iff] at unwrapped
  rw [stripValue_eq, Outcome.bind_eq_ok_iff]
  refine ⟨buffer, isRead, ?_⟩
  rw [Outcome.mapError_eq_ok_iff]
  exact strip_of_unwrap unwrapped

theorem exists_fault_of_not_isMeasured (isBytes : value.byteString? = some buffer)
    (isOther : ¬ ∃ last, IsMeasured buffer last) :
    ∃ fault, stripValue value = .error (.badPadding fault) := by
  rw [stripValue_of_byteString? isBytes]
  cases isStripped : strip buffer with
  | ok stripped =>
    obtain ⟨last, isMeasured, -⟩ := strip_eq_ok_iff.mp isStripped
    exact absurd ⟨last, isMeasured⟩ isOther
  | error fault => exact ⟨fault, rfl⟩

end Padding

namespace Opening

variable {box nonce publicKey privateKey : Value} {kind : UInt8} {payload : Bytes}

/-- A message that is opened is in the box, and passes the full check. -/
theorem exists_content_of_openMessage
    (opened : openMessage box nonce publicKey privateKey = .ok (kind, payload)) :
    ∃ content, openBox box nonce publicKey privateKey = .ok content ∧
      Padding.unwrap content = .ok (kind, payload) := by
  rw [openMessage_eq] at opened
  obtain ⟨content, isOpen, unwrapped⟩ := Outcome.bind_eq_ok_iff.mp opened
  exact ⟨content, isOpen, Outcome.mapError_eq_ok_iff.mp unwrapped⟩

end Opening

namespace Gateway

variable {gateway : Gateway} {message : Incoming} {sender : Value} {kind : UInt8}
  {payload : Bytes}

/-- A gateway finds a kind in each message that it opens. -/
theorem openIncoming_outcomes (gateway : Gateway) (message : Incoming) (sender : Value)
    (context : Context) :
    (∃ kind payload,
      ((gateway.openIncoming message sender).perform context).1 = .ok (kind, payload)) ∨
    ∃ failure, ((gateway.openIncoming message sender).perform context).1 = .error failure ∧
      IsOpeningFailure failure := by
  rcases message.openBox_stages sender gateway.ownKey with
    ⟨_, content, opened, -, -, stripped, isOpen⟩ | ⟨failure, refused, isOpeningFailure⟩
  · obtain ⟨kind, payload, rfl⟩ := List.exists_cons_of_ne_nil (Padding.ne_nil_of_strip stripped)
    exact .inl ⟨kind, payload, (openIncoming_of_openBox isOpen context).1⟩
  · refine .inr ⟨failure, ?_, isOpeningFailure⟩
    rw [openIncoming_of_refused refused]

/-- A gateway opens each message that the full check lets through, whichever way its private key is
spelled there. -/
theorem openIncoming_of_openMessage {privateKey : Value}
    (isOwn : PrivateKey.ofValue privateKey = .ok gateway.privateKey)
    (opened : Opening.openMessage (.octets message.box) (.octets message.nonce.toList) sender
      privateKey = .ok (kind, payload)) (context : Context) :
    ((gateway.openIncoming message sender).perform context).1 = .ok (kind, payload) := by
  obtain ⟨content, isOpen, unwrapped⟩ := Opening.exists_content_of_openMessage opened
  have sameKey : PrivateKey.ofValue gateway.ownKey = PrivateKey.ofValue privateKey := isOwn.symm
  have isOpenWithOwn : Opening.openBox (.octets message.box) (.octets message.nonce.toList) sender
      gateway.ownKey = .ok content := by
    rw [← isOpen]
    exact Opening.openBox_congr rfl sameKey _ _
  have isStripped : message.openBox sender gateway.ownKey = .ok (kind :: payload) := by
    rw [Incoming.openBox_eq, isOpenWithOwn, Except.bind, Padding.strip_of_unwrap unwrapped]
    rfl
  exact (openIncoming_of_openBox isStripped context).1

end Gateway

namespace Padding

/-- The check of the length takes exactly the byte strings whose last byte is at least one and less
than their length, and gives what stands before that many bytes, which is never empty; everything
else is refused for its padding.  It agrees with the full check wherever that one succeeds, and
where only it succeeds a byte of the padding differs from the last one.  So a gateway that opens a
message gives a kind and a payload or fails for a key, the box or the padding, and it gives what the
full check of the same box gives. -/
theorem lengthCheck_agrees :
    (∀ value buffer, value.byteString? = some buffer →
      (∀ stripped, stripValue value = .ok stripped ↔
        ∃ last, IsMeasured buffer last ∧
          stripped = buffer.take (buffer.length - last.toNat)) ∧
      (∀ stripped, stripValue value = .ok stripped → 1 ≤ stripped.length) ∧
      ((¬ ∃ last, IsMeasured buffer last) →
        ∃ fault, stripValue value = .error (.badPadding fault)) ∧
      (∀ last, IsMeasured buffer last →
        (∀ kind payload, unwrapValue value ≠ .ok (kind, payload)) →
          ∃ byte ∈ buffer.drop (buffer.length - last.toNat), byte ≠ last)) ∧
    (∀ value kind payload, unwrapValue value = .ok (kind, payload) →
      stripValue value = .ok (kind :: payload)) ∧
    (∀ (gateway : Gateway) (message : Incoming) (sender : Value) (context : Context),
      (∃ kind payload,
        ((gateway.openIncoming message sender).perform context).1 = .ok (kind, payload)) ∨
      ∃ failure, ((gateway.openIncoming message sender).perform context).1 = .error failure ∧
        IsOpeningFailure failure) ∧
    (∀ (gateway : Gateway) (message : Incoming) (sender privateKey : Value) (context : Context)
      (kind : UInt8) (payload : Bytes),
      PrivateKey.ofValue privateKey = .ok gateway.privateKey →
      Opening.openMessage (.octets message.box) (.octets message.nonce.toList) sender privateKey =
        .ok (kind, payload) →
      ((gateway.openIncoming message sender).perform context).1 = .ok (kind, payload)) := by
  refine ⟨?_, ?_, ?_, ?_⟩
  · intro value buffer isBytes
    refine ⟨?_, ?_, exists_fault_of_not_isMeasured isBytes, ?_⟩
    · intro stripped
      rw [stripValue_eq_ok_iff isBytes, strip_eq_ok_iff]
    · intro stripped accepted
      apply List.length_pos_iff.mpr
      exact ne_nil_of_strip ((stripValue_eq_ok_iff isBytes).mp accepted)
    · intro last isMeasured isRefused
      apply isMeasured.exists_other_byte
      intro kind payload unwrapped
      apply isRefused kind payload
      rw [unwrapValue_eq_ok_iff isBytes, ← unwrap_eq_ok_iff]
      exact unwrapped
  · intro value kind payload accepted
    exact stripValue_of_unwrapValue accepted
  · intro gateway message sender context
    exact gateway.openIncoming_outcomes message sender context
  · intro gateway message sender privateKey context kind payload isOwn opened
    exact Gateway.openIncoming_of_openMessage isOwn opened context

/-- A buffer that ends with two bytes of padding, one of which is not two. -/
def looselyPadded : Bytes := [1, 9, 3, 2]

/-- A gateway with a private key that can be used with the base point. -/
def plainGateway : Gateway :=
  ⟨"ECHOECHO", "otro secreto", ⟨Octets.ofPadded 32 Opening.plainKey⟩⟩

/-- A message that says hello in a box under a key. -/
def sealedGreeting (key : Octets 32) : Incoming where
  sender := "*TESTTST"
  recipient := "ECHOECHO"
  messageId := "mensaje 1"
  date := 0
  nonce := Octets.zero 24
  box := SecretBox.lock key (Octets.zero 24) (padded 1 [104, 111, 108, 97] 3)
  mac := ""
  nickname := none

/-- Loose padding passes the check of the length alone, and a message that the full check lets
through is opened by the gateway. -/
theorem lengthCheck_agrees_of_looselyPadded :
    stripValue (.octets looselyPadded) = .ok [1, 9] ∧
      (∃ byte ∈ looselyPadded.drop 2, byte ≠ 2) ∧
      ∃ message : Incoming,
        Opening.openMessage (.octets message.box) (.octets message.nonce.toList)
          (.publicKey Opening.basePoint) (.octets Opening.plainKey) =
            .ok (1, [104, 111, 108, 97]) ∧
        ((plainGateway.openIncoming message (.publicKey Opening.basePoint)).perform
          (Context.initial [])).1 = .ok (1, [104, 111, 108, 97]) := by
  obtain ⟨ofBytes, -, -, ofMessages⟩ := lengthCheck_agrees
  obtain ⟨accepts, -, -, differs⟩ := ofBytes (.octets looselyPadded) looselyPadded rfl
  have isMeasured : IsMeasured looselyPadded 2 := ⟨rfl, by decide, by decide⟩
  refine ⟨(accepts [1, 9]).mpr ⟨2, isMeasured, rfl⟩, ?_, ?_⟩
  · apply differs 2 isMeasured
    intro kind payload accepted
    cases accepted
  · obtain ⟨key, prepared⟩ := Opening.canPrepare_plainKey.exists_key
    have opened : Opening.openMessage (.octets (sealedGreeting key).box)
        (.octets (sealedGreeting key).nonce.toList) (.publicKey Opening.basePoint)
        (.octets Opening.plainKey) = .ok (1, [104, 111, 108, 97]) :=
      Opening.openMessage_lock (prepared _) (Octets.zero 24) 1 [104, 111, 108, 97] (by decide)
    exact ⟨sealedGreeting key, opened, ofMessages plainGateway (sealedGreeting key) _ _ _ 1 _ rfl
      opened⟩

end Padding
end SealedGateway
