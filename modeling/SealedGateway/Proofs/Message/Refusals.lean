import SealedGateway.Gateway.Basic
import SealedGateway.Proofs.Message.Boxes
import SealedGateway.Proofs.Text.Wide
import SealedGateway.Proofs.Work.Faults

/-!
# How sending fails

A gateway that sends text or a descriptor to a recipient whose key has been read can fail for want
of entropy, or because the descriptor cannot be written.  The one documented error that is left is
that of keys which share no secret, and behind the drawn padding they are always refused.
-/

namespace SealedGateway

namespace MessageKind

/-- The number of a kind of message is a byte. -/
theorem toNumber_eq (kind : MessageKind) :
    (Value.messageKind kind).toNumber = .ok (UInt8.ofNat kind.code).toNat := by
  cases kind <;> rfl

end MessageKind

namespace Padding

variable {faults : Failure → Prop} (isFault : faults .entropyExhausted)

include isFault

theorem drawAmount_failsWith : drawAmount.FailsWith faults := by
  intro context failure failed
  rw [Work.perform, drawAmount] at failed
  split at failed
  · cases failed
  · cases failed
    exact isFault

/-- A payload with a kind of message is padded unless entropy is wanting. -/
theorem wrap_failsWith (payload : Bytes) (kind : MessageKind) :
    (wrap (.octets payload) (.messageKind kind)).FailsWith faults := by
  intro context failure failed
  rw [perform_wrap_of_byte _ kind.toNumber_eq] at failed
  exact ((drawAmount_failsWith isFault).bind fun _ =>
    (Work.FailsWith.ofExcept nofun).bind fun _ => .pure _) context failure failed

end Padding

namespace Gateway

/-- Whether the keys of a gateway and a recipient share no secret. -/
def SharesNoSecret (gateway : Gateway) (recipient : RecipientKey) : Prop :=
  PublicBox.sharedKey? gateway.privateKey.octets recipient.octets = none

/-- Whether sending to a recipient can fail in a way: it is none of the documented errors, or it is
the one of keys that share no secret. -/
def IsSendingFault (gateway : Gateway) (recipient : RecipientKey) (failure : Failure) : Prop :=
  failure.isReported = true → failure = .unusableKeys ∧ gateway.SharesNoSecret recipient

variable {gateway : Gateway} {recipient : RecipientKey}

theorem isSendingFault_of_not_isReported {failure : Failure}
    (isUnreported : failure.isReported = false) : gateway.IsSendingFault recipient failure := by
  intro isReported
  cases isUnreported.symm.trans isReported

/-- Keys that have been read are refused only if they share no secret. -/
theorem prepare_eq_error_iff {refusal failure : Failure} :
    PublicBox.prepare refusal (.recipientKey recipient) gateway.ownKey = .error failure ↔
      refusal = failure ∧ gateway.SharesNoSecret recipient := by
  have prepared : PublicBox.prepare refusal (.recipientKey recipient) gateway.ownKey =
      (PublicBox.sharedKey? gateway.privateKey.octets recipient.octets).elim (.error refusal) .ok :=
    rfl
  rw [prepared, SharesNoSecret]
  cases PublicBox.sharedKey? gateway.privateKey.octets recipient.octets <;> simp

/-- Sending a payload fails for want of entropy, or on keys that share no secret. -/
theorem send_failsWith (payload : Bytes) (kind : MessageKind) :
    (gateway.send (.octets payload) (.messageKind kind) (.recipientKey recipient)).FailsWith
      (gateway.IsSendingFault recipient) := by
  have isExhausted : gateway.IsSendingFault recipient .entropyExhausted := nofun
  refine .bind (.ofExcept ?_) fun number => .bind (.ofExcept nofun) fun length =>
    .bind (.record _ _ _) fun _ => .bind (Padding.wrap_failsWith isExhausted payload kind) ?_
  · rw [kind.toNumber_eq]
    nofun
  · intro padded
    refine .bind (.ofExcept ?_) fun key => .bind (.draw 24 isExhausted) fun nonce =>
      .bind (.ofExcept nofun) fun bytes => .pure _
    intro failure refused _
    obtain ⟨rfl, sharesNone⟩ := prepare_eq_error_iff.mp refused
    exact ⟨rfl, sharesNone⟩

theorem sendText_failsWith (text : String) :
    (gateway.sendText (Value.ofString text) (.recipientKey recipient)).FailsWith
      (gateway.IsSendingFault recipient) := by
  refine .bind (.ofExcept fun failure refused => ?_) fun payload => send_failsWith payload .text
  rw [Value.ofString] at refused
  simp only at refused
  split at refused
  · cases refused
  · cases refused
    exact isSendingFault_of_not_isReported rfl

theorem sendDescriptor_failsWith (descriptor : Descriptor) :
    (gateway.sendDescriptor descriptor (.recipientKey recipient)).FailsWith
      (gateway.IsSendingFault recipient) := by
  refine .bind (.ofExcept fun failure refused => ?_) fun payload => send_failsWith payload .file
  unfold Descriptor.toJson at refused
  split at refused
  · cases refused
    exact isSendingFault_of_not_isReported rfl
  · split at refused
    · cases refused
    · cases refused
      exact isSendingFault_of_not_isReported rfl

/-- Under keys that share no secret a payload is refused behind its padding. -/
theorem send_of_sharesNoSecret (sharesNone : gateway.SharesNoSecret recipient) (payload : Bytes)
    (kind : MessageKind) {context : Context}
    (hasAmount : Padding.amountOf? context.entropy.remaining ≠ none) :
    ((gateway.send (.octets payload) (.messageKind kind) (.recipientKey recipient)).perform
      context).1 = .error .unusableKeys := by
  obtain ⟨⟨amount, used⟩, given⟩ := Option.ne_none_iff_exists'.mp hasAmount
  obtain ⟨between, -, isSent⟩ : ∃ between, _ ∧ (Sending.send (.octets payload) (.messageKind kind)
      (.recipientKey recipient) gateway.ownKey).perform context = _ :=
    Sending.exists_perform_send kind.toNumber_eq rfl rfl given
  rw [send, isSent]
  simp only [Sending.sendRaw, Work.perform_bind, Work.perform_ofExcept,
    prepare_eq_error_iff.mpr ⟨rfl, sharesNone⟩]

/-- Under keys that share no secret a text is refused behind its padding. -/
theorem sendText_of_sharesNoSecret (sharesNone : gateway.SharesNoSecret recipient) (text : String)
    {context : Context} (hasAmount : Padding.amountOf? context.entropy.remaining ≠ none) :
    ((gateway.sendText (Value.ofString text) (.recipientKey recipient)).perform context).1 =
      .error .unusableKeys := by
  simp only [sendText, Sending.sendText, Value.ofString, Work.perform_bind,
    Work.perform_ofExcept, WideText.encode?_ofString]
  exact send_of_sharesNoSecret sharesNone _ .text hasAmount

/-- Under keys that share no secret a descriptor is refused behind its padding. -/
theorem sendDescriptor_of_sharesNoSecret (sharesNone : gateway.SharesNoSecret recipient)
    {descriptor : Descriptor} {payload : Bytes} (written : descriptor.toJson = .ok payload)
    {context : Context} (hasAmount : Padding.amountOf? context.entropy.remaining ≠ none) :
    ((gateway.sendDescriptor descriptor (.recipientKey recipient)).perform context).1 =
      .error .unusableKeys := by
  rw [sendDescriptor, Sending.sendDescriptor, written, Work.perform_bind, Work.perform_ofExcept]
  exact send_of_sharesNoSecret sharesNone payload .file hasAmount

end Gateway

namespace PlainFile

/-- Locking a file fails for want of entropy only. -/
theorem lockValues_failsWith (content : Bytes) :
    (lockValues (.octets content) .null).FailsWith (· = .entropyExhausted) :=
  .bind (.draw 32 rfl) fun _ => .bind (.ofExcept nofun) fun _ => .bind (.ofExcept nofun) fun _ =>
    .bind (.ofExcept nofun) fun _ => .bind (.record _ _ _) fun _ => .pure _

end PlainFile
end SealedGateway
