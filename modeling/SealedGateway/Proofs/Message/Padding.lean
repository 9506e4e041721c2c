import SealedGateway.Message.Padding

/-!
# Padding comes off again

The amount of padding is drawn between one and 255, so that its byte says how much there is, and the
check of the length takes off what was put on whatever the payload ends with.
-/

namespace SealedGateway
namespace Padding

/-- The amount that a stream gives is between one and 255. -/
theorem bounds_of_amountOf? {stream : Bytes} {amount used : Nat}
    (given : amountOf? stream = some (amount, used)) :
    1 ≤ amount ∧ amount ≤ 255 := by
  induction stream generalizing used with
  | nil => cases given
  | cons byte rest ih =>
    rw [amountOf?] at given
    split at given
    · next isSmall =>
      cases given
      omega
    · obtain ⟨⟨restAmount, restUsed⟩, restGiven, same⟩ := Option.map_eq_some_iff.mp given
      cases same
      exact ih restGiven

/-- A drawn amount is between one and 255. -/
theorem bounds_of_drawAmount {context after : Context} {amount : Nat}
    (drawn : drawAmount.perform context = (.ok amount, after)) :
    1 ≤ amount ∧ amount ≤ 255 := by
  rw [Work.perform, drawAmount] at drawn
  split at drawn
  · next restAmount used given =>
    cases drawn
    exact bounds_of_amountOf? given
  · cases drawn

/-- A kind that is a byte passes the check, and what is left is the draw and the payload. -/
theorem perform_wrap_of_byte (payload : Value) {kind : Value} {number : UInt8}
    (kindIs : kind.toNumber = .ok number.toNat) (context : Context) :
    (wrap payload kind).perform context =
      (do
        let amount ← drawAmount
        let bytes ← Work.ofExcept payload.toBytes
        return padded number bytes amount : Work Bytes).perform context := by
  have isByte := number.toNat_lt
  have fits : (0 : Int) ≤ number.toNat ∧ (number.toNat : Int) ≤ 0xFF := by omega
  rw [wrap, kindIs, Work.perform_bind, Work.perform_ofExcept]
  simp only [fits, and_self, if_true, Int.toNat_natCast, UInt8.ofNat_toNat]

/-- What is padded is the payload with its kind under a drawn amount of padding. -/
theorem eq_padded_of_wrap {payload kind : Value} {number : UInt8} {bytes content : Bytes}
    (kindIs : kind.toNumber = .ok number.toNat) (payloadIs : payload.toBytes = .ok bytes)
    {context after : Context}
    (wrapped : (wrap payload kind).perform context = (.ok content, after)) :
    ∃ amount, (1 ≤ amount ∧ amount ≤ 255) ∧ content = padded number bytes amount := by
  rw [perform_wrap_of_byte payload kindIs, payloadIs] at wrapped
  obtain ⟨amount, between, drawn, rest⟩ := Work.perform_bind_eq_ok_iff.mp wrapped
  refine ⟨amount, bounds_of_drawAmount drawn, ?_⟩
  cases rest
  rfl

/-- A payload is padded when the entropy gives an amount. -/
theorem perform_wrap {payload kind : Value} {number : UInt8} {bytes : Bytes}
    (kindIs : kind.toNumber = .ok number.toNat) (payloadIs : payload.toBytes = .ok bytes)
    {context : Context} {amount used : Nat}
    (given : amountOf? context.entropy.remaining = some (amount, used)) :
    (wrap payload kind).perform context =
      (.ok (padded number bytes amount),
        { context with entropy := context.entropy.skip used }) := by
  have drawn : drawAmount.perform context =
      (.ok amount, { context with entropy := context.entropy.skip used }) := by
    rw [Work.perform, drawAmount, given]
  rw [perform_wrap_of_byte payload kindIs, payloadIs, Work.perform_bind, drawn]
  rfl

/-- The last byte of a padded message says how much padding there is. -/
theorem getLast?_padded (kind : UInt8) (payload : Bytes) {amount : Nat}
    (isPositive : 1 ≤ amount) :
    (padded kind payload amount).getLast? = some (UInt8.ofNat amount) := by
  obtain ⟨fewer, rfl⟩ : ∃ fewer, amount = fewer + 1 := ⟨amount - 1, by omega⟩
  rw [padded, List.replicate_succ', ← List.append_assoc, List.getLast?_concat]

/-- The check of the length gives back the kind and the payload, even if the payload ends with what
looks like padding. -/
theorem strip_padded (kind : UInt8) (payload : Bytes) {amount : Nat}
    (isPositive : 1 ≤ amount) (isSmall : amount ≤ 255) :
    strip (padded kind payload amount) = .ok (kind :: payload) := by
  have last := getLast?_padded kind payload isPositive
  have sizeOfByte : (UInt8.ofNat amount).toNat = amount := by
    rw [UInt8.toNat_ofNat']
    omega
  have isPadded : ¬ (amount = 0 ∨ (padded kind payload amount).length ≤ amount) := by
    rw [length_padded]
    omega
  have fromEnd : (padded kind payload amount).length - amount = (kind :: payload).length := by
    rw [length_padded, List.length_cons]
    omega
  simp only [strip, last, sizeOfByte, if_neg isPadded, fromEnd]
  rw [padded, List.take_left]

/-- The full check gives back the kind and the payload. -/
theorem unwrap_padded (kind : UInt8) (payload : Bytes) {amount : Nat}
    (isPositive : 1 ≤ amount) (isSmall : amount ≤ 255) :
    unwrap (padded kind payload amount) = .ok (kind, payload) := by
  have sizeOfByte : (UInt8.ofNat amount).toNat = amount := by
    rw [UInt8.toNat_ofNat']
    omega
  have isPadded : ¬ (amount = 0 ∨
      (payload ++ List.replicate amount (UInt8.ofNat amount)).length < amount) := by
    rw [List.length_append, List.length_replicate]
    omega
  have fromEnd : (payload ++ List.replicate amount (UInt8.ofNat amount)).length - amount =
      payload.length := by
    rw [List.length_append, List.length_replicate]
    omega
  have areSame : (List.replicate amount (UInt8.ofNat amount)).all (· == UInt8.ofNat amount) =
      true := by
    simp
  have last := getLast?_padded kind payload isPositive
  rw [padded, List.cons_append] at last ⊢
  simp only [unwrap, last, sizeOfByte, if_neg isPadded, fromEnd, List.drop_left, areSame, if_true,
    List.take_left]

end Padding
end SealedGateway
