import SealedGateway.Proofs.Message.Padding
import SealedGateway.Proofs.Work.Outcomes

/-!
# The padded form

A buffer is in the padded form if it is a kind, a payload, and one to 255 copies of a byte that says
how many there are.  The three parts are then determined by the buffer.  The full check accepts
exactly the buffers in this form, and what has been padded is in it, whatever the payload ends with.
-/

namespace SealedGateway
namespace Padding

/-- Whether a buffer is a kind and a payload under an amount of padding. -/
structure IsPadded (buffer : Bytes) (kind : UInt8) (payload : Bytes) (amount : Nat) : Prop where
  isPositive : 1 ≤ amount
  isSmall : amount ≤ 255
  buffer_eq : buffer = padded kind payload amount

variable {buffer payload otherPayload : Bytes} {kind otherKind : UInt8} {amount otherAmount : Nat}

/-- The last byte of a buffer in the padded form is the amount. -/
theorem IsPadded.getLast?_eq (isPadded : IsPadded buffer kind payload amount) :
    buffer.getLast? = some (UInt8.ofNat amount) := by
  rw [isPadded.buffer_eq]
  exact getLast?_padded kind payload isPadded.isPositive

theorem IsPadded.unwrap_eq (isPadded : IsPadded buffer kind payload amount) :
    unwrap buffer = .ok (kind, payload) := by
  rw [isPadded.buffer_eq]
  exact unwrap_padded kind payload isPadded.isPositive isPadded.isSmall

/-- A buffer is in the padded form in at most one way. -/
theorem IsPadded.unique (isPadded : IsPadded buffer kind payload amount)
    (isOther : IsPadded buffer otherKind otherPayload otherAmount) :
    kind = otherKind ∧ payload = otherPayload ∧ amount = otherAmount := by
  have sameContent := isPadded.unwrap_eq.symm.trans isOther.unwrap_eq
  have sameLast := isPadded.getLast?_eq.symm.trans isOther.getLast?_eq
  have sameByte : (UInt8.ofNat amount).toNat = (UInt8.ofNat otherAmount).toNat :=
    congrArg UInt8.toNat (Option.some.inj sameLast)
  have isSmall := isPadded.isSmall
  have isOtherSmall := isOther.isSmall
  rw [UInt8.toNat_ofNat', UInt8.toNat_ofNat'] at sameByte
  injection sameContent with samePair
  injection samePair with sameKind samePayload
  exact ⟨sameKind, samePayload, by omega⟩

/-- What passes the full check is in the padded form: behind the kind, the payload is cut off where
the padding begins, and every byte from there on is the last one. -/
theorem exists_isPadded_of_unwrap (accepted : unwrap buffer = .ok (kind, payload)) :
    ∃ amount, IsPadded buffer kind payload amount := by
  unfold unwrap at accepted
  split at accepted
  · next first rest last _ =>
    simp only at accepted
    split at accepted
    · cases accepted
    · next fits =>
      split at accepted
      · next areSame =>
        injection accepted with samePair
        injection samePair with sameKind samePayload
        have isByte := last.toNat_lt
        refine ⟨last.toNat, by omega, by omega, ?_⟩
        have paddingIs : rest.drop (rest.length - last.toNat) =
            List.replicate last.toNat (UInt8.ofNat last.toNat) := by
          rw [List.eq_replicate_iff, List.length_drop, UInt8.ofNat_toNat]
          refine ⟨by omega, fun byte isMember => ?_⟩
          exact eq_of_beq (List.all_eq_true.mp areSame byte isMember)
        calc first :: rest
            = first :: (rest.take (rest.length - last.toNat) ++
                rest.drop (rest.length - last.toNat)) := by rw [List.take_append_drop]
          _ = padded kind payload last.toNat := by
            rw [paddingIs, sameKind, samePayload, padded, List.cons_append]
      · cases accepted
  · cases accepted

/-- The full check accepts exactly the buffers in the padded form. -/
theorem unwrap_eq_ok_iff :
    unwrap buffer = .ok (kind, payload) ↔ ∃ amount, IsPadded buffer kind payload amount :=
  ⟨exists_isPadded_of_unwrap, fun ⟨_, isPadded⟩ => isPadded.unwrap_eq⟩

/-! ## Loosely typed buffers -/

theorem readBuffer_of_byteString? {value : Value} (isBytes : value.byteString? = some buffer) :
    readBuffer value = .ok buffer := by
  cases value <;> simp_all [readBuffer, Value.byteString?]

theorem unwrapValue_eq (value : Value) :
    unwrapValue value =
      readBuffer value >>= fun buffer => (unwrap buffer).mapError .badPadding := by
  rw [unwrapValue]
  apply bind_congr
  intro buffer
  cases unwrap buffer <;> rfl

theorem unwrapValue_of_byteString? {value : Value} (isBytes : value.byteString? = some buffer) :
    unwrapValue value = (unwrap buffer).mapError .badPadding := by
  rw [unwrapValue_eq, readBuffer_of_byteString? isBytes]
  rfl

theorem unwrapValue_eq_ok_iff {value : Value} (isBytes : value.byteString? = some buffer) :
    unwrapValue value = .ok (kind, payload) ↔
      ∃ amount, IsPadded buffer kind payload amount := by
  rw [unwrapValue_of_byteString? isBytes, Outcome.mapError_eq_ok_iff, unwrap_eq_ok_iff]

/-- A buffer in no padded form is refused for its padding, and for nothing else. -/
theorem exists_fault_of_not_isPadded {value : Value} (isBytes : value.byteString? = some buffer)
    (isOther : ¬ ∃ kind payload amount, IsPadded buffer kind payload amount) :
    ∃ fault, unwrapValue value = .error (.badPadding fault) := by
  rw [unwrapValue_of_byteString? isBytes]
  cases unwrapped : unwrap buffer with
  | ok message => exact absurd ⟨_, _, unwrap_eq_ok_iff.mp unwrapped⟩ isOther
  | error fault => exact ⟨fault, rfl⟩

/-! ## What has been padded -/

/-- A payload is padded exactly when the entropy gives an amount, and then it is in the padded form
under that amount. -/
theorem perform_wrap_eq_ok_iff {payloadValue kindValue : Value}
    (kindIs : kindValue.toNumber = .ok kind.toNat) (payloadIs : payloadValue.toBytes = .ok payload)
    {context after : Context} :
    (wrap payloadValue kindValue).perform context = (.ok buffer, after) ↔
      ∃ amount, drawAmount.perform context = (.ok amount, after) ∧
        IsPadded buffer kind payload amount := by
  rw [perform_wrap_of_byte payloadValue kindIs, payloadIs, Work.perform_bind_eq_ok_iff]
  constructor
  · rintro ⟨amount, between, drawn, padding⟩
    obtain ⟨isPositive, isSmall⟩ := bounds_of_drawAmount drawn
    cases padding
    exact ⟨amount, drawn, isPositive, isSmall, rfl⟩
  · rintro ⟨amount, drawn, isPadded⟩
    refine ⟨amount, after, drawn, ?_⟩
    rw [isPadded.buffer_eq]
    rfl

/-- The full check accepts exactly the byte strings in the padded form, with their kind and their
payload; the kind, the payload and the amount are unique; everything else is refused for its
padding.  What has been padded is in that form under the drawn amount, and so the full check gives
back the kind and the payload. -/
theorem unwrapValue_language :
    (∀ value buffer kind payload, value.byteString? = some buffer →
      (unwrapValue value = .ok (kind, payload) ↔
        ∃ amount, IsPadded buffer kind payload amount)) ∧
    (∀ buffer kind payload amount otherKind otherPayload otherAmount,
      IsPadded buffer kind payload amount →
      IsPadded buffer otherKind otherPayload otherAmount →
        kind = otherKind ∧ payload = otherPayload ∧ amount = otherAmount) ∧
    (∀ value buffer, value.byteString? = some buffer →
      (¬ ∃ kind payload amount, IsPadded buffer kind payload amount) →
        ∃ fault, unwrapValue value = .error (.badPadding fault)) ∧
    ∀ (payloadValue kindValue : Value) (kind : UInt8) (payload : Bytes)
      (context after : Context) (buffer : Bytes),
      kindValue.toNumber = .ok kind.toNat → payloadValue.toBytes = .ok payload →
      (wrap payloadValue kindValue).perform context = (.ok buffer, after) →
        (∃ amount, drawAmount.perform context = (.ok amount, after) ∧
          IsPadded buffer kind payload amount) ∧
        unwrapValue (.octets buffer) = .ok (kind, payload) := by
  refine ⟨?_, ?_, ?_, ?_⟩
  · intro value buffer kind payload isBytes
    exact unwrapValue_eq_ok_iff isBytes
  · intro buffer kind payload amount otherKind otherPayload otherAmount isPadded isOther
    exact isPadded.unique isOther
  · intro value buffer isBytes isOther
    exact exists_fault_of_not_isPadded isBytes isOther
  · intro payloadValue kindValue kind payload context after buffer kindIs payloadIs wrapped
    obtain ⟨amount, drawn, isPadded⟩ :=
      (perform_wrap_eq_ok_iff kindIs payloadIs).mp wrapped
    have unwrapped : unwrapValue (.octets buffer) = .ok (kind, payload) :=
      (unwrapValue_eq_ok_iff rfl).mpr ⟨amount, isPadded⟩
    exact ⟨⟨amount, drawn, isPadded⟩, unwrapped⟩

/-- A payload that ends like its own padding, under an amount that is drawn behind a byte that gives
none. -/
theorem unwrapValue_language_of_ambiguousEnd :
    (wrap (.octets [7, 2, 2]) (.messageKind .text)).perform (Context.initial [255, 1]) =
      (.ok [1, 7, 2, 2, 2, 2], ⟨⟨[], 2⟩, Thresholds.initial, []⟩) ∧
    (∃ amount, drawAmount.perform (Context.initial [255, 1]) =
        (.ok amount, ⟨⟨[], 2⟩, Thresholds.initial, []⟩) ∧
      IsPadded [1, 7, 2, 2, 2, 2] 1 [7, 2, 2] amount) ∧
    unwrapValue (.octets [1, 7, 2, 2, 2, 2]) = .ok (1, [7, 2, 2]) := by
  have wrapped : (wrap (.octets [7, 2, 2]) (.messageKind .text)).perform
      (Context.initial [255, 1]) =
        (.ok [1, 7, 2, 2, 2, 2], ⟨⟨[], 2⟩, Thresholds.initial, []⟩) := by
    rfl
  exact ⟨wrapped, unwrapValue_language.2.2.2 _ _ 1 [7, 2, 2] _ _ _ rfl rfl wrapped⟩

end Padding
end SealedGateway
