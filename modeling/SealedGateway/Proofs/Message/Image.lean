import Mathlib.Logic.Basic
import SealedGateway.Proofs.Message.Carried

/-!
# Pointers to images decode uniquely

A message about an image holds the identifier of a blob, a size in four bytes in order of increasing
weight, and a nonce.  Every size below two to the thirty-second is read back from its place, so that
the record is read in one way only.  A nonce of another length is refused first, then the size.
-/

namespace SealedGateway

attribute [local instance (2000)] instPowNat

/-- What a message is asked to say of an image. -/
structure ImagePointer where
  /-- The blob that holds the image. -/
  blobId : BlobId
  /-- The size of the image. -/
  size : Int
  /-- The nonce under which the blob was locked. -/
  nonce : Bytes
deriving DecidableEq

namespace ImagePointer

/-- Whether the size and the nonce of a pointer are what two values stand for. -/
structure IsGivenAs (pointer : ImagePointer) (size nonce : Value) : Prop where
  size_eq : size.index? = some pointer.size
  nonce_eq : nonce.byteString? = some pointer.nonce

/-- Whether a pointer has a place in a record: its nonce has twenty-four bytes, and its size is
written in thirty-two bits. -/
structure Fits (pointer : ImagePointer) : Prop where
  length_nonce : pointer.nonce.length = 24
  isNonnegative : 0 ≤ pointer.size
  isSmall : pointer.size ≤ 2 ^ (32 : Nat) - 1

/-- Whether a pointer is read from a payload of forty-four bytes: the identifier stands first, then
the size in order of increasing weight, and the nonce is the rest. -/
structure IsReadFrom (pointer : ImagePointer) (payload : Bytes) : Prop where
  length_eq : payload.length = 44
  blobId_eq : payload.take 16 = pointer.blobId.octets.toList
  size_eq : (Bytes.toNatLE ((payload.drop 16).take 4) : Int) = pointer.size
  nonce_eq : payload.drop 20 = pointer.nonce

variable {pointer other : ImagePointer} {size nonce : Value}

/-! ## Reading a payload -/

/-- A payload is read as one pointer only. -/
theorem IsReadFrom.unique {payload : Bytes} (isRead : pointer.IsReadFrom payload)
    (isOther : other.IsReadFrom payload) : pointer = other := by
  obtain ⟨⟨octets⟩, size, nonce⟩ := pointer
  obtain ⟨⟨otherOctets⟩, otherSize, otherNonce⟩ := other
  have sameOctets : octets = otherOctets :=
    Octets.ext (isRead.blobId_eq.symm.trans isOther.blobId_eq)
  have sameSize : size = otherSize := isRead.size_eq.symm.trans isOther.size_eq
  have sameNonce : nonce = otherNonce := isRead.nonce_eq.symm.trans isOther.nonce_eq
  rw [sameOctets, sameSize, sameNonce]

/-- The payload of a pointer. -/
def payload (pointer : ImagePointer) : Bytes :=
  pointer.blobId.octets.toList ++ Bytes.ofNatLE 4 pointer.size.toNat ++ pointer.nonce

/-- Each part of a pointer that fits is found in its place. -/
theorem Fits.isReadFrom_payload (fits : pointer.Fits) : pointer.IsReadFrom pointer.payload := by
  have length_blobId := pointer.blobId.octets.length_toList
  have length_size := Bytes.length_ofNatLE 4 pointer.size.toNat
  obtain ⟨length_nonce, isNonnegative, isSmall⟩ := fits
  have length_front : (pointer.blobId.octets.toList ++
      Bytes.ofNatLE 4 pointer.size.toNat).length = 20 := by
    rw [List.length_append, length_blobId, length_size]
  refine ⟨?_, ?_, ?_, ?_⟩
  · rw [payload, List.length_append, length_front, length_nonce]
  · rw [payload, List.append_assoc, List.take_left' length_blobId]
  · rw [payload, List.append_assoc, List.drop_left' length_blobId, List.take_left' length_size,
      Bytes.toNatLE_ofNatLE, Nat.mod_eq_of_lt (by omega), Int.toNat_of_nonneg isNonnegative]
  · rw [payload, List.drop_left' length_front]

/-- Different pointers that fit have different payloads. -/
theorem Fits.payload_inj (fits : pointer.Fits) (otherFits : other.Fits) :
    pointer.payload = other.payload ↔ pointer = other := by
  constructor
  · intro same
    -- One payload is read as both pointers, so they are the same.
    have isRead := fits.isReadFrom_payload
    rw [same] at isRead
    exact isRead.unique otherFits.isReadFrom_payload
  · exact congrArg payload

/-! ## Making a payload -/

theorem imageSize_of_index? {number : Int} (size_eq : size.index? = some number) :
    Sending.imageSize size =
      if 0 ≤ number ∧ number ≤ 2 ^ (32 : Nat) - 1 then .ok number.toNat
      else .error (.badValue .imageSize) := by
  unfold Sending.imageSize
  rw [size_eq]
  rfl

/-- The length of the nonce is checked first, then the size; what fits is put into its place. -/
theorem imageRecord_of_isGivenAs (isGiven : pointer.IsGivenAs size nonce) :
    Sending.imageRecord (.blobId pointer.blobId) size nonce =
      if pointer.nonce.length ≠ 24 then .error (.badNonce .ofImage)
      else if 0 ≤ pointer.size ∧ pointer.size ≤ 2 ^ (32 : Nat) - 1 then .ok pointer.payload
      else .error (.badValue .imageSize) := by
  obtain ⟨size_eq, nonce_eq⟩ := isGiven
  rw [Sending.imageRecord, Value.length_of_byteString? nonce_eq, imageSize_of_index? size_eq,
    Value.toBytes_of_byteString? nonce_eq]
  simp only [bind, Except.bind, Value.ownBytes?]
  by_cases isSmall : 0 ≤ pointer.size ∧ pointer.size ≤ 2 ^ (32 : Nat) - 1
  · simp only [if_pos isSmall]
    rfl
  · simp only [if_neg isSmall]

/-- What is made is the payload of a pointer that fits. -/
theorem imageRecord_eq_ok_iff (isGiven : pointer.IsGivenAs size nonce) {made : Bytes} :
    Sending.imageRecord (.blobId pointer.blobId) size nonce = .ok made ↔
      pointer.Fits ∧ pointer.payload = made := by
  rw [imageRecord_of_isGivenAs isGiven]
  constructor
  · intro isMade
    by_cases isNonce : pointer.nonce.length = 24
    · rw [if_neg (not_not.mpr isNonce)] at isMade
      by_cases isSmall : 0 ≤ pointer.size ∧ pointer.size ≤ 2 ^ (32 : Nat) - 1
      · rw [if_pos isSmall] at isMade
        exact ⟨⟨isNonce, isSmall.1, isSmall.2⟩, Except.ok.inj isMade⟩
      · rw [if_neg isSmall] at isMade
        cases isMade
    · rw [if_pos isNonce] at isMade
      cases isMade
  · rintro ⟨fits, rfl⟩
    rw [if_neg (not_not.mpr fits.length_nonce), if_pos ⟨fits.isNonnegative, fits.isSmall⟩]

/-! ## Sending and opening -/

theorem sendImage_eq (blobId size nonce : Value) :
    Sending.sendImage blobId size nonce =
      Sending.sendMade (Sending.imageRecord blobId size nonce) .image :=
  rfl

/-- For every blob, every whole size and every byte string as the nonce: a nonce of another length
than twenty-four is refused as a nonce, and behind this check a size outside of thirty-two bits is
refused as a value; nothing is drawn then.  Otherwise the message is sent if the keys share a key
and the entropy suffices, and it opens with all keys that share this key to the kind of images and
to a payload of forty-four bytes from which the blob, the size and the nonce are read in their
places.  Payloads that come out of two calls are the same exactly if the calls ask for the same. -/
theorem images_decode_uniquely :
    (∀ (pointer : ImagePointer) (size nonce publicKey privateKey : Value) (context : Context),
      pointer.IsGivenAs size nonce →
        (pointer.nonce.length ≠ 24 →
          (Sending.sendImage (.blobId pointer.blobId) size nonce publicKey privateKey).perform
            context = (.error (.badNonce .ofImage), context)) ∧
        (pointer.nonce.length = 24 → ¬ (0 ≤ pointer.size ∧ pointer.size ≤ 2 ^ (32 : Nat) - 1) →
          (Sending.sendImage (.blobId pointer.blobId) size nonce publicKey privateKey).perform
            context = (.error (.badValue .imageSize), context)) ∧
        (pointer.Fits → ∀ key, PublicBox.Shares publicKey privateKey key →
          (context.entropy.SufficesForMessage → ∃ envelope after,
            (Sending.sendImage (.blobId pointer.blobId) size nonce publicKey privateKey).perform
              context = (.ok envelope, after)) ∧
          ∀ envelope after,
            (Sending.sendImage (.blobId pointer.blobId) size nonce publicKey privateKey).perform
              context = (.ok envelope, after) →
            ∃ payload, envelope.Carries key .image payload ∧ pointer.IsReadFrom payload)) ∧
    (∀ (pointer other : ImagePointer) (size nonce otherSize otherNonce : Value)
      (payload otherPayload : Bytes), pointer.IsGivenAs size nonce →
      other.IsGivenAs otherSize otherNonce →
      Sending.ComesOut (Sending.sendImage (.blobId pointer.blobId) size nonce) payload →
      Sending.ComesOut (Sending.sendImage (.blobId other.blobId) otherSize otherNonce)
        otherPayload →
        (payload = otherPayload ↔ pointer = other)) := by
  simp only [sendImage_eq]
  refine ⟨?_, ?_⟩
  · intro pointer size nonce publicKey privateKey context isGiven
    have record_eq := imageRecord_of_isGivenAs isGiven
    refine ⟨?_, ?_, ?_⟩
    · intro isOther
      rw [if_pos isOther] at record_eq
      exact Sending.perform_sendMade_of_error record_eq context
    · intro isNonce isOutside
      rw [if_neg (not_not.mpr isNonce), if_neg isOutside] at record_eq
      exact Sending.perform_sendMade_of_error record_eq context
    · intro fits key shares
      have isMade := (imageRecord_eq_ok_iff isGiven).mpr ⟨fits, rfl⟩
      refine ⟨Sending.exists_envelope_of_sendMade isMade shares, ?_⟩
      intro envelope after sent
      exact ⟨pointer.payload, Sending.carries_of_sendMade isMade shares sent,
        fits.isReadFrom_payload⟩
  · intro pointer other size nonce otherSize otherNonce payload otherPayload isGiven isOtherGiven
      comesOut otherComesOut
    obtain ⟨fits, rfl⟩ := (imageRecord_eq_ok_iff isGiven).mp comesOut.made_eq
    obtain ⟨otherFits, rfl⟩ := (imageRecord_eq_ok_iff isOtherGiven).mp otherComesOut.made_eq
    exact fits.payload_inj otherFits

/-- A pointer to an image of the greatest size. -/
def greatestPointer : ImagePointer :=
  ⟨⟨Octets.ofPadded 16 [1, 2, 3]⟩, 4294967295, List.replicate 24 17⟩

/-- The pointer to the image one byte smaller. -/
def smallerPointer : ImagePointer := { greatestPointer with size := 4294967294 }

/-- The greatest size arrives, and so does the one below it in another payload, behind padding that
is drawn at the second byte.  One byte more is refused, unless the nonce is refused before. -/
theorem images_decode_uniquely_of_greatestSize :
    (∃ payload otherPayload,
      Sending.ComesOut (Sending.sendImage (.blobId greatestPointer.blobId) (.whole 4294967295)
        (.octets greatestPointer.nonce)) payload ∧
      greatestPointer.IsReadFrom payload ∧
      Sending.ComesOut (Sending.sendImage (.blobId smallerPointer.blobId) (.whole 4294967294)
        (.buffer smallerPointer.nonce)) otherPayload ∧
      payload ≠ otherPayload) ∧
    (Sending.sendImage (.blobId greatestPointer.blobId) (.whole 4294967296)
      (.octets greatestPointer.nonce) .null .null).perform (Context.initial []) =
        (.error (.badValue .imageSize), Context.initial []) ∧
    (Sending.sendImage (.blobId greatestPointer.blobId) (.whole 4294967296)
      (.octets greatestPointer.nonce.tail) .null .null).perform (Context.initial []) =
        (.error (.badNonce .ofImage), Context.initial []) := by
  obtain ⟨areSent, areDifferent⟩ := images_decode_uniquely
  refine ⟨?_, ?_, ?_⟩
  · obtain ⟨key, shares⟩ := PublicBox.canPrepare_iff.mp Opening.canPrepare_plainKey
    have arrives {pointer : ImagePointer} {size nonce : Value}
        (isGiven : pointer.IsGivenAs size nonce) (fits : pointer.Fits) :
        ∃ payload,
          Sending.ComesOut (Sending.sendImage (.blobId pointer.blobId) size nonce) payload ∧
          pointer.IsReadFrom payload := by
      obtain ⟨-, -, arrives⟩ := areSent pointer size nonce (.publicKey Opening.basePoint)
        (.octets Opening.plainKey) (Context.initial (255 :: 1 :: List.replicate 24 5)) isGiven
      obtain ⟨isSent, isCarried⟩ := arrives fits key shares
      obtain ⟨envelope, after, sent⟩ :=
        isSent ⟨1, 1, List.replicate 24 5, rfl, by decide, by decide⟩
      obtain ⟨payload, carries, isRead⟩ := isCarried envelope after sent
      exact ⟨payload, .opened shares sent shares (carries _ _ shares), isRead⟩
    have isGiven : greatestPointer.IsGivenAs (.whole 4294967295) (.octets greatestPointer.nonce) :=
      ⟨rfl, rfl⟩
    have isOtherGiven :
        smallerPointer.IsGivenAs (.whole 4294967294) (.buffer smallerPointer.nonce) := ⟨rfl, rfl⟩
    obtain ⟨payload, comesOut, isRead⟩ := arrives isGiven ⟨rfl, by decide, by decide⟩
    obtain ⟨otherPayload, otherComesOut, -⟩ :=
      arrives isOtherGiven ⟨rfl, by decide, by decide⟩
    refine ⟨payload, otherPayload, comesOut, isRead, otherComesOut, ?_⟩
    rw [Ne, areDifferent _ _ _ _ _ _ _ _ isGiven isOtherGiven comesOut otherComesOut]
    decide
  · exact (areSent { greatestPointer with size := 4294967296 } _ _ _ _ _ ⟨rfl, rfl⟩).2.1 rfl
      (by decide)
  · exact (areSent ⟨greatestPointer.blobId, 4294967296, greatestPointer.nonce.tail⟩ _ _ _ _ _
      ⟨rfl, rfl⟩).1 (by decide)

end ImagePointer
end SealedGateway
