import SealedGateway.Proofs.Descriptor.RoundTrip
import SealedGateway.Proofs.File.Locking
import SealedGateway.Proofs.Gateway.Delivery

/-!
# The way of a file

A gateway locks a file and sends its descriptor with the key; another gateway receives the
descriptor, takes the key out of it, and opens the file with it.
-/

namespace SealedGateway

/-- A size that is given as a number is that number. -/
theorem Field.eq_of_readSize_whole {size given : Nat}
    (isRead : readSize (.whole given) = .ok size) : size = given := by
  rw [readSize, readCount_whole] at isRead
  by_cases isWithin : given ≤ sizeLimit
  · simp only [if_pos isWithin, Except.ok.injEq] at isRead
    exact isRead.symm
  · simp only [if_neg isWithin, reduceCtorEq] at isRead

namespace Descriptor

/-- A descriptor made with a ready key holds the bytes of that key. -/
theorem encryptionKey_of_ofFields {fields : List (String × Value)} {descriptor : Descriptor}
    {key : SymmetricKey} (made : ofFields fields = .ok descriptor)
    (hasKey : Field.find? "blob_encryption_key" fields = some (.symmetricKey key)) :
    descriptor.encryptionKey = key.octets := by
  have keyRead := (ofFields_eq_ok_iff.mp made).encryptionKey
  rw [hasKey] at keyRead
  exact (Except.ok.inj keyRead).symm

/-- A descriptor made with a number as its size holds that number. -/
theorem fileSize_of_ofFields {fields : List (String × Value)} {descriptor : Descriptor} {size : Nat}
    (made : ofFields fields = .ok descriptor)
    (hasSize : Field.find? "file_size_bytes" fields = some (.whole size)) :
    descriptor.fileSize = size := by
  have sizeRead := (ofFields_eq_ok_iff.mp made).fileSize
  rw [hasSize, Field.readRequired] at sizeRead
  exact Field.eq_of_readSize_whole sizeRead

end Descriptor

namespace Sending

/-- A descriptor that has been sent has been sent as its JSON with the kind of files. -/
theorem perform_sendDescriptor_eq_ok_iff {descriptor : Descriptor} {publicKey privateKey : Value}
    {context after : Context} {envelope : Envelope} :
    (sendDescriptor descriptor publicKey privateKey).perform context = (.ok envelope, after) ↔
      ∃ bytes, descriptor.toJson = .ok bytes ∧
        (send (.octets bytes) (.messageKind .file) publicKey privateKey).perform context =
          (.ok envelope, after) := by
  rw [sendDescriptor, Work.perform_bind, Work.perform_ofExcept]
  cases descriptor.toJson with
  | error failure => simp
  | ok bytes => simp

/-- A valid descriptor whose texts are plain and whose sizes can be written is sent whenever the
keys can be used and the entropy gives an amount of padding and a nonce. -/
theorem exists_envelope_of_sendDescriptor {descriptor : Descriptor} (isValid : descriptor.IsValid)
    (isPlain : descriptor.IsPlain) (hasShortSizes : descriptor.HasShortSizes)
    {publicKey privateKey : Value} {key : Octets 32}
    (prepared : PublicBox.prepare .unusableKeys publicKey privateKey = .ok key) {context : Context}
    {amount used : Nat}
    (given : Padding.amountOf? context.entropy.remaining = some (amount, used))
    (hasNonce : used + 24 ≤ context.entropy.remaining.length) :
    ∃ envelope after, (sendDescriptor descriptor publicKey privateKey).perform context =
      (.ok envelope, after) := by
  obtain ⟨payload, written, -⟩ := (Descriptor.toJson_of_isValid isValid hasShortSizes).1 isPlain
  have kindIs : (Value.messageKind .file).toNumber =
      .ok (UInt8.ofNat MessageKind.file.code).toNat := rfl
  have payloadIs : (Value.octets payload).toBytes = .ok payload := rfl
  obtain ⟨envelope, after, sent⟩ :=
    exists_envelope_of_send kindIs payloadIs rfl prepared given hasNonce
  exact ⟨envelope, after, perform_sendDescriptor_eq_ok_iff.mpr ⟨payload, written, sent⟩⟩

end Sending

namespace Gateway

/-- What one gateway locks and describes to another is opened by that other gateway with the key
from the descriptor that it receives: the file and the thumbnail are the original ones, and a
thumbnail that was absent stays absent. -/
theorem unlock_of_received_descriptor {sender receiver : Gateway}
    (keysAgree : sender.KeysAgree receiver)
    {file thumbnail : Value} {fileBytes : Bytes} {thumbnailBytes : Option Bytes}
    (isFile : file.toBytes = .ok fileBytes)
    (isThumbnail : PlainFile.readThumbnail thumbnail = .ok thumbnailBytes)
    {context between : Context} {locked : LockedFile} {key : SymmetricKey}
    (locks : (PlainFile.lockValues file thumbnail).perform context = (.ok (locked, key), between))
    {fields : List (String × Value)} {descriptor : Descriptor}
    (made : Descriptor.ofFields fields = .ok descriptor)
    (hasKey : Field.find? "blob_encryption_key" fields = some (.symmetricKey key))
    (hasSize : Field.find? "file_size_bytes" fields = some (.whole fileBytes.length))
    (isPlain : descriptor.IsPlain) (hasShortSizes : descriptor.HasShortSizes)
    {later after : Context} {envelope : Envelope}
    (sends : (sender.sendDescriptor descriptor (.recipientKey receiver.publicKey)).perform later =
      (.ok envelope, after))
    {delivery : Delivery} (isRun : Numeral.IsRun delivery.date.toList)
    (isShort : (Numeral.significant delivery.date.toList).length ≤ 4300) :
    ∃ payload received,
      receiver.Receives delivery envelope sender.publicKey (UInt8.ofNat MessageKind.file.code)
        payload ∧
      Descriptor.ofJson (.octets payload) = .ok received ∧
      received.encryptionKey = key.octets ∧ received.fileSize = fileBytes.length ∧
      SymmetricKey.ofBytes (.octets received.encryptionKey.toList) = .ok key ∧
      locked.unlockWith (.symmetricKey key) = .ok ⟨fileBytes, thumbnailBytes⟩ := by
  obtain ⟨payload, written, sent⟩ := Sending.perform_sendDescriptor_eq_ok_iff.mp sends
  obtain ⟨bytes, rewritten, isRead⟩ :=
    (Descriptor.toJson_of_isValid (Descriptor.isValid_of_ofFields made) hasShortSizes).1 isPlain
  obtain rfl : bytes = payload := Except.ok.inj (rewritten.symm.trans written)
  have kindIs : (Value.messageKind .file).toNumber =
      .ok (UInt8.ofNat MessageKind.file.code).toNat := rfl
  obtain ⟨boxKey, amount, prepared, bounds, boxIs⟩ := Sending.exists_key_of_send kindIs rfl sent
  have isReceived := receives_of_readable (prepare_of_keysAgree keysAgree prepared) isRun isShort
    bounds boxIs
  have keyIs : descriptor.encryptionKey = key.octets :=
    Descriptor.encryptionKey_of_ofFields made hasKey
  have sizeIs : descriptor.fileSize = fileBytes.length :=
    Descriptor.fileSize_of_ofFields made hasSize
  have isKey : SymmetricKey.ofBytes (.octets descriptor.encryptionKey.toList) = .ok key := by
    rw [keyIs]
    exact key.ofBytes_toList
  refine ⟨bytes, descriptor.withoutEmptyHints, isReceived, isRead, keyIs, sizeIs, isKey, ?_⟩
  obtain ⟨_, _, sameFile, sameThumbnail, rfl⟩ := PlainFile.exists_plain_of_lockValues locks
  obtain rfl := Except.ok.inj (sameFile.symm.trans isFile)
  obtain rfl := Except.ok.inj (sameThumbnail.symm.trans isThumbnail)
  exact LockedFile.unlockWith_lock _ key

/-- The key of a document. -/
def documentKey : SymmetricKey := ⟨⟨List.replicate 32 7, List.length_replicate⟩⟩

/-- The fields of a document of four bytes with a thumbnail. -/
def documentFields : List (String × Value) :=
  [("file_blob_id", .blobId ⟨Octets.zero 16⟩), ("thumbnail_blob_id", .blobId ⟨Octets.zero 16⟩),
    ("thumbnail_media_type", .ofString "image/jpeg"), ("media_type", .ofString "application/pdf"),
    ("blob_encryption_key", .symmetricKey documentKey), ("file_name", .ofString "doc.pdf"),
    ("file_size_bytes", .whole 4)]

/-- The descriptor of that document. -/
def document : Descriptor where
  fileBlobId := ⟨Octets.zero 16⟩
  mediaType := WideText.ofString "application/pdf"
  encryptionKey := documentKey.octets
  fileSize := 4
  thumbnailBlobId := some ⟨Octets.zero 16⟩
  thumbnailMediaType := some (WideText.ofString "image/jpeg")
  fileName := some (WideText.ofString "doc.pdf")
  description := none
  rendering := .file
  metadata := none

theorem keysAgree_echoGateway : echoGateway.KeysAgree testGateway := by
  unfold KeysAgree
  decide +kernel

theorem exists_prepare_echoGateway :
    ∃ key, PublicBox.prepare .unusableKeys (.recipientKey testGateway.publicKey)
      echoGateway.ownKey = .ok key := by
  have isShared : PublicBox.sharedKey? echoGateway.privateKey.octets
      testGateway.publicKey.octets ≠ none := by
    decide +kernel
  obtain ⟨key, shared⟩ := Option.ne_none_iff_exists'.mp isShared
  exact ⟨key, PublicBox.prepare_eq_ok_iff.mpr ⟨_, _, rfl, rfl, shared⟩⟩

/-- A document with an empty thumbnail is opened by the gateway that receives its descriptor. -/
theorem unlock_document :
    ∃ locked between envelope after,
      echoGateway.KeysAgree testGateway ∧
      (PlainFile.lockValues (.octets [37, 80, 68, 70]) (.octets [])).perform
        (Context.initial (List.replicate 32 7)) = (.ok (locked, documentKey), between) ∧
      Descriptor.ofFields documentFields = .ok document ∧
      document.IsPlain ∧ document.HasShortSizes ∧
      (echoGateway.sendDescriptor document (.recipientKey testGateway.publicKey)).perform
        (Context.initial (2 :: List.replicate 24 7)) = (.ok envelope, after) ∧
      ∃ payload received,
        testGateway.Receives escapedDelivery envelope echoGateway.publicKey
          (UInt8.ofNat MessageKind.file.code) payload ∧
        Descriptor.ofJson (.octets payload) = .ok received ∧
        received.encryptionKey = documentKey.octets ∧ received.fileSize = 4 ∧
        SymmetricKey.ofBytes (.octets received.encryptionKey.toList) = .ok documentKey ∧
        locked.unlockWith (.symmetricKey documentKey) = .ok ⟨[37, 80, 68, 70], some []⟩ := by
  have drawn : (Context.initial (List.replicate 32 7)).entropy.draw? 32 =
      some (documentKey.octets, ⟨[], 32⟩) := by
    decide
  have isFile : (Value.octets [37, 80, 68, 70]).toBytes = .ok [37, 80, 68, 70] := rfl
  have isThumbnail : PlainFile.readThumbnail (.octets []) = .ok (some []) := rfl
  obtain ⟨locked, between, locks⟩ :=
    PlainFile.exists_locked_of_draw? isFile isThumbnail rfl drawn
  have made : Descriptor.ofFields documentFields = .ok document := rfl
  have isPlain : document.IsPlain := by
    refine ⟨WideText.isPlain_ofChars _, ?_, ?_, nofun⟩
    · rintro text ⟨⟩
      exact WideText.isPlain_ofChars _
    · rintro text ⟨⟩
      exact WideText.isPlain_ofChars _
  have hasShortSizes : document.HasShortSizes := nofun
  obtain ⟨key, prepared⟩ := exists_prepare_echoGateway
  have given : Padding.amountOf? (Context.initial (2 :: List.replicate 24 7)).entropy.remaining =
      some (3, 1) := by
    decide
  obtain ⟨envelope, after, sends⟩ := Sending.exists_envelope_of_sendDescriptor
    (Descriptor.isValid_of_ofFields made) isPlain hasShortSizes prepared given (by decide)
  have isRun : Numeral.IsRun escapedDelivery.date.toList := by decide
  have isShort : (Numeral.significant escapedDelivery.date.toList).length ≤ 4300 := by decide
  exact ⟨locked, between, envelope, after, keysAgree_echoGateway, locks, made, isPlain,
    hasShortSizes, sends, unlock_of_received_descriptor keysAgree_echoGateway isFile isThumbnail
      locks made rfl rfl isPlain hasShortSizes sends isRun isShort⟩

end Gateway
end SealedGateway
