import SealedGateway.Proofs.Entropy.Draws
import SealedGateway.Proofs.File.Locking

/-!
# What the operations draw

A new key is one draw.  Data that is sent as it stands takes its nonce in one draw, behind the check
of the keys.  A message takes its padding byte by byte and then its nonce: its own arguments are
checked before the padding, and its keys before the nonce.
-/

namespace SealedGateway

/-- Whether stretches are a single draw of a given size, or nothing at all. -/
def Stretch.AreOneDrawAtMost (size : Nat) (stretches : List Stretch) : Prop :=
  stretches = [] ∨ ∃ octets : Octets size, stretches.map bytes = [octets.toList]

/-- Whether an operation has been refused behind its only draw: the draw has been made, or it is the
draw that failed. -/
def Stretch.AreRefusedBehindDraw {α : Type} (size : Nat) (failure : Failure)
    (stretches : List Stretch) (outcome : Except Failure α) : Prop :=
  stretches = [] ∧ outcome = .error .entropyExhausted ∨
    ∃ octets : Octets size,
      stretches.map bytes = [octets.toList] ∧ outcome = .error failure

/-! ## Keys and files -/

/-- The draws that go with an attempt to make a key pair. -/
structure KeyPair.GenerateDraws (stretches : List Stretch) (outcome : Except Failure KeyPair) :
    Prop where
  /-- Nothing but a private key is ever drawn. -/
  atMostKey : Stretch.AreOneDrawAtMost 32 stretches
  /-- The draw of a key pair is its private key. -/
  ofMade : ∀ pair, outcome = .ok pair →
    pair = ofPrivate pair.privateKey ∧
      stretches.map Stretch.bytes = [pair.privateKey.octets.toList]

theorem KeyPair.draws_generate (context : Context) :
    ∃ stretches result, generate.Draws context stretches result ∧
      GenerateDraws stretches result.1 := by
  obtain ⟨stretches, result, draws, ⟨rfl, exhausted⟩ | ⟨octets, _, bytesAre, rfl⟩⟩ :=
    Work.draws_draw_then (fun octets => pure (ofPrivate ⟨octets⟩))
      (fun octets between => ⟨_, .pure (ofPrivate ⟨octets⟩) between⟩) context
  · refine ⟨[], result, draws, Or.inl rfl, ?_⟩
    intro pair made
    cases exhausted.symm.trans made
  · refine ⟨stretches, _, draws, Or.inr ⟨octets, bytesAre⟩, ?_⟩
    rintro _ ⟨⟩
    exact ⟨rfl, bytesAre⟩

/-- The draws that go with an attempt to make a file key. -/
structure SymmetricKey.GenerateDraws (stretches : List Stretch)
    (outcome : Except Failure SymmetricKey) : Prop where
  /-- Nothing but a key is ever drawn. -/
  atMostKey : Stretch.AreOneDrawAtMost 32 stretches
  /-- The draw of a key is the key. -/
  ofMade : ∀ key, outcome = .ok key → stretches.map Stretch.bytes = [key.octets.toList]

theorem SymmetricKey.draws_generate (context : Context) :
    ∃ stretches result, generate.Draws context stretches result ∧
      GenerateDraws stretches result.1 := by
  obtain ⟨stretches, result, draws, ⟨rfl, exhausted⟩ | ⟨octets, _, bytesAre, rfl⟩⟩ :=
    Work.draws_draw_then (fun octets => pure (⟨octets⟩ : SymmetricKey))
      (fun octets between => ⟨_, .pure (⟨octets⟩ : SymmetricKey) between⟩) context
  · refine ⟨[], result, draws, Or.inl rfl, ?_⟩
    intro key made
    cases exhausted.symm.trans made
  · refine ⟨stretches, _, draws, Or.inr ⟨octets, bytesAre⟩, ?_⟩
    rintro _ ⟨⟩
    exact bytesAre

namespace PlainFile

theorem lockUnder_isQuiet (file thumbnail : Value) (key : Octets 32) (context : Context) :
    ∃ result, (lockUnder file thumbnail key).Draws context [] result := by
  rw [lockUnder]
  cases file.toBytes with
  | error failure => exact ⟨_, .ofExcept_error failure context⟩
  | ok fileBytes =>
    cases readThumbnail thumbnail with
    | error failure => exact ⟨_, .ofExcept_ok (.ofExcept_error failure context)⟩
    | ok thumbnailBytes =>
      cases file.length with
      | error failure => exact ⟨_, .ofExcept_ok (.ofExcept_ok (.ofExcept_error failure context))⟩
      | ok length =>
        exact ⟨_, .ofExcept_ok (.ofExcept_ok (.ofExcept_ok (.behind_record (.pure _ _))))⟩

/-- What is read of a file before it is locked. -/
def readParts (file thumbnail : Value) : Except Failure PlainFile := do
  let fileBytes ← file.toBytes
  let thumbnailBytes ← readThumbnail thumbnail
  let _ ← file.length
  return ⟨fileBytes, thumbnailBytes⟩

theorem lockUnder_of_refused {file thumbnail : Value} {failure : Failure}
    (isRefused : readParts file thumbnail = .error failure) (key : Octets 32) (context : Context) :
    (lockUnder file thumbnail key).perform context = (.error failure, context) := by
  rw [readParts] at isRefused
  rw [lockUnder]
  cases isFile : file.toBytes with
  | error fault =>
    rw [isFile] at isRefused
    cases isRefused
    rfl
  | ok fileBytes =>
    cases isThumbnail : readThumbnail thumbnail with
    | error fault =>
      rw [isFile, isThumbnail] at isRefused
      cases isRefused
      rfl
    | ok thumbnailBytes =>
      cases isLength : file.length with
      | error fault =>
        rw [isFile, isThumbnail, isLength] at isRefused
        cases isRefused
        rfl
      | ok length =>
        rw [isFile, isThumbnail, isLength] at isRefused
        cases isRefused

/-- The draws that go with an attempt to lock a file. -/
structure LockDraws (file thumbnail : Value) (stretches : List Stretch)
    (outcome : Except Failure (LockedFile × SymmetricKey)) : Prop where
  /-- Nothing but a key is ever drawn. -/
  atMostKey : Stretch.AreOneDrawAtMost 32 stretches
  /-- The draw of a locked file is the key under which it and its thumbnail are locked. -/
  ofLocked : ∀ locked key, outcome = .ok (locked, key) →
    stretches.map Stretch.bytes = [key.octets.toList] ∧
      ∃ fileBytes thumbnailBytes, file.toBytes = .ok fileBytes ∧
        readThumbnail thumbnail = .ok thumbnailBytes ∧
        locked = lock ⟨fileBytes, thumbnailBytes⟩ key.octets
  /-- A file or a thumbnail of a wrong kind is refused behind the draw of the key. -/
  ofRefused : ∀ failure, readParts file thumbnail = .error failure →
    Stretch.AreRefusedBehindDraw 32 failure stretches outcome

theorem draws_lockValues (file thumbnail : Value) (context : Context) :
    ∃ stretches result, (lockValues file thumbnail).Draws context stretches result ∧
      LockDraws file thumbnail stretches result.1 := by
  obtain ⟨stretches, result, draws, ⟨rfl, exhausted⟩ | ⟨octets, between, bytesAre, finished⟩⟩ :=
    Work.draws_draw_then (lockUnder file thumbnail) (lockUnder_isQuiet file thumbnail) context
  · refine ⟨[], result, draws, Or.inl rfl, ?_, fun _ _ => Or.inl ⟨rfl, exhausted⟩⟩
    intro locked key isLocked
    cases exhausted.symm.trans isLocked
  · refine ⟨stretches, result, draws, Or.inr ⟨octets, bytesAre⟩, ?_, ?_⟩
    · intro locked key isLocked
      obtain ⟨fileBytes, thumbnailBytes, isFile, isThumbnail, rfl, rfl⟩ :=
        lockUnder_eq_ok (finished.trans (Prod.ext isLocked rfl))
      exact ⟨bytesAre, fileBytes, thumbnailBytes, isFile, isThumbnail, rfl⟩
    · intro failure isRefused
      have refused := lockUnder_of_refused isRefused octets between
      exact Or.inr ⟨octets, bytesAre, congrArg Prod.fst (finished.symm.trans refused)⟩

end PlainFile

/-! ## Messages -/

namespace Padding

/-- A payload whose kind is a byte is padded with a drawn amount; the payload is looked at behind
the draw. -/
theorem draws_wrap_of_byte (payload : Value) {kind : Value} {number : UInt8}
    (kindIs : kind.toNumber = .ok number.toNat) (context : Context) :
    ∃ stretches after byte?, AreAmountDraws stretches byte? ∧
      (wrap payload kind).Draws context stretches
        (do
          let amount ← decided byte?
          let bytes ← payload.toBytes
          return padded number bytes amount, after) := by
  obtain ⟨stretches, after, byte?, draws, areDraws⟩ := draws_drawAmount context
  refine ⟨stretches, after, byte?, areDraws, ?_⟩
  have fits : (0 : Int) ≤ number.toNat ∧ (number.toNat : Int) ≤ 0xFF := by
    have isByte := number.toNat_lt
    omega
  rw [wrap, kindIs]
  refine .ofExcept_ok ?_
  rw [if_pos fits, Int.toNat_natCast, UInt8.ofNat_toNat]
  cases byte? with
  | none => exact .stop draws
  | some byte =>
    rw [← List.append_nil stretches]
    refine .bind draws ?_
    cases payload.toBytes with
    | error failure => exact .ofExcept_error failure after
    | ok bytes => exact .ofExcept_ok (.pure _ _)

end Padding

namespace Sending

/-- The draws that go with an attempt to send data as it stands. -/
structure RawDraws (data publicKey privateKey : Value) (stretches : List Stretch)
    (outcome : Except Failure Envelope) : Prop where
  /-- Nothing but a nonce is ever drawn. -/
  atMostNonce : Stretch.AreOneDrawAtMost 24 stretches
  /-- The draw of data that has been sent is the nonce of its envelope. -/
  ofSent : ∀ envelope, outcome = .ok envelope →
    stretches.map Stretch.bytes = [envelope.nonce.toList] ∧
      ∃ key bytes, PublicBox.prepare .unusableKeys publicKey privateKey = .ok key ∧
        data.toBytes = .ok bytes ∧ envelope.box = SecretBox.lock key envelope.nonce bytes
  /-- Data that is fit to be sent and is not has drawn nothing. -/
  ofFailure : ∀ bytes failure, data.toBytes = .ok bytes → outcome = .error failure → stretches = []
  /-- Keys that cannot be used are refused before anything is drawn. -/
  ofKeyFault : ∀ failure, PublicBox.prepare .unusableKeys publicKey privateKey = .error failure →
    outcome = .error failure ∧ stretches = []
  /-- Under keys that can be used, data of a wrong kind is refused behind the draw of the nonce. -/
  ofRefused : ∀ key failure, PublicBox.prepare .unusableKeys publicKey privateKey = .ok key →
    data.toBytes = .error failure → Stretch.AreRefusedBehindDraw 24 failure stretches outcome

/-- The work on data once the keys are prepared and the nonce is there. -/
def lockRaw (data : Value) (key : Octets 32) (nonce : Octets 24) : Work Envelope := do
  let bytes ← Work.ofExcept data.toBytes
  return ⟨SecretBox.lock key nonce bytes, nonce⟩

/-- The envelope of data under prepared keys and a nonce. -/
def rawEnvelope (data : Value) (key : Octets 32) (nonce : Octets 24) : Except Failure Envelope :=
  data.toBytes.map fun bytes => ⟨SecretBox.lock key nonce bytes, nonce⟩

theorem draws_lockRaw (data : Value) (key : Octets 32) (nonce : Octets 24) (context : Context) :
    (lockRaw data key nonce).Draws context [] (rawEnvelope data key nonce, context) := by
  rw [lockRaw, rawEnvelope]
  cases data.toBytes with
  | error failure => exact .ofExcept_error failure context
  | ok bytes => exact .ofExcept_ok (.pure _ context)

theorem rawDraws_of_keyFault {data publicKey privateKey : Value} {failure : Failure}
    (refused : PublicBox.prepare .unusableKeys publicKey privateKey = .error failure) :
    RawDraws data publicKey privateKey [] (.error failure) where
  atMostNonce := Or.inl rfl
  ofSent := nofun
  ofFailure := fun _ _ _ _ => rfl
  ofKeyFault := by
    intro other isOther
    cases refused.symm.trans isOther
    exact ⟨rfl, rfl⟩
  ofRefused := by
    intro key other prepared
    cases refused.symm.trans prepared

section Prepared

variable {data publicKey privateKey : Value} {key : Octets 32}
  (prepared : PublicBox.prepare .unusableKeys publicKey privateKey = .ok key)

include prepared

theorem rawDraws_of_exhausted :
    RawDraws data publicKey privateKey [] (.error .entropyExhausted) where
  atMostNonce := Or.inl rfl
  ofSent := nofun
  ofFailure := fun _ _ _ _ => rfl
  ofKeyFault := by
    intro failure refused
    cases prepared.symm.trans refused
  ofRefused := fun _ _ _ _ => Or.inl ⟨rfl, rfl⟩

/-- Behind the draw of a nonce the data is locked under it, or it is refused. -/
theorem rawDraws_of_nonce {stretches : List Stretch} {nonce : Octets 24}
    (bytesAre : stretches.map Stretch.bytes = [nonce.toList]) :
    RawDraws data publicKey privateKey stretches (rawEnvelope data key nonce) where
  atMostNonce := Or.inr ⟨nonce, bytesAre⟩
  ofSent := by
    intro envelope sent
    rw [rawEnvelope] at sent
    cases isData : data.toBytes with
    | error failure =>
      rw [isData] at sent
      cases sent
    | ok bytes =>
      rw [isData] at sent
      cases sent
      exact ⟨bytesAre, key, bytes, prepared, rfl, rfl⟩
  ofFailure := by
    intro bytes failure isFit failed
    rw [rawEnvelope, isFit] at failed
    cases failed
  ofKeyFault := by
    intro failure refused
    cases prepared.symm.trans refused
  ofRefused := by
    intro _ failure _ isRefused
    rw [rawEnvelope, isRefused]
    exact Or.inr ⟨nonce, bytesAre, rfl⟩

end Prepared

theorem draws_sendRaw (data publicKey privateKey : Value) (context : Context) :
    ∃ stretches result, (sendRaw data publicKey privateKey).Draws context stretches result ∧
      RawDraws data publicKey privateKey stretches result.1 := by
  rw [sendRaw]
  cases prepared : PublicBox.prepare .unusableKeys publicKey privateKey with
  | error failure =>
    exact ⟨[], _, .ofExcept_error failure context, rawDraws_of_keyFault prepared⟩
  | ok key =>
    obtain ⟨stretches, result, draws, ⟨rfl, exhausted⟩ | ⟨nonce, between, bytesAre, rfl⟩⟩ :=
      Work.draws_draw_then (lockRaw data key)
        (fun nonce between => ⟨_, draws_lockRaw data key nonce between⟩) context
    · refine ⟨[], result, .ofExcept_ok draws, ?_⟩
      rw [exhausted]
      exact rawDraws_of_exhausted prepared
    · refine ⟨stretches, _, .ofExcept_ok draws, ?_⟩
      rw [(draws_lockRaw data key nonce between).perform_eq]
      exact rawDraws_of_nonce prepared bytesAre

/-- What is wrong with the arguments of a message apart from its keys and the content of its
payload: its kind is no number, its payload has no length, or its kind is no byte. -/
def ownFault? (payload kind : Value) : Option Failure :=
  match kind.toNumber, payload.length with
  | .error failure, _ => some failure
  | .ok _, .error failure => some failure
  | .ok number, .ok _ =>
    if 0 ≤ number ∧ number ≤ 0xFF then none else some (.badValue .kindTooWide)

/-- The draws that go with an attempt to send a message. -/
structure MessageDraws (payload kind publicKey privateKey : Value) (stretches : List Stretch)
    (outcome : Except Failure Envelope) : Prop where
  /-- The draws of a message that has been sent are rejected bytes, the byte that decides its
  padding, and the nonce of its envelope. -/
  ofSent : ∀ envelope, outcome = .ok envelope →
    ∃ (rejected : Nat) (byte number : UInt8) (bytes : Bytes) (key : Octets 32),
      stretches.map Stretch.bytes =
        List.replicate rejected [255] ++ [[byte], envelope.nonce.toList] ∧
      byte.toNat < 255 ∧ kind.toNumber = .ok number.toNat ∧ payload.toBytes = .ok bytes ∧
      PublicBox.prepare .unusableKeys publicKey privateKey = .ok key ∧
      envelope.box =
        SecretBox.lock key envelope.nonce (Padding.padded number bytes (byte.toNat + 1))
  /-- A message that fails has drawn no more than its padding. -/
  ofFailure : ∀ failure, outcome = .error failure →
    ∃ byte?, Padding.AreAmountDraws stretches byte?
  /-- A message that fails on its own arguments has drawn nothing. -/
  ofOwnFault : ∀ failure, ownFault? payload kind = some failure →
    outcome = .error failure ∧ stretches = []
  /-- A message that is right apart from its keys draws its padding and fails on them. -/
  ofKeyFault : ownFault? payload kind = none → ∀ failure,
    PublicBox.prepare .unusableKeys publicKey privateKey = .error failure →
    ∃ byte?, Padding.AreAmountDraws stretches byte? ∧
      outcome = do
        let _ ← Padding.decided byte?
        let _ ← payload.toBytes
        .error failure
  /-- A message that is right apart from the content of its payload draws its padding and fails on
  that, whatever its keys are. -/
  ofRefused : ownFault? payload kind = none → ∀ failure, payload.toBytes = .error failure →
    ∃ byte?, Padding.AreAmountDraws stretches byte? ∧
      outcome = do
        let _ ← Padding.decided byte?
        .error failure

variable {payload kind publicKey privateKey : Value}

/-- A message with a fault of its own fails on it before anything is drawn. -/
theorem messageDraws_of_ownFault? {failure : Failure}
    (isFault : ownFault? payload kind = some failure) :
    MessageDraws payload kind publicKey privateKey [] (.error failure) where
  ofSent := nofun
  ofFailure := fun _ _ => ⟨none, ⟨0, rfl⟩, nofun⟩
  ofOwnFault := by
    intro _ same
    cases isFault.symm.trans same
    exact ⟨rfl, rfl⟩
  ofKeyFault := by
    intro noFault
    cases isFault.symm.trans noFault
  ofRefused := by
    intro noFault
    cases isFault.symm.trans noFault

theorem exists_byte_of_ownFault?_eq_none (noFault : ownFault? payload kind = none) :
    ∃ (number : UInt8) (length : Nat), kind.toNumber = .ok number.toNat ∧
      payload.length = .ok length := by
  rw [ownFault?] at noFault
  cases kindIs : kind.toNumber with
  | error failure =>
    rw [kindIs] at noFault
    cases noFault
  | ok number =>
    cases lengthIs : payload.length with
    | error failure =>
      rw [kindIs, lengthIs] at noFault
      cases noFault
    | ok length =>
      have isByte : 0 ≤ number ∧ number ≤ 0xFF := by
        simpa only [kindIs, lengthIs, ite_eq_left_iff, reduceCtorEq, imp_false,
          Decidable.not_not] using noFault
      refine ⟨UInt8.ofNat number.toNat, length, ?_, rfl⟩
      rw [UInt8.toNat_ofNat', Nat.mod_eq_of_lt (by omega), Int.toNat_of_nonneg isByte.1]

/-- A message without a fault of its own that fails before its nonce has drawn its padding. -/
theorem messageDraws_of_padding {failure : Failure} {padding : List Stretch} {byte? : Option UInt8}
    (noFault : ownFault? payload kind = none) (areDraws : Padding.AreAmountDraws padding byte?)
    (isFailure : (do
      let _ ← Padding.decided byte?
      payload.toBytes) = .error failure) :
    MessageDraws payload kind publicKey privateKey padding (.error failure) where
  ofSent := nofun
  ofFailure := fun _ _ => ⟨byte?, areDraws⟩
  ofOwnFault := by
    intro other isFault
    cases noFault.symm.trans isFault
  ofKeyFault := by
    intro _ other _
    refine ⟨byte?, areDraws, ?_⟩
    rw [← bind_assoc, isFailure]
    rfl
  ofRefused := by
    intro _ other isRefused
    refine ⟨byte?, areDraws, ?_⟩
    rw [isRefused] at isFailure
    cases byte? <;> cases isFailure <;> rfl

/-- Behind its padding a message draws what its padded form draws when it is sent as it stands. -/
theorem messageDraws_of_rawDraws {number byte : UInt8} {bytes : Bytes}
    {padding nonces : List Stretch} {outcome : Except Failure Envelope}
    (noFault : ownFault? payload kind = none)
    (kindIs : kind.toNumber = .ok number.toNat) (isPayload : payload.toBytes = .ok bytes)
    (areDraws : Padding.AreAmountDraws padding (some byte))
    (raw : RawDraws (.octets (Padding.padded number bytes (byte.toNat + 1))) publicKey privateKey
      nonces outcome) :
    MessageDraws payload kind publicKey privateKey (padding ++ nonces) outcome where
  ofSent := by
    intro envelope sent
    obtain ⟨bytesAre, key, content, prepared, isContent, boxIs⟩ := raw.ofSent envelope sent
    obtain ⟨⟨rejected, paddingIs⟩, isSmall⟩ := areDraws
    cases isContent
    refine ⟨rejected, byte, number, bytes, key, ?_, isSmall byte rfl, kindIs, isPayload, prepared,
      boxIs⟩
    rw [List.map_append, paddingIs, bytesAre, List.append_assoc]
    rfl
  ofFailure := by
    intro failure failed
    obtain rfl : nonces = [] := raw.ofFailure _ failure rfl failed
    refine ⟨some byte, ?_⟩
    rwa [List.append_nil]
  ofOwnFault := by
    intro failure isFault
    cases noFault.symm.trans isFault
  ofKeyFault := by
    intro _ failure refused
    obtain ⟨failed, rfl⟩ := raw.ofKeyFault failure refused
    refine ⟨some byte, ?_, ?_⟩
    · rwa [List.append_nil]
    · rw [isPayload, failed]
      rfl
  ofRefused := by
    intro _ failure isRefused
    cases isPayload.symm.trans isRefused

/-- What is drawn for a padded message that is then sent as it stands. -/
theorem draws_wrap_then_sendRaw {number : UInt8} (kindIs : kind.toNumber = .ok number.toNat)
    (noFault : ownFault? payload kind = none) (context : Context) :
    ∃ stretches result,
      (Padding.wrap payload kind >>= fun padded =>
        sendRaw (.octets padded) publicKey privateKey).Draws context stretches result ∧
      MessageDraws payload kind publicKey privateKey stretches result.1 := by
  obtain ⟨padding, between, byte?, areDraws, wraps⟩ :=
    Padding.draws_wrap_of_byte payload kindIs context
  cases byte? with
  | none =>
    exact ⟨padding, _, .stop wraps, messageDraws_of_padding noFault areDraws rfl⟩
  | some byte =>
    cases isPayload : payload.toBytes with
    | error failure =>
      rw [isPayload] at wraps
      exact ⟨padding, _, .stop wraps, messageDraws_of_padding noFault areDraws isPayload⟩
    | ok bytes =>
      rw [isPayload] at wraps
      obtain ⟨nonces, result, sends, raw⟩ := draws_sendRaw
        (.octets (Padding.padded number bytes (byte.toNat + 1))) publicKey privateKey between
      exact ⟨padding ++ nonces, result, .bind wraps sends,
        messageDraws_of_rawDraws noFault kindIs isPayload areDraws raw⟩

theorem draws_send_of_ownFault? {failure : Failure}
    (isFault : ownFault? payload kind = some failure) (context : Context) :
    ∃ after, (send payload kind publicKey privateKey).Draws context [] (.error failure, after) := by
  rw [ownFault?] at isFault
  rw [send]
  cases kindIs : kind.toNumber with
  | error fault =>
    rw [kindIs] at isFault
    cases isFault
    exact ⟨_, .ofExcept_error _ context⟩
  | ok number =>
    cases lengthIs : payload.length with
    | error fault =>
      rw [kindIs, lengthIs] at isFault
      cases isFault
      exact ⟨_, .ofExcept_ok (.ofExcept_error _ context)⟩
    | ok length =>
      by_cases fits : 0 ≤ number ∧ number ≤ 0xFF
      · simp only [kindIs, lengthIs, if_pos fits] at isFault
        cases isFault
      · simp only [kindIs, lengthIs, if_neg fits] at isFault
        cases isFault
        have refuses (between : Context) : (Padding.wrap payload kind).Draws between []
            (.error (.badValue .kindTooWide), between) := by
          rw [Padding.wrap, kindIs]
          refine .ofExcept_ok ?_
          rw [if_neg fits]
          exact .ofExcept _ _
        exact ⟨_, .ofExcept_ok (.ofExcept_ok (.behind_record (.stop (refuses _))))⟩

/-- What is drawn for a message. -/
theorem draws_send (payload kind publicKey privateKey : Value) (context : Context) :
    ∃ stretches result, (send payload kind publicKey privateKey).Draws context stretches result ∧
      MessageDraws payload kind publicKey privateKey stretches result.1 := by
  cases isFault : ownFault? payload kind with
  | none =>
    obtain ⟨number, length, kindIs, lengthIs⟩ := exists_byte_of_ownFault?_eq_none isFault
    obtain ⟨stretches, result, draws, accounted⟩ :=
      @draws_wrap_then_sendRaw payload kind publicKey privateKey number kindIs isFault
        ((Work.record .debug .publicBox (sendingRecord number.toNat length)).perform context).2
    refine ⟨stretches, result, ?_, accounted⟩
    rw [send, kindIs, lengthIs]
    exact .ofExcept_ok (.ofExcept_ok (.behind_record draws))
  | some failure =>
    obtain ⟨after, draws⟩ := draws_send_of_ownFault? isFault context
    exact ⟨[], _, draws, messageDraws_of_ownFault? isFault⟩

end Sending
end SealedGateway
