import SealedGateway.Proofs.Entropy.Calls
import SealedGateway.Proofs.Gateway.FileFlow
import SealedGateway.Proofs.Log.Records

/-!
# The log shows no secret

Each operation writes at most one record, and what it says is a function of a few public parts of
what the operation is asked and of its outcome.  So two runs that agree on those parts leave the
same records at every level, whatever the keys, the entropy and the contents.
-/

namespace SealedGateway

/-! ## Messages -/

namespace Padding

theorem isSilent_drawAmount : drawAmount.IsSilent := by
  intro context
  rw [Work.perform, drawAmount]
  split <;> exact ⟨rfl, rfl⟩

theorem isSilent_wrap (payload kind : Value) : (wrap payload kind).IsSilent := by
  refine (Work.IsSilent.ofExcept _).bind fun number => ?_
  split
  · refine isSilent_drawAmount.bind fun amount => ?_
    exact (Work.IsSilent.ofExcept _).bind fun bytes => .pure _
  · exact .ofExcept _

end Padding

namespace Sending

theorem isSilent_sendRaw (data publicKey privateKey : Value) :
    (sendRaw data publicKey privateKey).IsSilent := by
  refine (Work.IsSilent.ofExcept _).bind fun sharedKey => ?_
  refine (Work.IsSilent.draw 24).bind fun nonce => ?_
  exact (Work.IsSilent.ofExcept _).bind fun bytes => .pure _

/-- The record of a message that is sent, if it has a number for its kind and a length. -/
def report (number : Except Failure Int) (length : Except Failure Nat) : Option LogRecord :=
  match number, length with
  | .ok number, .ok length => some ⟨.debug, .publicBox, sendingRecord number length⟩
  | _, _ => none

/-- A message is recorded before anything else is done with it, so that the record is the same
whatever comes of the message. -/
theorem reports_send (payload kind publicKey privateKey : Value) :
    (send payload kind publicKey privateKey).Reports
      fun _ => report kind.toNumber payload.length := by
  refine .bind (.ofExcept _) ?_ fun _ number numberIs => ?_
  · intro _ failure isFailure
    rw [show kind.toNumber = .error failure from isFailure]
    rfl
  refine .bind (.ofExcept _) ?_ fun _ length lengthIs => ?_
  · intro _ failure isFailure
    rw [show payload.length = .error failure from isFailure]
    cases kind.toNumber <;> rfl
  rw [show kind.toNumber = .ok number from numberIs, show payload.length = .ok length from lengthIs]
  refine .record_bind ?_ fun _ => rfl
  exact (Padding.isSilent_wrap payload kind).bind fun padded => isSilent_sendRaw _ _ _

end Sending

/-- A message whose payload has been made is recorded with the number of its kind and the length of
the payload. -/
theorem Message.reports_send {message : Message} {payload kind : Value}
    (isMade : message.letter = .ok (payload, kind)) (publicKey privateKey : Value) :
    (message.send publicKey privateKey).Reports
      fun _ => Sending.report kind.toNumber payload.length := by
  rw [send_eq, isMade]
  exact Sending.reports_send payload kind publicKey privateKey

/-! ## Files -/

namespace PlainFile

/-- Whether a thumbnail is given. -/
def hasThumbnail : Value → Bool
  | .null => false
  | _ => true

theorem isSome_of_readThumbnail {thumbnail : Value} {bytes? : Option Bytes}
    (isRead : readThumbnail thumbnail = .ok bytes?) : bytes?.isSome = hasThumbnail thumbnail := by
  unfold readThumbnail at isRead
  split at isRead
  · cases isRead
    rfl
  · next isGiven =>
    rw [hasThumbnail]
    · cases read : thumbnail.toBytes with
      | error failure =>
        rw [read] at isRead
        cases isRead
      | ok bytes =>
        rw [read] at isRead
        cases isRead
        rfl
    · exact isGiven

/-- The record of a file that has been locked. -/
def report (length : Except Failure Nat) (hasThumbnail : Bool) :
    Except Failure (LockedFile × SymmetricKey) → Option LogRecord
  | .ok _ => length.toOption.map fun length => ⟨.debug, .fileBox, lockedRecord length hasThumbnail⟩
  | .error _ => none

theorem reports_lockValues (file thumbnail : Value) :
    (lockValues file thumbnail).Reports (report file.length (hasThumbnail thumbnail)) := by
  refine .bind (.draw 32) (fun _ _ _ => rfl) fun _ key _ => ?_
  refine .bind (.ofExcept _) (fun _ _ _ => rfl) fun _ fileBytes _ => ?_
  refine .bind (.ofExcept _) (fun _ _ _ => rfl) fun _ thumbnailBytes isThumbnail => ?_
  refine .bind (.ofExcept _) (fun _ _ _ => rfl) fun _ length lengthIs => ?_
  rw [show file.length = .ok length from lengthIs, ← isSome_of_readThumbnail isThumbnail]
  refine .record_bind ?_ fun _ => rfl
  exact .pure _

end PlainFile

/-! ## Webhooks -/

namespace Intake

/-- The record of a webhook: it names the message that has been accepted, or says that the code was
wrong. -/
def report : Except Failure Incoming → Option LogRecord
  | .ok message => some ⟨.debug, .intake, acceptedRecord message.messageId⟩
  | .error .invalidMac => some ⟨.warning, .intake, rejectedRecord⟩
  | .error _ => none

/-- A form without authenticated bytes is not recorded. -/
theorem report_of_compute_error {form : Form} {secret : String} {failure : Failure}
    (refused : Mac.compute form secret = .error failure) : report (.error failure) = none := by
  rw [Mac.compute, Mac.input] at refused
  rcases Mac.inputOf_cases form Mac.fieldNames with ⟨bytes, made, -⟩ | ⟨_, -, -, isMissing⟩ |
    ⟨_, -, _, -, -, isMarred⟩
  · rw [made] at refused
    cases refused
  · rw [isMissing] at refused
    cases refused
    rfl
  · rw [isMarred] at refused
    cases refused
    rfl

theorem reports_acceptForm (form : Form) (secret : String) :
    (acceptForm form secret).Reports report := by
  refine .bind (.orFail _ _) ?_ fun _ received isReceived => ?_
  · intro _ failure isFailure
    rw [Work.eq_of_perform_orFail_eq_error isFailure]
    rfl
  have code := Work.perform_orFail_eq_ok_iff.mp isReceived
  split
  · refine .bind (.ofExcept _) ?_ fun _ expected isExpected => ?_
    · intro _ failure isFailure
      exact report_of_compute_error isFailure
    obtain ⟨_, made⟩ := Mac.input_of_compute isExpected
    obtain ⟨texts, presents, -⟩ := exists_presents code made
    split
    · refine .bind (.ofExcept _) ?_ fun _ message _ => ?_
      · intro _ failure isFailure
        rcases interpret_cases presents with ⟨message, interpreted⟩ | refused
        · rw [interpreted] at isFailure
          cases isFailure
        · rw [refused] at isFailure
          cases isFailure
          rfl
      · refine .record_bind ?_ fun _ => rfl
        exact .pure _
    · refine .record_bind ?_ fun _ => rfl
      exact .ofExcept _
  · exact .of_isSilent (.ofExcept _) fun _ => rfl

theorem reports_accept (body : Value) (secret : String) :
    (accept body secret).Reports report := by
  refine .bind (.ofExcept _) ?_ fun _ form _ => reports_acceptForm form secret
  intro _ failure isFailure
  obtain rfl | ⟨fault, rfl⟩ := Form.ofBody_error_cases isFailure <;> rfl

end Intake

/-! ## Openings -/

namespace Opening

theorem isSilent_openBoxIn (box nonce publicKey privateKey : Value) :
    Work.IsSilent (openBoxIn box nonce publicKey privateKey) := by
  refine (Work.IsSilent.step _).bind fun nonceLength => ?_
  split
  · exact .throw _
  refine (Work.IsSilent.step _).bind fun sharedKey => ?_
  refine (Work.IsSilent.step _).bind fun boxBytes => ?_
  refine (Work.IsSilent.step _).bind fun nonceBytes => ?_
  split
  · exact .throw _
  split
  · exact .pure _
  · exact .throw _

theorem isSilent_openMessageIn (box nonce publicKey privateKey : Value) :
    Work.IsSilent (openMessageIn box nonce publicKey privateKey) := by
  refine (isSilent_openBoxIn box nonce publicKey privateKey).bind fun content => ?_
  split
  · exact .pure _
  · exact .throw _

end Opening

theorem LockedFile.isSilent_unlockIn (locked : LockedFile) (key : Value) :
    Work.IsSilent (locked.unlockIn key) := by
  refine (Work.IsSilent.step _).bind fun octets => ?_
  split
  · exact .pure _
  · exact .throw _

theorem Incoming.isSilent_openBoxIn (message : Incoming) (publicKey privateKey : Value) :
    Work.IsSilent (message.openBoxIn publicKey privateKey) := by
  refine (Opening.isSilent_openBoxIn _ _ _ _).bind fun content => ?_
  split
  · exact .pure _
  · exact .throw _

namespace Gateway

/-- The record of a message that has been opened: it says who sent it and of what kind it is. -/
def openingReport (sender : WideText) : Except Failure (UInt8 × Bytes) → Option LogRecord
  | .ok (kind, _) => some ⟨.debug, .service, openedRecord sender kind⟩
  | .error _ => none

theorem reports_openIncoming (gateway : Gateway) (message : Incoming) (sender : Value) :
    (gateway.openIncoming message sender).Reports (openingReport message.sender) := by
  refine .bind (message.isSilent_openBoxIn _ _) (fun _ _ _ => rfl) fun _ opened _ => ?_
  split
  · exact .of_isSilent (.ofExcept _) fun _ => rfl
  · refine .record_bind ?_ fun _ => rfl
    exact .pure _

end Gateway

/-! ## Pairs of runs -/

namespace Context

/-- At every level, two runs leave the same records if they agree on what is public: messages on the
number of the kind and the length of the payload, locked files on the length of the file and on
whether there is a thumbnail, webhooks on the identifier of the accepted message or on being refused
for their codes, and opened messages on the sender and the kind.  Keys, secrets, contents and
entropy may all differ.  Opening boxes and locked files and sending data as it stands leave no
record at all. -/
theorem leaveAlike_of_sameThresholds (first second : Context)
    (sameThresholds : first.thresholds = second.thresholds) :
    (∀ (message other : Message) (payload kind otherPayload otherKind publicKey privateKey
        otherPublicKey otherPrivateKey : Value),
      message.letter = .ok (payload, kind) → other.letter = .ok (otherPayload, otherKind) →
      kind.toNumber = otherKind.toNumber → payload.length = otherPayload.length →
        Work.LeaveAlike (message.send publicKey privateKey) first
          (other.send otherPublicKey otherPrivateKey) second) ∧
    (∀ (file thumbnail otherFile otherThumbnail : Value) (locked other : LockedFile × SymmetricKey),
      file.length = otherFile.length →
      PlainFile.hasThumbnail thumbnail = PlainFile.hasThumbnail otherThumbnail →
      ((PlainFile.lockValues file thumbnail).perform first).1 = .ok locked →
      ((PlainFile.lockValues otherFile otherThumbnail).perform second).1 = .ok other →
        Work.LeaveAlike (PlainFile.lockValues file thumbnail) first
          (PlainFile.lockValues otherFile otherThumbnail) second) ∧
    (∀ (body otherBody : Value) (secret otherSecret : String),
      (Intake.outcome body secret first = .error .invalidMac ∧
          Intake.outcome otherBody otherSecret second = .error .invalidMac ∨
        ∃ message other, Intake.outcome body secret first = .ok message ∧
          Intake.outcome otherBody otherSecret second = .ok other ∧
          message.messageId = other.messageId) →
        Work.LeaveAlike (Intake.accept body secret) first
          (Intake.accept otherBody otherSecret) second) ∧
    (∀ (gateway otherGateway : Gateway) (message other : Incoming) (senderKey otherKey : Value)
        (kind : UInt8) (payload otherPayload : Bytes),
      message.sender = other.sender →
      ((gateway.openIncoming message senderKey).perform first).1 = .ok (kind, payload) →
      ((otherGateway.openIncoming other otherKey).perform second).1 = .ok (kind, otherPayload) →
        Work.LeaveAlike (gateway.openIncoming message senderKey) first
          (otherGateway.openIncoming other otherKey) second) ∧
    ∀ (context : Context) (data box nonce publicKey privateKey fileKey : Value)
        (locked : LockedFile),
      Work.Leaves (Sending.sendRaw data publicKey privateKey) context [] ∧
      Work.Leaves (Opening.openBoxIn box nonce publicKey privateKey) context [] ∧
      Work.Leaves (Opening.openMessageIn box nonce publicKey privateKey) context [] ∧
      Work.Leaves (locked.unlockIn fileKey) context [] := by
  refine ⟨?_, ?_, ?_, ?_, ?_⟩
  · intro message other payload kind otherPayload otherKind publicKey privateKey otherPublicKey
      otherPrivateKey isMade isOtherMade sameNumber sameLength
    refine (Message.reports_send isMade publicKey privateKey).leaveAlike
      (Message.reports_send isOtherMade otherPublicKey otherPrivateKey) sameThresholds ?_
    rw [sameNumber, sameLength]
  · intro file thumbnail otherFile otherThumbnail locked other sameLength samePresence isLocked
      isOtherLocked
    refine (PlainFile.reports_lockValues file thumbnail).leaveAlike
      (PlainFile.reports_lockValues otherFile otherThumbnail) sameThresholds ?_
    rw [isLocked, isOtherLocked, sameLength, samePresence]
    rfl
  · intro body otherBody secret otherSecret samePublic
    refine (Intake.reports_accept body secret).leaveAlike
      (Intake.reports_accept otherBody otherSecret) sameThresholds ?_
    change Intake.report (Intake.outcome body secret first) =
      Intake.report (Intake.outcome otherBody otherSecret second)
    rcases samePublic with ⟨isRefused, isOtherRefused⟩ | ⟨message, other, isAccepted,
      isOtherAccepted, sameIdentifier⟩
    · rw [isRefused, isOtherRefused]
    · rw [isAccepted, isOtherAccepted, Intake.report, Intake.report, sameIdentifier]
  · intro gateway otherGateway message other senderKey otherKey kind payload otherPayload sameSender
      isOpened isOtherOpened
    refine (gateway.reports_openIncoming message senderKey).leaveAlike
      (otherGateway.reports_openIncoming other otherKey) sameThresholds ?_
    rw [isOpened, isOtherOpened, sameSender]
    rfl
  · intro context data box nonce publicKey privateKey fileKey locked
    exact ⟨(Sending.isSilent_sendRaw data publicKey privateKey).leaves context,
      (Opening.isSilent_openBoxIn box nonce publicKey privateKey).leaves context,
      (Opening.isSilent_openMessageIn box nonce publicKey privateKey).leaves context,
      (locked.isSilent_unlockIn fileKey).leaves context⟩

/-- A context in which every record is kept, with entropy that repeats one byte. -/
def verbose (byte : UInt8) : Context :=
  ⟨Entropy.ofBytes (List.replicate 40 byte), ⟨10, 10⟩, []⟩

/-- A delivery with an identifier that another delivery has as well. -/
def hushedDelivery : Delivery := ⟨"ECHOECHO", "*TESTTST", "mensaje 1", "1700000000"⟩

/-- A message to the test gateway with a payload of one byte in its box. -/
def sealedMessage (key : Octets 32) (kind byte : UInt8) : Incoming where
  sender := "ECHOECHO"
  recipient := "*TESTTST"
  messageId := "mensaje 1"
  date := 0
  nonce := Octets.zero 24
  box := SecretBox.lock key (Octets.zero 24) (Padding.padded kind [byte] 1)
  mac := ""
  nickname := none

theorem leaveAlike_of_sameThresholds_verbose :
    (verbose 7).thresholds = (verbose 8).thresholds ∧
    Work.LeaveAlike ((Message.text (.ofString "hola")).send .null .null) (verbose 7)
      ((Message.text (.ofString "adio")).send (.whole 1) .null) (verbose 8) ∧
    Work.LeaveAlike (PlainFile.lockValues (.octets [1, 2]) .null) (verbose 7)
      (PlainFile.lockValues (.octets [3, 4]) .null) (verbose 8) ∧
    Work.LeaveAlike
      (Intake.accept (hushedDelivery.customaryBody ⟨[1], Octets.zero 24⟩ "uno") "uno") (verbose 7)
      (Intake.accept (Gateway.escapedDelivery.customaryBody ⟨[2], Octets.zero 24⟩ "dos") "dos")
      (verbose 8) ∧
    ∃ key,
      Work.LeaveAlike
        (Gateway.testGateway.openIncoming (sealedMessage key 1 5)
          (.recipientKey Gateway.echoGateway.publicKey)) (verbose 7)
        (Gateway.testGateway.openIncoming (sealedMessage key 1 6)
          (.recipientKey Gateway.echoGateway.publicKey)) (verbose 8) := by
  obtain ⟨ofMessages, ofFiles, ofWebhooks, ofOpened, -⟩ :=
    leaveAlike_of_sameThresholds (verbose 7) (verbose 8) rfl
  refine ⟨rfl, ?_, ?_, ?_, ?_⟩
  · exact ofMessages _ _ (.octets [104, 111, 108, 97]) (.messageKind .text)
      (.octets [97, 100, 105, 111]) (.messageKind .text) _ _ _ _ rfl rfl rfl rfl
  · have isDrawn (byte : UInt8) : (verbose byte).entropy.draw? 32 =
        some (⟨List.replicate 32 byte, List.length_replicate⟩, ⟨List.replicate 8 byte, 32⟩) := rfl
    have hasBytes (bytes : Bytes) : (Value.octets bytes).toBytes = .ok bytes := rfl
    have isAbsent : PlainFile.readThumbnail .null = .ok none := rfl
    obtain ⟨locked, after, isLocked⟩ :=
      PlainFile.exists_locked_of_draw? (hasBytes [1, 2]) isAbsent rfl (isDrawn 7)
    obtain ⟨other, otherAfter, isOtherLocked⟩ :=
      PlainFile.exists_locked_of_draw? (hasBytes [3, 4]) isAbsent rfl (isDrawn 8)
    exact ofFiles _ _ _ _ _ _ rfl rfl (congrArg Prod.fst isLocked) (congrArg Prod.fst isOtherLocked)
  · obtain ⟨code, -, isAccepted⟩ := hushedDelivery.outcome_customaryBody ⟨[1], Octets.zero 24⟩ "uno"
      (by decide) (by decide) (verbose 7)
    obtain ⟨otherCode, -, isOtherAccepted⟩ := Gateway.escapedDelivery.outcome_customaryBody
      ⟨[2], Octets.zero 24⟩ "dos" (by decide) (by decide) (verbose 8)
    exact ofWebhooks _ _ _ _ (.inr ⟨_, _, isAccepted, isOtherAccepted, rfl⟩)
  · obtain ⟨key, prepared⟩ := Gateway.exists_prepare_echoGateway
    have isPrepared := Gateway.prepare_of_keysAgree Gateway.keysAgree_echoGateway prepared
    have isOpened (byte : UInt8) (context : Context) :
        ((Gateway.testGateway.openIncoming (sealedMessage key 1 byte)
          (.recipientKey Gateway.echoGateway.publicKey)).perform context).1 = .ok (1, [byte]) :=
      Gateway.openIncoming_padded isPrepared (by decide : 1 ≤ 1 ∧ 1 ≤ 255) rfl context
    exact ⟨key, ofOpened _ _ _ _ _ _ _ _ _ rfl (isOpened 5 _) (isOpened 6 _)⟩

end Context

end SealedGateway
