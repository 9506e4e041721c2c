import SealedGateway.Console.SendingPage
import SealedGateway.Proofs.Console.Parts
import SealedGateway.Proofs.Gateway.FileFlow
import SealedGateway.Proofs.Work.Outcomes

/-!
# The stages of the sending page

The part of the page that is about files has two stages.  The first may lock an uploaded file, and
then keeps it on the desk and offers its blob; the second may send a descriptor of the file on the
desk.  Each stage either does all of this or only shows what tells nothing of files.
-/

namespace SealedGateway

/-- Whether a file on the desk has the name and the size of an uploaded one, and the key that opens
a blob to it. -/
structure PendingFile.Describes (file : PendingFile) (name : String) (content blob : Bytes) :
    Prop where
  name : file.name = name
  size : file.size = content.length
  key : ∃ key, SymmetricKey.ofText (Value.ofString file.key.text) = .ok key ∧
    LockedFile.unlockWith ⟨blob, none⟩ (.symmetricKey key) = .ok ⟨content, none⟩

/-- Whether an envelope carries a message about a file on the desk under a shared key: for everyone
who shares the key it opens to a descriptor with the typed identifier and with the key, the size and
the name of the file. -/
def Envelope.Announces (envelope : Envelope) (sharedKey : Octets 32) (file : PendingFile)
    (blobText : String) : Prop :=
  ∃ payload descriptor,
    (∀ publicKey privateKey,
      PublicBox.prepare (.cannotOpen .unusableKeys) publicKey privateKey = .ok sharedKey →
        Opening.openMessage (.octets envelope.box) (.octets envelope.nonce.toList) publicKey
          privateKey = .ok (UInt8.ofNat MessageKind.file.code, payload)) ∧
    Descriptor.ofJson (.octets payload) = .ok descriptor ∧
    BlobId.ofText (Value.ofString blobText) = .ok descriptor.fileBlobId ∧
    descriptor.encryptionKey = file.key.octets ∧ descriptor.fileSize = file.size ∧
    descriptor.fileName = some (WideText.ofString file.name)

/-- A text that is read as a media type is the media type. -/
theorem Descriptor.eq_of_readMediaType_text {text mediaType : WideText}
    (isRead : readMediaType (.text text) = .ok mediaType) : text = mediaType := by
  rw [readMediaType, Field.readText] at isRead
  by_cases isMediaType : MediaType.isMediaType text = true
  · simp only [isMediaType, if_true] at isRead
    exact Except.ok.inj isRead
  · simp only [isMediaType] at isRead
    cases isRead

namespace Element

/-- What an element offers for download, if it offers anything. -/
def blob? : Element → Option Bytes
  | .download _ content _ => some content
  | _ => none

/-- The entries of an element that is a record. -/
def entries? : Element → Option (List (WideText × Json))
  | .record entries => some entries
  | _ => none

/-- Whether an element neither offers a blob nor shows a record. -/
def IsNeutral (element : Element) : Prop :=
  element.entries? = none ∧ element.blob? = none

end Element

/-- Whether a blob is offered on a desk. -/
def Desk.Offers (desk : Desk) (blob : Bytes) : Prop :=
  ∃ entry ∈ desk.elements, entry.2.blob? = some blob

namespace SendingPage

/-! ## Messages about files -/

/-- The descriptor of a file on the desk has the typed identifier and the key, the size and the name
of the file, and nothing that is left out on the wire. -/
theorem describe_eq_ok {file : PendingFile} {blobText : String} {descriptor : Descriptor}
    (described : describe file blobText = .ok descriptor) :
    descriptor.IsValid ∧ descriptor.IsPlain ∧ descriptor.metadata = none ∧
      BlobId.ofText (Value.ofString blobText) = .ok descriptor.fileBlobId ∧
      descriptor.encryptionKey = file.key.octets ∧ descriptor.fileSize = file.size ∧
      descriptor.fileName = some (WideText.ofString file.name) := by
  rw [describe] at described
  cases read : BlobId.ofText (Value.ofString blobText) with
  | error fault =>
    rw [read] at described
    cases described
  | ok blobId =>
    rw [read] at described
    have isRead := Descriptor.ofFields_eq_ok_iff.mp described
    have blobIs : blobId = descriptor.fileBlobId := Except.ok.inj isRead.fileBlobId
    have mediaTypeIs : Descriptor.readMediaType (Value.ofString file.mediaType) =
        .ok descriptor.mediaType := isRead.mediaType
    have keyIs : Descriptor.readKey (Value.ofString file.key.text) =
        .ok descriptor.encryptionKey := isRead.encryptionKey
    have nameIs : some (WideText.ofString file.name) = descriptor.fileName :=
      Except.ok.inj isRead.fileName
    have noThumbnail : none = descriptor.thumbnailMediaType :=
      Except.ok.inj isRead.thumbnailMediaType
    have noDescription : none = descriptor.description := Except.ok.inj isRead.description
    have noHints : none = descriptor.metadata := Except.ok.inj isRead.metadata
    rw [SymmetricKey.ofString_text, Descriptor.readKey, Value.hexOctets_encode] at keyIs
    refine ⟨Descriptor.isValid_of_ofFields described, ⟨?_, ?_, ?_, ?_⟩, noHints.symm,
      congrArg Except.ok blobIs, (Except.ok.inj keyIs).symm,
      Descriptor.fileSize_of_ofFields described rfl, nameIs.symm⟩
    · rw [← Descriptor.eq_of_readMediaType_text mediaTypeIs]
      exact WideText.isPlain_ofChars _
    · rw [← noThumbnail]
      rintro _ ⟨⟩
    · rw [← nameIs]
      rintro text ⟨⟩
      exact WideText.isPlain_ofChars _
    · rw [← noDescription]
      rintro _ ⟨⟩

/-- The entries that are shown of an envelope. -/
def shownEntries (envelope : Envelope) : List (WideText × Json) :=
  envelope.formFields.map fun (name, value) =>
    (WideText.ofString name, .text (WideText.ofString value))

/-- A message that has been sent about a file announces the file. -/
theorem announces_of_sent {gateway : Gateway} {recipient : RecipientKey} {file : PendingFile}
    {blobText : String} {descriptor : Descriptor}
    (described : describe file blobText = .ok descriptor) {context after : Context}
    {envelope : Envelope}
    (sent : (gateway.sendDescriptor descriptor (.recipientKey recipient)).perform context =
      (.ok envelope, after)) :
    ∃ sharedKey,
      PublicBox.prepare .unusableKeys (.recipientKey recipient) gateway.ownKey = .ok sharedKey ∧
        envelope.Announces sharedKey file blobText := by
  obtain ⟨isValid, isPlain, noHints, blobIs, keyIs, sizeIs, nameIs⟩ := describe_eq_ok described
  obtain ⟨payload, written, sent⟩ := Sending.perform_sendDescriptor_eq_ok_iff.mp sent
  have hasShortSizes : descriptor.HasShortSizes := by
    rw [Descriptor.HasShortSizes, noHints]
    nofun
  obtain ⟨bytes, rewritten, isRead⟩ :=
    (Descriptor.toJson_of_isValid isValid hasShortSizes).1 isPlain
  obtain rfl : bytes = payload := Except.ok.inj (rewritten.symm.trans written)
  -- A descriptor of a file on the desk has no hints to lose, so it is read as it was written.
  have isSame : descriptor.withoutEmptyHints = descriptor := by
    rw [Descriptor.withoutEmptyHints, noHints]
    cases descriptor
    cases noHints
    rfl
  rw [isSame] at isRead
  have kindIs : (Value.messageKind .file).toNumber =
      .ok (UInt8.ofNat MessageKind.file.code).toNat := rfl
  obtain ⟨sharedKey, amount, prepared, bounds, boxIs⟩ := Sending.exists_key_of_send kindIs rfl sent
  refine ⟨sharedKey, prepared, bytes, descriptor, ?_, isRead, blobIs, keyIs, sizeIs, nameIs⟩
  intro publicKey privateKey isPrepared
  rw [boxIs]
  exact Opening.openMessage_lock isPrepared envelope.nonce _ bytes bounds

/-! ## Locking files -/

/-- The stage that locks an uploaded file. -/
def lockStage : Screen Unit := do
  if let some (name, content) ← Screen.askFile "Selecciona un archivo" then
    if ← Screen.askButton ⟨"Cifrar archivo", none, some "btn_file"⟩ then
      lockFile name content

/-- The stage that sends a message about a file, if there is one. -/
def messageFor (gateway : Gateway) (recipient : RecipientKey) (pending? : Option PendingFile) :
    Screen Unit := do
  let blobText ← Screen.askText ⟨"Id del blob subido", none, false, some "blob_id"⟩
  if let some pending := pending? then
    if blobText ≠ "" then
      if ← Screen.askButton ⟨"Cifrar mensaje de archivo", none, some "btn_file_msg"⟩ then
        sendPending gateway recipient pending blobText

/-- The file that is sent about is the one on the desk behind the first stage. -/
theorem fileTab_eq (gateway : Gateway) (recipient : RecipientKey) :
    fileTab gateway recipient =
      lockStage >>= fun _ => Screen.pending >>= messageFor gateway recipient := by
  rw [fileTab, lockStage]
  simp only [bind_assoc]
  congr 1
  funext file?
  cases file? with
  | none => rfl
  | some file =>
    simp only [bind_assoc]
    congr 1
    funext pressed
    cases pressed <;> rfl

/-- What a file becomes that is locked in a context: the file to keep, and its blob.  Its media type
is guessed only when it has been locked. -/
def keptFrom (name : String) (content : Bytes) (context : Context) :
    Except Failure (PendingFile × Bytes) := do
  let (locked, key) ← ((PlainFile.lockValues (.octets content) .null).perform context).1
  match FileName.guessType? name with
  | .ok guessed? =>
    return (⟨name, content.length, key, guessed?.getD unknownMediaType⟩, locked.file)
  | .error fault => .error (.badValue fault)

/-- Whether a file is encrypted in a context, as a blob under a key. -/
def EncryptsIn (context : Context) (content blob : Bytes) (key : SymmetricKey) : Prop :=
  ((PlainFile.lockValues (.octets content) .null).perform context).1 = .ok (⟨blob, none⟩, key)

section Kept

variable {name : String} {content blob : Bytes} {context : Context} {file : PendingFile}

end Kept

/-- What is shown of a file that has been locked. -/
def lockedElements (name : String) (blob : Bytes) : List Element :=
  [.download "Descargar blob cifrado" blob (name ++ ".blob"),
    .caption "Sube el blob al servidor de blobs y pega aquí el id que devuelve."]

/-- Locking an uploaded file ends the run where it fails; otherwise the file is kept on the desk and
its blob is offered. -/
theorem lockFile_apply (name : String) (content : Bytes) (answers : Answers) (desk : Desk) :
    lockFile name content answers desk =
      match keptFrom name content desk.context with
      | .error failure => (.error (.failed failure),
        desk.extend ((PlainFile.lockValues (.octets content) .null).perform desk.context).2 [])
      | .ok (file, blob) => (.ok (), Desk.extend { desk with pending := some file }
        ((PlainFile.lockValues (.octets content) .null).perform desk.context).2
          (lockedElements name blob)) := by
  rw [lockFile, Screen.bind_apply, Screen.perform_apply, keptFrom]
  rcases (PlainFile.lockValues (.octets content) .null).perform desk.context with
    ⟨failure | ⟨locked, key⟩, context⟩
  · simp only [Desk.extend, List.map_nil, List.append_nil]
    rfl
  · simp only
    rw [Screen.bind_apply, Screen.perform_apply, Work.perform_ofExcept]
    cases FileName.guessType? name with
    | error fault =>
      simp only [Desk.extend, List.map_nil, List.append_nil]
      rfl
    | ok guessed? => exact congrArg (Prod.mk _) (congrArg (Desk.mk _ _ _) (List.append_assoc ..))

/-- The file that the operator uploads and asks to have locked. -/
def fileToLock? (answers : Answers) : Option (String × Bytes) :=
  if answers.isPressed "btn_file" then answers.file? "Selecciona un archivo" else none

/-- The widgets of the first stage: the second is only shown for an uploaded file. -/
def lockWidgets : List Element :=
  [.uploader "Selecciona un archivo", .button ⟨"Cifrar archivo", none, some "btn_file"⟩]

theorem isNeutral_of_mem_lockWidgets : ∀ element ∈ lockWidgets, element.IsNeutral := by
  simp [lockWidgets, Element.IsNeutral, Element.entries?, Element.blob?]

/-- With nothing to lock, the first stage only shows widgets. -/
theorem lockStage_of_isNothing {answers : Answers} (isNothing : fileToLock? answers = none)
    (desk : Desk) :
    (lockStage answers desk).1 = .ok () ∧
      Desk.Gains Element.IsNeutral desk (lockStage answers desk).2 := by
  rw [lockStage, Screen.bind_apply, Screen.askFile_apply]
  cases uploaded : answers.file? "Selecciona un archivo" with
  | none =>
    refine ⟨rfl, rfl, rfl, lockWidgets.take 1, rfl, ?_⟩
    exact fun element isMember =>
      isNeutral_of_mem_lockWidgets element (List.mem_of_mem_take isMember)
  | some given =>
    have isUnpressed : answers.isPressed "btn_file" = false := by
      rw [fileToLock?, uploaded] at isNothing
      simpa using isNothing
    simp only [Screen.bind_apply, Screen.askButton_apply, Option.getD_some, isUnpressed,
      Bool.false_and, Bool.false_eq_true, if_false]
    exact ⟨rfl, rfl, rfl, lockWidgets, List.append_assoc .., isNeutral_of_mem_lockWidgets⟩

/-- With a file to lock, the first stage locks it below the widgets. -/
theorem lockStage_of_isGiven {answers : Answers} {name : String} {content : Bytes}
    (isGiven : fileToLock? answers = some (name, content)) (desk : Desk) :
    lockStage answers desk = lockFile name content answers
      (desk.extend desk.context lockWidgets) := by
  rw [fileToLock?] at isGiven
  split at isGiven
  · next isPressed =>
    rw [lockStage, Screen.bind_apply, Screen.askFile_apply, isGiven]
    simp only [Screen.bind_apply, Screen.askButton_apply, Option.getD_some, isPressed,
      Bool.true_and, Desk.extend_extend, Desk.context_extend]
    rfl
  · cases isGiven

section LockStage

variable {answers : Answers} {name : String} {content : Bytes}
  (isGiven : fileToLock? answers = some (name, content)) (desk : Desk)

include isGiven

/-- Where the locking of a file fails, the run fails and nothing is offered. -/
theorem lockStage_of_refused {failure : Failure}
    (refused : keptFrom name content desk.context = .error failure) :
    Desk.Gains Element.IsNeutral desk (lockStage answers desk).2 ∧
      (lockStage answers desk).1 = .error (.failed failure) := by
  rw [lockStage_of_isGiven isGiven, lockFile_apply, Desk.context_extend, refused]
  refine ⟨?_, rfl⟩
  simp only [Desk.extend_extend, List.append_nil]
  exact ⟨rfl, rfl, lockWidgets, rfl, isNeutral_of_mem_lockWidgets⟩

/-- A file that is locked is kept on the desk, and its blob is the only one that is offered. -/
theorem lockStage_of_kept {file : PendingFile} {blob : Bytes}
    (kept : keptFrom name content desk.context = .ok (file, blob)) :
    (lockStage answers desk).1 = .ok () ∧
      Desk.Gains (fun element => element.entries? = none ∧ ∀ other ∈ element.blob?, other = blob)
        { desk with pending := some file } (lockStage answers desk).2 ∧
      (lockStage answers desk).2.Offers blob := by
  rw [lockStage_of_isGiven isGiven, lockFile_apply, Desk.context_extend, kept]
  refine ⟨rfl, ⟨rfl, rfl, lockWidgets ++ lockedElements name blob, ?_, ?_⟩, ?_⟩
  · simp only [Desk.extend, List.map_append, List.append_assoc]
  · simp [lockWidgets, lockedElements, Element.entries?, Element.blob?]
  · exact ⟨(desk.tab, .download "Descargar blob cifrado" blob (name ++ ".blob")),
      List.mem_append_right _ List.mem_cons_self, rfl⟩

end LockStage

/-! ## Sending messages -/

/-- Whether entries are those of an envelope that announces the file on a desk to the recipient,
with the typed identifier. -/
def IsAnnouncement (gateway : Gateway) (recipient : RecipientKey) (answers : Answers)
    (pending? : Option PendingFile) (entries : List (WideText × Json)) : Prop :=
  ∃ file envelope sharedKey, pending? = some file ∧ entries = shownEntries envelope ∧
    PublicBox.prepare .unusableKeys (.recipientKey recipient) gateway.ownKey = .ok sharedKey ∧
      envelope.Announces sharedKey file (answers.textOr "" "blob_id")

/-- Whether an element offers no blob, and announces a file if it is a record. -/
def IsNews (gateway : Gateway) (recipient : RecipientKey) (answers : Answers)
    (pending? : Option PendingFile) (element : Element) : Prop :=
  element.blob? = none ∧ ∀ entries ∈ element.entries?,
    IsAnnouncement gateway recipient answers pending? entries

section Messages

variable (gateway : Gateway) (recipient : RecipientKey) (answers : Answers)

/-- Sending a message about a file shows an announcement of that file, or nothing of files. -/
theorem shows_sendPending (file : PendingFile) :
    Screen.Shows answers (IsNews gateway recipient answers (some file)) (fun _ => True)
      (sendPending gateway recipient file (answers.textOr "" "blob_id")) := by
  rw [sendPending]
  cases described : describe file (answers.textOr "" "blob_id") with
  | ok descriptor =>
    refine (Screen.Shows.perform _ fun _ => trivial).bind fun desk envelope isSent => .put ⟨rfl, ?_⟩
    rintro entries ⟨⟩
    obtain ⟨after, sent⟩ := Screen.exists_perform_of_apply isSent
    obtain ⟨sharedKey, prepared, announces⟩ := announces_of_sent described sent
    exact ⟨file, envelope, sharedKey, rfl, rfl, prepared, announces⟩
  | error failure =>
    simp only
    split
    · exact .reportAndStop ⟨rfl, nofun⟩ trivial
    · exact .halt trivial

theorem shows_messageFor (pending? : Option PendingFile) :
    Screen.Shows answers (IsNews gateway recipient answers pending?) (fun _ => True)
      (messageFor gateway recipient pending?) := by
  refine (Screen.Shows.askText ⟨rfl, nofun⟩).bind fun desk blobText isTyped => ?_
  obtain rfl : answers.textOr "" "blob_id" = blobText := Except.ok.inj isTyped
  cases pending? with
  | none => exact .pure ()
  | some file =>
    simp only
    split
    · refine (Screen.Shows.askButton ⟨rfl, nofun⟩).bind fun _ pressed _ => ?_
      split
      · exact shows_sendPending gateway recipient answers file
      · exact .pure ()
    · exact .pure ()

end Messages

/-! ## Both stages -/

section FileTab

variable (gateway : Gateway) (recipient : RecipientKey) {answers : Answers} (desk : Desk)

variable {name : String} {content : Bytes}
  (isGiven : fileToLock? answers = some (name, content))

include isGiven

end FileTab

/-! ## The text before a file -/

/-- Whether the operator asks for a text to be sent. -/
def AsksForText (answers : Answers) : Prop :=
  answers.textOr "" "Mensaje" ≠ "" ∧ answers.isPressed "btn_text" = true

instance (answers : Answers) : Decidable (AsksForText answers) :=
  inferInstanceAs (Decidable (_ ∧ _))

/-- The widgets of the part that sends text. -/
def textWidgets (answers : Answers) : List Element :=
  [.textArea "Mensaje",
    .button ⟨"Cifrar texto", some (answers.textOr "" "Mensaje").isEmpty, some "btn_text"⟩]

/-- The part that sends text shows its widgets and goes on if the operator asks for a text. -/
theorem textTab_apply (gateway : Gateway) (recipient : RecipientKey) (answers : Answers)
    (desk : Desk) :
    textTab gateway recipient answers desk =
      (if AsksForText answers then do
        let envelope ← Screen.perform (gateway.sendText
          (Value.ofString (answers.textOr "" "Mensaje")) (.recipientKey recipient))
        Screen.put (.success "Mensaje cifrado.")
        putEnvelope envelope
      else pure () : Screen Unit) answers
        (desk.extend desk.context (textWidgets answers)) := by
  have isAsked : (answers.isPressed "btn_text" &&
      some (answers.textOr "" "Mensaje").isEmpty != some true) = decide (AsksForText answers) := by
    by_cases isBlank : answers.textOr "" "Mensaje" = ""
    · simp [AsksForText, isBlank]
    · have isNonempty : (answers.textOr "" "Mensaje").isEmpty = false :=
        Bool.eq_false_iff.mpr fun isEmpty => isBlank (String.isEmpty_iff.mp isEmpty)
      simp [AsksForText, isBlank, isNonempty]
  rw [textTab, Screen.bind_apply, Screen.askLines_apply]
  simp only
  rw [Screen.bind_apply, Screen.askButton_apply]
  simp only [Option.getD_some, isAsked, decide_eq_true_eq, Desk.extend_extend, Desk.context_extend]
  rfl

/-- The context in which a run comes to its file: a text that is asked for has been sent before. -/
def contextAtFile (gateway : Gateway) (recipient : RecipientKey) (answers : Answers)
    (context : Context) : Except Failure Context :=
  if AsksForText answers then
    match (gateway.sendText (Value.ofString (answers.textOr "" "Mensaje"))
        (.recipientKey recipient)).perform context with
    | (.ok _, after) => .ok after
    | (.error failure, _) => .error failure
  else .ok context

end SendingPage
end SealedGateway
