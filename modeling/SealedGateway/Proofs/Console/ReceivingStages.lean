import SealedGateway.Console.ReceivingPage
import SealedGateway.Proofs.Console.Parts
import SealedGateway.Proofs.Descriptor.Receiving
import SealedGateway.Proofs.Webhook.Opened
import SealedGateway.Proofs.Webhook.Refusals

/-!
# The stages of the receiving page

The receiving page reads the private key, authenticates the body, opens the box of the message and
reads the payload.  A run goes as far as these succeed: what it can show and how it can end is one
case for each of the ways in which they can fail.
-/

namespace SealedGateway
namespace ReceivingPage

/-! ## What the page is given and what it shows -/

/-- What the operator has typed. -/
structure Typed where
  /-- The secret of the webhooks. -/
  secret : String
  /-- The own private key. -/
  privateKey : String
  /-- The public key of the sender. -/
  sender : String
  /-- The body of a webhook. -/
  body : String

/-- What is typed into the widgets of the page. -/
def typed (answers : Answers) : Typed where
  secret := answers.textOr "" "Secreto de la API"
  privateKey := answers.textOr "" "Clave privada propia (hex)"
  sender := answers.textOr "" "Clave pública del remitente (hex)"
  body := answers.textOr "" "Cuerpo de la petición (url-encoded)"

/-- Whether the operator asks for the body to be authenticated, which takes a secret and a private
key. -/
def AsksToReceive (answers : Answers) : Prop :=
  ((typed answers).secret ≠ "" ∧ (typed answers).privateKey ≠ "" ∧ (typed answers).body ≠ "") ∧
    answers.isPressed "Validar y descifrar" = true

instance (answers : Answers) : Decidable (AsksToReceive answers) :=
  inferInstanceAs (Decidable (_ ∧ _))

/-- The widgets of the page when it is asked. -/
def headElements : List Element :=
  [.title "📥 Recibir webhook", .textField ⟨"Secreto de la API", none, true, none⟩,
    .textField ⟨"Clave privada propia (hex)", none, true, none⟩,
    .textField (.plain "Clave pública del remitente (hex)"),
    .textArea "Cuerpo de la petición (url-encoded)",
    .button ⟨"Validar y descifrar", some false, none⟩]

/-- The nickname on a message as it is shown: a message without one has a dash. -/
def shownNickname (nickname? : Option WideText) : WideText :=
  match nickname? with
  | some nickname => if nickname = [] then "-" else nickname
  | none => "-"

/-- The elements that show an accepted message. -/
def messageElements (message : Incoming) : List Element :=
  [.success "✅ MAC verificado", .entry "**De:**" (.text message.sender),
    .entry "**Para:**" (.text message.recipient),
    .entry "**Id de mensaje:**" (.text message.messageId),
    .entry "**Fecha:**" (.number message.date),
    .entry "**Apodo:**" (.text (shownNickname message.nickname))]

/-- The element that shows a payload of a kind; there is none for a file message that gives no
descriptor. -/
def contentOf? (kind : UInt8) (payload : Bytes) : Option Element :=
  match MessageKind.ofCode? kind.toNat with
  | some .text => some (.code (Utf8.decodeForgiving payload))
  | some .file =>
    match Descriptor.ofJson (.octets payload) with
    | .ok descriptor => some (.record descriptor.wire)
    | .error _ => none
  | _ => some (.code (rawText kind payload))

/-- The text that reports why a message is rejected. -/
def refusalText (failure : Failure) : WideText :=
  if failure = .invalidMac then "❌ MAC inválido: mensaje rechazado."
  else WideText.ofString "Mensaje rechazado: " ++ failure.message?.getD ""

/-- Whether a reason for a rejection says nothing of the message. -/
def IsSilent (failure : Failure) : Prop :=
  failure = .badKey .privateHex ∨ Intake.IsMute failure

namespace Typed

variable (typed : Typed) (context : Context)

/-- Whether the private key is one and the body without blanks at its ends is accepted under the
secret. -/
structure Accepts (own : PrivateKey) (message : Incoming) : Prop where
  own : PrivateKey.ofValue (Value.ofString typed.privateKey) = .ok own
  message : Intake.outcome (Value.ofString (Text.strip typed.body)) typed.secret context =
    .ok message

/-- Whether the key of the sender opens the box of a message, and what is in it. -/
def Opens (own : PrivateKey) (message : Incoming) (kind : UInt8) (payload : Bytes) : Prop :=
  ∃ senderKey, Hex.decodeSpaced typed.sender = .ok senderKey ∧
    message.OpensAs senderKey own (kind :: payload)

/-- Whether a message is rejected for a reason: one that says nothing of it, or a name that the body
repeats. -/
def IsRefusal (failure : Failure) : Prop :=
  IsSilent failure ∨ ∃ name, Form.Repeats (Text.strip typed.body) name ∧
    failure = .malformed (.duplicateField name)

/-- What is shown behind an accepted message, and how the run ends. -/
inductive Concludes (own : PrivateKey) (message : Incoming) : List Element → Ending → Prop
  /-- Without a key of the sender the box stays closed. -/
  | unasked (isBlank : typed.sender = "") : Concludes own message [] .done
  | content {kind : UInt8} {payload : Bytes} {element : Element}
    (opens : typed.Opens own message kind payload)
    (isContent : contentOf? kind payload = some element) : Concludes own message [element] .done
  /-- A file message that gives no descriptor is reported. -/
  | malformed {kind : UInt8} {payload : Bytes} (opens : typed.Opens own message kind payload)
    (isFile : MessageKind.ofCode? kind.toNat = some .file)
    (refused : Descriptor.ofJson (.octets payload) = .error (.malformed .malformedDescriptor)) :
    Concludes own message
      [.error "Mensaje de archivo inválido: Mensaje de archivo mal formado"] .done
  /-- The reader of descriptors gives up on a file message. -/
  | tooDeep {kind : UInt8} {payload : Bytes} (opens : typed.Opens own message kind payload)
    (isFile : MessageKind.ofCode? kind.toNat = some .file)
    (givesUp : Descriptor.ofJson (.octets payload) = .error .tooDeep) :
    Concludes own message [] (.failed .tooDeep)
  /-- What is wrong with the key of the sender, the box or the padding is reported. -/
  | closed {failure : Failure} (isTyped : typed.sender ≠ "")
    (isClosed : ∀ kind payload, ¬ typed.Opens own message kind payload) :
    Concludes own message
      [.error (WideText.ofString "No se pudo descifrar: " ++ failure.message?.getD "")] .stopped

/-- What is shown below the widgets of the page, and how the run ends. -/
inductive Receives : List Element → Ending → Prop
  | refused {failure : Failure} (isRefusal : typed.IsRefusal failure)
    (acceptsNone : ∀ own message, ¬ typed.Accepts context own message) :
    Receives [.error (refusalText failure)] .stopped
  | accepted {own : PrivateKey} {message : Incoming} {shown : List Element} {ending : Ending}
    (accepts : typed.Accepts context own message)
    (concludes : typed.Concludes own message shown ending) :
    Receives (messageElements message ++ shown) ending

end Typed

/-! ## The parts of a run -/

theorem putMessage_apply (message : Incoming) (answers : Answers) (desk : Desk) :
    putMessage message answers desk =
      (.ok (), desk.extend desk.context (messageElements message)) := by
  rw [putMessage]
  simp only [Screen.bind_apply, Screen.put_apply, Desk.extend_extend]
  rfl

/-- A payload is shown, or it is a file message that gives no descriptor: one that is reported, or
one on which the reader gives up. -/
theorem putPayload_cases (kind : UInt8) (payload : Bytes) (answers : Answers) (desk : Desk) :
    (∃ element, contentOf? kind payload = some element ∧
      putPayload kind payload answers desk = (.ok (), desk.extend desk.context [element])) ∨
    MessageKind.ofCode? kind.toNat = some .file ∧
      (Descriptor.ofJson (.octets payload) = .error (.malformed .malformedDescriptor) ∧
          putPayload kind payload answers desk = (.ok (), desk.extend desk.context
            [.error "Mensaje de archivo inválido: Mensaje de archivo mal formado"]) ∨
        Descriptor.ofJson (.octets payload) = .error .tooDeep ∧
          putPayload kind payload answers desk = (.error (.failed .tooDeep), desk)) := by
  unfold putPayload contentOf?
  cases MessageKind.ofCode? kind.toNat with
  | none => exact .inl ⟨_, rfl, rfl⟩
  | some known =>
    cases known with
    | file =>
      rcases Descriptor.ofJson_cases (.octets payload) with
        ⟨descriptor, made⟩ | isMalformed | ⟨isDeep, -⟩
      · rw [made]
        exact .inl ⟨_, rfl, rfl⟩
      · have joined : WideText.ofString "Mensaje de archivo inválido: " ++
            WideText.ofString "Mensaje de archivo mal formado" =
              WideText.ofString "Mensaje de archivo inválido: Mensaje de archivo mal formado" := by
          rw [← WideText.ofString_append]
          simp
        rw [isMalformed, ← joined]
        exact .inr ⟨rfl, .inl ⟨rfl, rfl⟩⟩
      · rw [isDeep]
        exact .inr ⟨rfl, .inr ⟨rfl, rfl⟩⟩
    | _ => exact .inl ⟨_, rfl, rfl⟩

/-- The message is opened with the typed key of the sender if that opens it, and everything else is
caught. -/
theorem openMessage_cases (typed : Typed) (gateway : Gateway) (message : Incoming)
    (context : Context) :
    (∃ kind payload, ((openMessage gateway message typed.sender).perform context).1 =
        .ok (kind, payload) ∧ typed.Opens gateway.privateKey message kind payload) ∨
    ∃ failure, ((openMessage gateway message typed.sender).perform context).1 = .error failure ∧
      (failure.isReported || failure.isBadValue) = true ∧
      ∀ kind payload, ¬ typed.Opens gateway.privateKey message kind payload := by
  rw [openMessage, Work.perform_bind, Work.perform_ofExcept]
  cases spelled : Hex.decodeSpaced typed.sender with
  | error place =>
    refine .inr ⟨_, rfl, rfl, ?_⟩
    rintro kind payload ⟨senderKey, isSpelled, -⟩
    cases spelled.symm.trans isSpelled
  | ok senderKey =>
    rcases gateway.openIncoming_cases message senderKey context with
      ⟨kind, payload, isOpen, opens⟩ | ⟨failure, refused, isReported, isClosed⟩
    · exact .inl ⟨kind, payload, isOpen, senderKey, spelled, opens⟩
    · refine .inr ⟨failure, refused, by rw [isReported, Bool.true_or], ?_⟩
      rintro kind payload ⟨other, isSpelled, opens⟩
      cases spelled.symm.trans isSpelled
      exact isClosed _ opens

/-- Behind the private key, a body is accepted as by intake. -/
theorem perform_accept (typed : Typed) (context : Context) :
    ((accept typed.secret typed.privateKey typed.body).perform context).1 =
      ((PrivateKey.ofValue (Value.ofString typed.privateKey)).mapError .badKey).bind fun own =>
        (Intake.outcome (Value.ofString (Text.strip typed.body)) typed.secret context).map
          (Prod.mk ⟨"", typed.secret, own⟩) := by
  rw [accept, Gateway.create, Work.perform_bind, Work.perform_ofExcept]
  cases PrivateKey.ofValue (Value.ofString typed.privateKey) with
  | error fault => rfl
  | ok own =>
    simp only [Work.perform_bind, Gateway.accept, Intake.outcome]
    rcases (Intake.accept (Value.ofString (Text.strip typed.body)) typed.secret).perform
      context with ⟨_ | _, _⟩ <;> rfl

/-- A typed private key that is refused is refused for its spelling. -/
theorem eq_privateHex_of_ofValue {text : String} {fault : KeyFault}
    (refused : PrivateKey.ofValue (Value.ofString text) = .error fault) : fault = .privateHex := by
  rw [Value.ofString, PrivateKey.ofValue] at refused
  split at refused
  · cases refused
  · cases refused
    rfl

/-- What comes of a body: a gateway with the typed key and the message, or a reason to reject it. -/
theorem accept_cases (typed : Typed) (context : Context) :
    (∃ own message, typed.Accepts context own message ∧
      ((accept typed.secret typed.privateKey typed.body).perform context).1 =
        .ok (⟨"", typed.secret, own⟩, message)) ∨
    ∃ failure, typed.IsRefusal failure ∧ (∀ own message, ¬ typed.Accepts context own message) ∧
      ((accept typed.secret typed.privateKey typed.body).perform context).1 = .error failure := by
  -- The private key is read first: where it is refused, nothing is told of the body.
  rw [perform_accept]
  cases isOwn : PrivateKey.ofValue (Value.ofString typed.privateKey) with
  | error fault =>
    obtain rfl := eq_privateHex_of_ofValue isOwn
    refine .inr ⟨_, .inl (.inl rfl), fun own message accepts => ?_, rfl⟩
    cases isOwn.symm.trans accepts.own
  | ok own =>
    cases accepted : Intake.outcome (Value.ofString (Text.strip typed.body)) typed.secret
        context with
    | error failure =>
      refine .inr ⟨failure, ?_, fun own message accepts => ?_, rfl⟩
      · exact (Intake.isMute_or_repeats_of_outcome accepted).imp_left .inr
      · cases accepted.symm.trans accepts.message
    | ok message => exact .inl ⟨own, message, ⟨isOwn, accepted⟩, rfl⟩

/-- The box of an accepted message is looked at if there is a key of the sender. -/
def concluding (gateway : Gateway) (message : Incoming) (sender : String) : Screen Unit := do
  if sender ≠ "" then
    match ← Screen.attempt (openMessage gateway message sender) with
    | .ok (kind, payload) => putPayload kind payload
    | .error failure =>
      if failure.isReported || failure.isBadValue then
        Screen.reportAndStop "No se pudo descifrar: " failure
      else Screen.halt (.failed failure)

/-- Behind an accepted message, a run goes on in one of the ways in which it can. -/
theorem concluding_cases (typed : Typed) (gateway : Gateway) (message : Incoming)
    (answers : Answers) (desk : Desk) :
    ∃ shown ending after, typed.Concludes gateway.privateKey message shown ending ∧
      concluding gateway message typed.sender answers desk =
        (ending.outcome, desk.extend after shown) := by
  rw [concluding]
  by_cases isBlank : typed.sender = ""
  · refine ⟨[], .done, desk.context, .unasked isBlank, ?_⟩
    rw [if_neg (not_not_intro isBlank), Desk.extend_nil]
    rfl
  · rw [if_pos isBlank, Screen.bind_apply, Screen.attempt_apply]
    rcases openMessage_cases typed gateway message desk.context with
      ⟨kind, payload, isOpen, opens⟩ | ⟨failure, refused, isCaught, isClosed⟩
    · rw [isOpen]
      dsimp only
      generalize ((openMessage gateway message typed.sender).perform desk.context).2 = after
      rcases putPayload_cases kind payload answers (desk.extend after []) with
        ⟨element, isContent, isShown⟩ | ⟨isFile, ⟨isMalformed, isShown⟩ | ⟨isDeep, fails⟩⟩
      · rw [isShown, Desk.extend_extend]
        exact ⟨_, .done, _, .content opens isContent, rfl⟩
      · rw [isShown, Desk.extend_extend]
        exact ⟨_, .done, _, .malformed opens isFile isMalformed, rfl⟩
      · rw [fails]
        exact ⟨_, .failed .tooDeep, _, .tooDeep opens isFile isDeep, rfl⟩
    · rw [refused]
      dsimp only
      rw [if_pos isCaught, Screen.reportAndStop_apply, Desk.extend_extend]
      exact ⟨_, .stopped, _, .closed isBlank isClosed, rfl⟩

/-- A rejected body is reported, and the run stops. -/
theorem receive_of_refused {typed : Typed} {failure : Failure} (isRefusal : typed.IsRefusal failure)
    (answers : Answers) {desk : Desk}
    (refused : ((accept typed.secret typed.privateKey typed.body).perform desk.context).1 =
      .error failure) :
    ∃ after, receive typed.secret typed.privateKey typed.sender typed.body answers desk =
      (Ending.stopped.outcome, desk.extend after [.error (refusalText failure)]) := by
  rw [receive, Screen.bind_apply, Screen.attempt_apply, refused]
  generalize ((accept typed.secret typed.privateKey typed.body).perform desk.context).2 = after
  have isExtended := desk.extend_extend after after [] [.error (refusalText failure)]
  rw [List.nil_append] at isExtended
  refine ⟨after, ?_⟩
  rw [← isExtended]
  rcases isRefusal with (rfl | isMute) | ⟨name, -, rfl⟩
  · rfl
  · cases isMute <;> rfl
  · rfl

/-- An accepted message is shown, and the run goes on behind it. -/
theorem receive_of_accepted {typed : Typed} {gateway : Gateway} {message : Incoming}
    (answers : Answers) {desk : Desk}
    (accepted : ((accept typed.secret typed.privateKey typed.body).perform desk.context).1 =
      .ok (gateway, message)) :
    ∃ shown ending after, typed.Concludes gateway.privateKey message shown ending ∧
      receive typed.secret typed.privateKey typed.sender typed.body answers desk =
        (ending.outcome, desk.extend after (messageElements message ++ shown)) := by
  rw [receive, Screen.bind_apply, Screen.attempt_apply, accepted]
  generalize ((accept typed.secret typed.privateKey typed.body).perform desk.context).2 = between
  obtain ⟨shown, ending, after, concludes, isConcluded⟩ := concluding_cases typed gateway message
    answers (desk.extend between (messageElements message))
  refine ⟨shown, ending, after, concludes, ?_⟩
  change (putMessage message >>= fun _ => concluding _ message typed.sender) answers _ = _
  rw [Screen.bind_apply, putMessage_apply, Desk.extend_extend]
  rw [Desk.extend_extend] at isConcluded
  exact isConcluded

/-- A body that is looked at is received in one of the ways in which it can be. -/
theorem receive_cases (typed : Typed) (answers : Answers) (desk : Desk) :
    ∃ shown ending after, typed.Receives desk.context shown ending ∧
      receive typed.secret typed.privateKey typed.sender typed.body answers desk =
        (ending.outcome, desk.extend after shown) := by
  rcases accept_cases typed desk.context with
    ⟨own, message, accepts, accepted⟩ | ⟨failure, isRefusal, acceptsNone, refused⟩
  · obtain ⟨shown, ending, after, concludes, isReceived⟩ := receive_of_accepted answers accepted
    exact ⟨_, ending, after, .accepted accepts concludes, isReceived⟩
  · obtain ⟨after, isRejected⟩ := receive_of_refused isRefusal answers refused
    exact ⟨_, .stopped, after, .refused isRefusal acceptsNone, isRejected⟩

/-- A page that is asked shows its widgets and looks at the body. -/
theorem screen_of_asks {answers : Answers} (asks : AsksToReceive answers) (desk : Desk) :
    screen answers desk =
      receive (typed answers).secret (typed answers).privateKey (typed answers).sender
        (typed answers).body answers (desk.extend desk.context headElements) := by
  obtain ⟨⟨hasSecret, hasKey, hasBody⟩, isPressed⟩ := asks
  have isEnabled : ((answers.textOr "" "Secreto de la API").isEmpty ||
      (answers.textOr "" "Clave privada propia (hex)").isEmpty ||
      (answers.textOr "" "Cuerpo de la petición (url-encoded)").isEmpty) = false := by
    rw [Bool.eq_false_iff]
    simp only [ne_eq, Bool.or_eq_true, String.isEmpty_iff, not_or]
    exact ⟨⟨hasSecret, hasKey⟩, hasBody⟩
  have isFree : (some false != some true) = true := rfl
  rw [screen]
  simp only [Screen.bind_apply, Screen.put_apply, Screen.askText_apply, Screen.askLines_apply,
    Screen.askButton_apply, Option.getD_none, isEnabled, isPressed, isFree, Bool.true_and, if_true,
    Desk.extend_extend, Desk.context_extend]
  rfl

end ReceivingPage
end SealedGateway
