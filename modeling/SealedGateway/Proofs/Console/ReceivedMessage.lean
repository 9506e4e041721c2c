import SealedGateway.Proofs.Console.ReceivingStages

/-!
# What the receiving page shows of a message

A run of the receiving page that is asked for it either accepts the message in the typed body and
shows it, or it shows one error and stops.  What is in the box of the message is shown behind the
message only, if the typed key of the sender opens the box.
-/

namespace SealedGateway

/-- The elements that a desk shows, wherever they stand. -/
def Desk.shown (desk : Desk) : List Element := desk.elements.map Prod.snd

/-- Whether an element is the success line or an entry of a message. -/
def Element.IsStatement : Element → Prop
  | .success _ | .entry _ _ => True
  | _ => False

/-- Whether an element is one in which the content of a box is shown. -/
def Element.IsContent : Element → Prop
  | .code _ | .record _ => True
  | _ => False

namespace ReceivingPage

/-- What a run that is asked discloses of a message, and how it ends. -/
structure Typed.Discloses (typed : Typed) (context : Context) (shown : List Element)
    (ending : Ending) : Prop where
  /-- The success line and the entries are shown exactly of an accepted message. -/
  statements : ∀ element, element.IsStatement → (element ∈ shown ↔
    ∃ own message, typed.Accepts context own message ∧ element ∈ messageElements message)
  /-- An accepted message is shown whole, with what is shown of its box behind it. -/
  accepted : ∀ own message, typed.Accepts context own message → ∃ further,
    shown = headElements ++ messageElements message ++ further ∧
      typed.Concludes own message further ending
  /-- If none is accepted, the run shows one error and stops.  The error says nothing of the
  message, or it is for a name that the body repeats. -/
  refused : (∀ own message, ¬ typed.Accepts context own message) → ending = .stopped ∧
    ∃ failure, shown = headElements ++ [.error (refusalText failure)] ∧ typed.IsRefusal failure
  /-- The content of a box is shown exactly if its message is accepted and the key of the sender
  opens it. -/
  contents : ∀ element, element.IsContent → (element ∈ shown ↔
    ∃ own message kind payload, typed.Accepts context own message ∧
      typed.Opens own message kind payload ∧ contentOf? kind payload = some element)
  /-- No documented error and no error about a value is left uncaught. -/
  escapes : ∀ failure, ending = .failed failure →
    failure.isReported = false ∧ failure.isBadValue = false

/-- At most one message is accepted. -/
theorem Typed.Accepts.unique {typed : Typed} {context : Context} {own otherOwn : PrivateKey}
    {message other : Incoming} (accepts : typed.Accepts context own message)
    (acceptsOther : typed.Accepts context otherOwn other) : own = otherOwn ∧ message = other :=
  ⟨Except.ok.inj (accepts.own.symm.trans acceptsOther.own),
    Except.ok.inj (accepts.message.symm.trans acceptsOther.message)⟩

/-- A box holds at most one payload. -/
theorem Typed.Opens.unique {typed : Typed} {own : PrivateKey} {message : Incoming}
    {kind otherKind : UInt8} {payload otherPayload : Bytes}
    (opens : typed.Opens own message kind payload)
    (opensOther : typed.Opens own message otherKind otherPayload) :
    kind = otherKind ∧ payload = otherPayload := by
  obtain ⟨senderKey, isSpelled, isOpened⟩ := opens
  obtain ⟨_, isSpelledToo, isOpenedToo⟩ := opensOther
  cases isSpelled.symm.trans isSpelledToo
  exact List.cons.inj (isOpened.unique isOpenedToo)

/-- Without a key of the sender nothing is opened. -/
theorem Typed.Opens.sender_ne {typed : Typed} {own : PrivateKey} {message : Incoming} {kind : UInt8}
    {payload : Bytes} (opens : typed.Opens own message kind payload) : typed.sender ≠ "" := by
  intro isBlank
  obtain ⟨senderKey, isSpelled, peer, _, _, isKey, -⟩ := opens
  rw [isBlank] at isSpelled
  cases isSpelled
  have hasLength := peer.length_toList
  rw [isKey] at hasLength
  cases hasLength

/-- A file message that gives no descriptor is the only payload in its box. -/
theorem Typed.Opens.not_exists_content {typed : Typed} {own : PrivateKey} {message : Incoming}
    {kind : UInt8} {payload : Bytes} {element : Element} {failure : Failure}
    (opens : typed.Opens own message kind payload)
    (isFile : MessageKind.ofCode? kind.toNat = some .file)
    (refused : Descriptor.ofJson (.octets payload) = .error failure) :
    ¬ ∃ kind payload, typed.Opens own message kind payload ∧
      contentOf? kind payload = some element := by
  rintro ⟨_, _, opensToo, isElement⟩
  obtain ⟨rfl, rfl⟩ := opens.unique opensToo
  rw [contentOf?, isFile] at isElement
  simp only [refused] at isElement
  cases isElement

/-- What shows a payload is content, and so neither the success line nor an entry. -/
theorem isContent_of_contentOf? {kind : UInt8} {payload : Bytes} {element : Element}
    (isContent : contentOf? kind payload = some element) : element.IsContent := by
  unfold contentOf? at isContent
  split at isContent
  · cases isContent
    trivial
  · split at isContent
    · cases isContent
      trivial
    · cases isContent
  · cases isContent
    trivial

theorem not_isStatement_of_isContent {element : Element} (isContent : element.IsContent) :
    ¬ element.IsStatement := by
  cases element <;> first | exact id | exact isContent.elim

section Disclosure

variable {typed : Typed} {context : Context} {own : PrivateKey} {message : Incoming}
  {shown : List Element} {ending : Ending} {element : Element}

theorem forall_mem_headElements (element : Element) (isMember : element ∈ headElements) :
    ¬ element.IsStatement ∧ ¬ element.IsContent := by
  simp only [headElements, List.mem_cons, List.not_mem_nil, or_false] at isMember
  rcases isMember with rfl | rfl | rfl | rfl | rfl | rfl <;> exact ⟨id, id⟩

theorem isStatement_of_mem_messageElements (isMember : element ∈ messageElements message) :
    element.IsStatement := by
  simp only [messageElements, List.mem_cons, List.not_mem_nil, or_false] at isMember
  rcases isMember with rfl | rfl | rfl | rfl | rfl | rfl <;> trivial

namespace Typed.Concludes

variable (concludes : typed.Concludes own message shown ending)

include concludes

/-- Without a key of the sender nothing more is shown. -/
theorem eq_nil_of_blank (isBlank : typed.sender = "") : shown = [] := by
  cases concludes with
  | unasked => rfl
  | content opens => exact absurd isBlank opens.sender_ne
  | malformed opens => exact absurd isBlank opens.sender_ne
  | tooDeep => rfl
  | closed isTyped => exact absurd isBlank isTyped

theorem not_isStatement (isMember : element ∈ shown) : ¬ element.IsStatement := by
  cases concludes with
  | unasked => cases isMember
  | content _ isContent =>
    rw [List.mem_singleton.mp isMember]
    exact not_isStatement_of_isContent (isContent_of_contentOf? isContent)
  | malformed =>
    rw [List.mem_singleton.mp isMember]
    exact id
  | tooDeep => cases isMember
  | closed =>
    rw [List.mem_singleton.mp isMember]
    exact id

/-- Content is shown exactly of a box that the key of the sender opens. -/
theorem mem_iff (isContent : element.IsContent) :
    element ∈ shown ↔ ∃ kind payload, typed.Opens own message kind payload ∧
      contentOf? kind payload = some element := by
  cases concludes with
  | unasked isBlank =>
    refine iff_of_false List.not_mem_nil ?_
    rintro ⟨kind, payload, opens, -⟩
    exact opens.sender_ne isBlank
  | @content kind payload other opens isOther =>
    constructor
    · intro isMember
      rw [List.mem_singleton.mp isMember]
      exact ⟨kind, payload, opens, isOther⟩
    · rintro ⟨_, _, opensToo, isElement⟩
      obtain ⟨rfl, rfl⟩ := opens.unique opensToo
      cases isOther.symm.trans isElement
      exact List.mem_cons_self
  | malformed opens isFile refused =>
    refine iff_of_false (fun isMember => ?_) (opens.not_exists_content isFile refused)
    rwa [List.mem_singleton.mp isMember] at isContent
  | tooDeep opens isFile givesUp =>
    exact iff_of_false List.not_mem_nil (opens.not_exists_content isFile givesUp)
  | closed _ isClosed =>
    refine iff_of_false (fun isMember => ?_) ?_
    · rwa [List.mem_singleton.mp isMember] at isContent
    · rintro ⟨kind, payload, opens, -⟩
      exact isClosed kind payload opens

theorem escapes {failure : Failure} (fails : ending = .failed failure) :
    failure.isReported = false ∧ failure.isBadValue = false := by
  cases concludes <;> cases fails
  exact ⟨rfl, rfl⟩

end Typed.Concludes

theorem discloses_of_refused {failure : Failure} (isRefusal : typed.IsRefusal failure)
    (acceptsNone : ∀ own message, ¬ typed.Accepts context own message) :
    typed.Discloses context (headElements ++ [.error (refusalText failure)]) .stopped where
  statements element isStatement := by
    refine iff_of_false (fun isMember => ?_) ?_
    · rcases List.mem_append.mp isMember with isHead | isError
      · exact (forall_mem_headElements element isHead).1 isStatement
      · rwa [List.mem_singleton.mp isError] at isStatement
    · rintro ⟨own, message, accepts, -⟩
      exact acceptsNone own message accepts
  accepted own message accepts := absurd accepts (acceptsNone own message)
  refused _ := ⟨rfl, failure, rfl, isRefusal⟩
  contents element isContent := by
    refine iff_of_false (fun isMember => ?_) ?_
    · rcases List.mem_append.mp isMember with isHead | isError
      · exact (forall_mem_headElements element isHead).2 isContent
      · rwa [List.mem_singleton.mp isError] at isContent
    · rintro ⟨own, message, _, _, accepts, -⟩
      exact acceptsNone own message accepts
  escapes := nofun

theorem discloses_of_accepted (accepts : typed.Accepts context own message)
    (concludes : typed.Concludes own message shown ending) :
    typed.Discloses context (headElements ++ messageElements message ++ shown) ending where
  statements element isStatement := by
    -- Each part of the page shows its own kind of element, so one of a kind stands in one part.
    have isElsewhere : element ∉ headElements ∧ element ∉ shown :=
      ⟨fun isHead => (forall_mem_headElements element isHead).1 isStatement,
        fun isShown => concludes.not_isStatement isShown isStatement⟩
    simp only [List.mem_append, isElsewhere.1, isElsewhere.2, false_or, or_false]
    constructor
    · exact fun isMember => ⟨own, message, accepts, isMember⟩
    · rintro ⟨_, other, acceptsOther, isMember⟩
      rwa [(accepts.unique acceptsOther).2]
  accepted _ other acceptsOther := by
    obtain ⟨rfl, rfl⟩ := accepts.unique acceptsOther
    exact ⟨shown, rfl, concludes⟩
  refused acceptsNone := absurd accepts (acceptsNone own message)
  contents element isContent := by
    have isElsewhere : element ∉ headElements ∧ element ∉ messageElements message :=
      ⟨fun isHead => (forall_mem_headElements element isHead).2 isContent, fun isMember =>
        not_isStatement_of_isContent isContent (isStatement_of_mem_messageElements isMember)⟩
    simp only [List.mem_append, isElsewhere.1, isElsewhere.2, false_or]
    rw [concludes.mem_iff isContent]
    constructor
    · rintro ⟨kind, payload, opens, isElement⟩
      exact ⟨own, message, kind, payload, accepts, opens, isElement⟩
    · rintro ⟨_, _, kind, payload, acceptsOther, opens, isElement⟩
      obtain ⟨rfl, rfl⟩ := accepts.unique acceptsOther
      exact ⟨kind, payload, opens, isElement⟩
  escapes _ fails := concludes.escapes fails

theorem Typed.Receives.discloses (receives : typed.Receives context shown ending) :
    typed.Discloses context (headElements ++ shown) ending := by
  cases receives with
  | refused isRefusal acceptsNone => exact discloses_of_refused isRefusal acceptsNone
  | accepted accepts concludes =>
    rw [← List.append_assoc]
    exact discloses_of_accepted accepts concludes

end Disclosure

/-- The desk on which a run that is asked looks at the body. -/
def askedDesk (desk : Desk) : Desk :=
  Desk.extend { desk with tab := none, elements := [] } desk.context headElements

/-- A run that is asked shows its widgets and what comes of the body. -/
theorem run_of_receive {answers : Answers} (asks : AsksToReceive answers) {desk : Desk}
    {shown : List Element} {ending : Ending} {after : Context}
    (isReceived : receive (typed answers).secret (typed answers).privateKey (typed answers).sender
      (typed answers).body answers (askedDesk desk) =
        (ending.outcome, (askedDesk desk).extend after shown)) :
    (screen.run answers desk).2.shown = headElements ++ shown ∧
      (screen.run answers desk).1 = ending := by
  rw [askedDesk, ← screen_of_asks asks, Desk.extend_extend] at isReceived
  rw [Screen.run_of_apply isReceived]
  refine ⟨?_, rfl⟩
  simp [Desk.shown, Desk.extend, Function.comp_def]

/-- A run in which a body is rejected reports it. -/
theorem shown_of_refused {answers : Answers} (asks : AsksToReceive answers) {desk : Desk}
    {failure : Failure} (isRefusal : (typed answers).IsRefusal failure)
    (refused : ((accept (typed answers).secret (typed answers).privateKey
      (typed answers).body).perform (askedDesk desk).context).1 = .error failure) :
    (screen.run answers desk).2.shown = headElements ++ [.error (refusalText failure)] := by
  obtain ⟨after, isReceived⟩ := receive_of_refused isRefusal answers refused
  exact (run_of_receive asks isReceived).1

/-- A run that is asked shows the message that it accepts, and what is in its box if the key of the
sender opens that; otherwise it shows one error and stops.  No error is left uncaught but that of a
reader that gives up. -/
theorem run_discloses (answers : Answers) (desk : Desk) (asks : AsksToReceive answers) :
    (typed answers).Discloses desk.context (screen.run answers desk).2.shown
      (screen.run answers desk).1 := by
  obtain ⟨shown, ending, after, receives, isReceived⟩ :=
    receive_cases (typed answers) answers (askedDesk desk)
  obtain ⟨isShown, isEnding⟩ := run_of_receive asks isReceived
  rw [isShown, isEnding]
  exact receives.discloses

/-- The page accepts the customary body of a message that is signed under the typed secret. -/
theorem Typed.accepts_of_signedForm {typed : Typed} {own : PrivateKey}
    (isOwn : PrivateKey.ofValue (Value.ofString typed.privateKey) = .ok own) {delivery : Delivery}
    {envelope : Envelope} {form : Form}
    (signed : delivery.signedForm envelope typed.secret = .ok form)
    (isEncoded : form.encoded = WideText.ofString typed.body)
    (isRun : Numeral.IsRun delivery.date.toList)
    (isShort : (Numeral.significant delivery.date.toList).length ≤ 4300) (context : Context) :
    ∃ code, typed.Accepts context own (delivery.incoming envelope code) := by
  obtain ⟨code, -, accepted⟩ := Delivery.outcome_of_signedForm signed form.writes_encoded
    (.text form.encoded) isRun isShort context
  refine ⟨code, isOwn, ?_⟩
  rw [Form.strip_of_encoded isEncoded, Value.ofString, ← isEncoded]
  exact accepted

/-- A delivery with a short text in each field. -/
def shortDelivery : Delivery := ⟨"A", "B", "C", "0"⟩

/-- The customary body of that delivery with an empty box, signed under a short secret. -/
def signedBody : String :=
  match shortDelivery.signedForm ⟨[], Octets.zero 24⟩ "s" with
  | .ok form => form.encoded.toString?.getD ""
  | .error _ => ""

/-- A run with that body and no key of the sender. -/
def signedAnswers : Answers :=
  [("Secreto de la API", .text "s"),
    ("Clave privada propia (hex)",
      .text "0101010101010101010101010101010101010101010101010101010101010101"),
    ("Cuerpo de la petición (url-encoded)", .text signedBody),
    ("Validar y descifrar", .pressed true)]

theorem run_discloses_of_signedAnswers :
    AsksToReceive signedAnswers ∧
      ∃ code, (screen.run signedAnswers (Desk.ofContext (Context.initial []))).2.shown =
        headElements ++ messageElements (shortDelivery.incoming ⟨[], Octets.zero 24⟩ code) := by
  have typedIs : typed signedAnswers = ⟨"s",
      "0101010101010101010101010101010101010101010101010101010101010101", "", signedBody⟩ := by
    simp [typed, signedAnswers, Answers.textOr, Answers.find?]
  obtain ⟨form, signed⟩ := shortDelivery.exists_signedForm ⟨[], Octets.zero 24⟩ "s"
  have isEncoded : form.encoded = WideText.ofString signedBody := by
    obtain ⟨body, isBody⟩ :=
      (Form.isPlain_encoded (Delivery.isPlain_of_signedForm signed)).exists_string
    simp only [signedBody, signed, isBody, WideText.toString?_ofString, Option.getD_some]
  have isOwn : PrivateKey.ofValue (Value.ofString (typed signedAnswers).privateKey) =
      .ok ⟨Octets.ofPadded 32 (List.replicate 32 1)⟩ := by
    rw [typedIs]
    decide +kernel
  have asks : AsksToReceive signedAnswers := by
    rw [AsksToReceive, typedIs]
    refine ⟨⟨by decide, by decide, ?_⟩, by decide +kernel⟩
    intro isBlank
    obtain ⟨code, rfl, -⟩ := Delivery.exists_code_of_signedForm signed
    dsimp only at isBlank
    rw [isBlank] at isEncoded
    exact Form.encoded_ne_nil _ _ isEncoded
  have isSigned : shortDelivery.signedForm ⟨[], Octets.zero 24⟩ (typed signedAnswers).secret =
      .ok form := by
    rw [typedIs, signed]
  have isBody : form.encoded = WideText.ofString (typed signedAnswers).body := by
    rw [typedIs, isEncoded]
  obtain ⟨code, accepts⟩ := Typed.accepts_of_signedForm isOwn isSigned isBody (by decide)
    (by decide) (Context.initial [])
  obtain ⟨further, isShown, concludes⟩ :=
    (run_discloses signedAnswers (Desk.ofContext (Context.initial [])) asks).accepted _ _ accepts
  rw [concludes.eq_nil_of_blank (by rw [typedIs]), List.append_nil] at isShown
  exact ⟨asks, code, isShown⟩

/-- A run with a body in which a name occurs twice. -/
def duplicateAnswers : Answers :=
  [("Secreto de la API", .text "s"),
    ("Clave privada propia (hex)",
      .text "0101010101010101010101010101010101010101010101010101010101010101"),
    ("Cuerpo de la petición (url-encoded)", .text "Llame=1&Llame=2"),
    ("Validar y descifrar", .pressed true)]

theorem refusalText_ne_of_isSilent {failure : Failure} (isSilent : IsSilent failure) :
    refusalText failure ≠ "Mensaje rechazado: Campo duplicado: Llame" := by
  rcases isSilent with rfl | isMute
  · decide
  · cases isMute with
    | @fieldsMissing names _ =>
      intro same
      change WideText.ofString "Mensaje rechazado: " ++
        WideText.ofString ("Faltan campos: " ++ joinTexts ", " names) = _ at same
      rw [← WideText.ofString_append] at same
      -- The texts part behind the blank.
      have isSame := congrArg (fun text : String => text.toList[19]?)
        (WideText.ofString_injective same)
      simp [String.toList_append] at isSame
    | _ => decide

/-- A rejected message of which a run repeats a name, in an error that is none of those that say
nothing of a message. -/
theorem shown_duplicateAnswers :
    AsksToReceive duplicateAnswers ∧
      (∀ own message, ¬ (typed duplicateAnswers).Accepts (Context.initial []) own message) ∧
      (screen.run duplicateAnswers (Desk.ofContext (Context.initial []))).2.shown =
        headElements ++ [.error "Mensaje rechazado: Campo duplicado: Llame"] ∧
      ¬ ∃ failure, IsSilent failure ∧
        (screen.run duplicateAnswers (Desk.ofContext (Context.initial []))).2.shown =
          headElements ++ [.error (refusalText failure)] := by
  have asks : AsksToReceive duplicateAnswers := by
    decide +kernel
  have isRefused : Intake.outcome (Value.ofString (Text.strip (typed duplicateAnswers).body))
      (typed duplicateAnswers).secret (Context.initial []) =
      .error (.malformed (.duplicateField "Llame")) := by
    decide +kernel
  have isOwn : PrivateKey.ofValue (Value.ofString (typed duplicateAnswers).privateKey) =
      .ok ⟨Octets.ofPadded 32 (List.replicate 32 1)⟩ := by
    decide +kernel
  have isDuplicate : (typed duplicateAnswers).IsRefusal (.malformed (.duplicateField "Llame")) :=
    .inr ⟨"Llame", ⟨[("Llame", "1"), ("Llame", "2")], by decide +kernel, by decide⟩, rfl⟩
  have rejected : ((accept (typed duplicateAnswers).secret (typed duplicateAnswers).privateKey
      (typed duplicateAnswers).body).perform (Context.initial [])).1 =
      .error (.malformed (.duplicateField "Llame")) := by
    rw [perform_accept, isOwn, isRefused]
    rfl
  have isShown : (screen.run duplicateAnswers (Desk.ofContext (Context.initial []))).2.shown =
      headElements ++ [.error "Mensaje rechazado: Campo duplicado: Llame"] :=
    shown_of_refused asks isDuplicate rejected
  refine ⟨asks, ?_, isShown, ?_⟩
  · intro own message accepts
    cases isRefused.symm.trans accepts.message
  · rintro ⟨failure, isSilent, isShownToo⟩
    have isSame := List.append_cancel_left (isShown.symm.trans isShownToo)
    exact refusalText_ne_of_isSilent isSilent (Element.error.inj (List.cons.inj isSame).1).symm

end ReceivingPage
end SealedGateway
