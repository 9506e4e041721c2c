import SealedGateway.Proofs.Console.PendingFile
import SealedGateway.Proofs.Descriptor.Rules
import SealedGateway.Proofs.Message.Refusals

/-!
# What the sending page reports

A run of the sending page reports keys that cannot be read and a file message that cannot be
described, and stops there.  One documented error ends a run without being reported: keys that can
be read but share no secret are only found out when something is sent, where nothing is caught.
-/

namespace SealedGateway

/-- Whether an element is anything but an error. -/
def Element.IsCalm (element : Element) : Prop :=
  ∀ text, element ≠ .error text

/-- Whether an error is shown on a desk. -/
def Desk.ShowsError (desk : Desk) : Prop :=
  ∃ tab text, (tab, Element.error text) ∈ desk.elements

namespace SendingPage

/-! ## What can be wrong -/

/-- Whether the operator asks for a file message to be sent, if a file waits. -/
def AsksForMessage (answers : Answers) : Prop :=
  answers.textOr "" "blob_id" ≠ "" ∧ answers.isPressed "btn_file_msg" = true

/-- The gateway whose private key is typed, if one is. -/
def readGateway (gatewayId privateKey : String) : Except Failure (Option Gateway) :=
  if privateKey = "" then .ok none
  else (Gateway.create gatewayId "" (Value.ofString privateKey)).map some

/-- The recipient whose key is typed, if one is. -/
def readRecipient (recipient : String) : Except Failure (Option RecipientKey) :=
  if recipient = "" then .ok none
  else
    match RecipientKey.ofText (Value.ofString recipient) with
    | .ok key => .ok (some key)
    | .error fault => .error (.badKey fault)

theorem readKeys_eq (gatewayId privateKey recipient : String) :
    readKeys gatewayId privateKey recipient = (do
      let gateway? ← readGateway gatewayId privateKey
      let recipient? ← readRecipient recipient
      return (gateway?, recipient?)) := by
  rw [readKeys, readGateway, readRecipient]
  by_cases isBlank : recipient = ""
  · simp only [if_pos isBlank]
    split <;> rfl
  · simp only [if_neg isBlank]
    rcases RecipientKey.ofText (Value.ofString recipient) with fault | key <;> split <;> rfl

/-- Keys that have been typed are refused as bad keys only. -/
theorem exists_fault_of_readKeys {gatewayId privateKey recipient : String} {failure : Failure}
    (refused : readKeys gatewayId privateKey recipient = .error failure) :
    ∃ fault, failure = .badKey fault := by
  rw [readKeys_eq] at refused
  rcases gatewayRead : readGateway gatewayId privateKey with other | gateway?
  · rw [gatewayRead] at refused
    cases refused
    unfold readGateway Gateway.create at gatewayRead
    split at gatewayRead
    · cases gatewayRead
    · split at gatewayRead
      · cases gatewayRead
      · next fault _ => exact ⟨fault, (Except.error.inj gatewayRead).symm⟩
  · rcases recipientRead : readRecipient recipient with other | recipient?
    · rw [gatewayRead, recipientRead] at refused
      cases refused
      unfold readRecipient at recipientRead
      split at recipientRead
      · cases recipientRead
      · split at recipientRead
        · cases recipientRead
        · next fault _ => exact ⟨fault, (Except.error.inj recipientRead).symm⟩
    · rw [gatewayRead, recipientRead] at refused
      cases refused

/-- Whatever is wrong with a file message is a documented error. -/
theorem isReported_of_describe {file : PendingFile} {blobText : String} {failure : Failure}
    (refused : describe file blobText = .error failure) : failure.isReported = true := by
  unfold describe at refused
  split at refused
  · cases refused
    rfl
  · generalize fieldsAre : [_, _, _, _, _] = fields at refused
    have isPlainFile : Descriptor.readRenderingField (Field.find? "rendering_type" fields) =
        .ok (.ok .file) := by
      rw [← fieldsAre]
      rfl
    rcases Descriptor.made_or_refused isPlainFile with ⟨descriptor, made⟩ | ⟨faults, isRefused⟩
    · cases made.symm.trans refused
    · cases isRefused.symm.trans refused
      rfl

/-! ## How the page ends -/

/-- Whether the page may end early in a way: it stops, or fails with no documented error, or with
that of keys which share no secret, for which something must have been asked. -/
def IsUsualEnd (gateway : Gateway) (recipient : RecipientKey) (asks : Prop) : Halt → Prop
  | .stopped => True
  | .failed failure => failure.isReported = true →
    failure = .unusableKeys ∧ gateway.SharesNoSecret recipient ∧ asks

section Ends

variable (gateway : Gateway) (recipient : RecipientKey) (answers : Answers)

theorem isUsualEnd_of_isSendingFault {asks : Prop} (areAsked : asks) {failure : Failure}
    (isFault : gateway.IsSendingFault recipient failure) :
    IsUsualEnd gateway recipient asks (.failed failure) := by
  intro isReported
  obtain ⟨isUnusable, sharesNone⟩ := isFault isReported
  exact ⟨isUnusable, sharesNone, areAsked⟩

theorem ends_textTab :
    Screen.Ends answers (IsUsualEnd gateway recipient (AsksForText answers))
      (textTab gateway recipient) := by
  refine .bind (.askLines _) fun _ text isTyped => .bind (.askButton _) fun _ pressed isAsked => ?_
  obtain rfl : answers.textOr "" "Mensaje" = text := Except.ok.inj isTyped
  rw [Screen.askButton_apply] at isAsked
  split
  · next isPressed =>
    have asks : AsksForText answers := by
      rw [← Except.ok.inj isAsked] at isPressed
      simpa [AsksForText, and_comm] using isPressed
    refine .bind (.perform (Gateway.sendText_failsWith _) fun failure isFault => ?_)
      fun _ envelope _ => .bind (.put _) fun _ _ _ => .put _
    exact isUsualEnd_of_isSendingFault gateway recipient asks isFault
  · exact .pure ()

theorem ends_lockStage :
    Screen.Ends answers (fun halt => ∃ failure, halt = .failed failure ∧
      failure.isReported = false) lockStage := by
  refine .bind (.askFile _) fun _ file? _ => ?_
  cases file? with
  | none => exact .pure ()
  | some file =>
    refine .bind (.askButton _) fun _ pressed _ => ?_
    split
    · refine .bind (.perform (PlainFile.lockValues_failsWith _) ?_) fun _ _ _ =>
        .bind (.perform (.ofExcept fun _ => id) ?_) fun _ _ _ =>
        .bind (.setPending _) fun _ _ _ => .bind (.put _) fun _ _ _ => .put _
      · rintro _ rfl
        exact ⟨_, rfl, rfl⟩
      · intro failure refused
        split at refused
        · cases refused
        · cases refused
          exact ⟨_, rfl, rfl⟩
    · exact .pure ()

theorem ends_messageFor (pending? : Option PendingFile) :
    Screen.Ends answers (IsUsualEnd gateway recipient (AsksForMessage answers))
      (messageFor gateway recipient pending?) := by
  refine .bind (.askText _) fun _ blobText isTyped => ?_
  obtain rfl : answers.textOr "" "blob_id" = blobText := Except.ok.inj isTyped
  cases pending? with
  | none => exact .pure ()
  | some file =>
    simp only
    split
    · next isTyped =>
      refine .bind (.askButton _) fun _ pressed isAsked => ?_
      rw [Screen.askButton_apply] at isAsked
      split
      · next isPressed =>
        have asks : AsksForMessage answers := by
          rw [← Except.ok.inj isAsked] at isPressed
          exact ⟨isTyped, by simpa using isPressed⟩
        rw [sendPending]
        split
        · refine .bind (.perform (Gateway.sendDescriptor_failsWith _) fun failure isFault => ?_)
            fun _ envelope _ => .put _
          exact isUsualEnd_of_isSendingFault gateway recipient asks isFault
        · next refused =>
          rw [if_pos (isReported_of_describe refused)]
          exact .reportAndStop trivial
      · exact .pure ()
    · exact .pure ()

/-- With both keys the page ends as its two parts do. -/
theorem ends_behindKeys :
    Screen.Ends answers
      (IsUsualEnd gateway recipient (AsksForText answers ∨ AsksForMessage answers))
      (behindKeys (.ok (some gateway, some recipient))) := by
  have weaken {asks others : Prop} (isWeaker : asks → others) (halt : Halt)
      (isEnd : IsUsualEnd gateway recipient asks halt) :
      IsUsualEnd gateway recipient others halt := by
    cases halt with
    | stopped => trivial
    | failed failure => exact fun isReported => (isEnd isReported).imp_right (.imp_right isWeaker)
  rw [behindKeys, fileTab_eq]
  refine .bind (.put _) fun _ _ _ =>
    .bind (.within ((ends_textTab gateway recipient answers).mono (weaken .inl))) fun _ _ _ =>
    .within (.bind ((ends_lockStage answers).mono ?_) fun _ _ _ =>
      .bind .pending fun _ pending? _ =>
        (ends_messageFor gateway recipient answers pending?).mono (weaken .inr))
  rintro _ ⟨failure, rfl, isUnreported⟩ isReported
  cases isUnreported.symm.trans isReported

end Ends

/-! ## What the page shows of an error -/

section Reports

variable {gateway : Gateway} {recipient : RecipientKey} {answers : Answers}

/-- Keys that cannot be read are reported below the head of the page. -/
theorem screen_of_badKey {fault : KeyFault} (refused : typedKeys answers = .error (.badKey fault))
    (desk : Desk) :
    (screen answers desk).1 = .error .stopped ∧
      (desk.tab, .error ("Clave inválida: " ++ fault.message)) ∈
        (screen answers desk).2.elements := by
  rw [screen_apply, refused]
  exact ⟨rfl, List.mem_append_right _ List.mem_cons_self⟩

/-- The widgets of the part that sends a message about a file. -/
def messageWidgets : List Element :=
  [.textField ⟨"Id del blob subido", none, false, some "blob_id"⟩,
    .button ⟨"Cifrar mensaje de archivo", none, some "btn_file_msg"⟩]

/-- The part that sends a message about a file shows its widgets and goes on if the operator asks
for it. -/
theorem messageFor_of_asks (asks : AsksForMessage answers) (file : PendingFile) (desk : Desk) :
    messageFor gateway recipient (some file) answers desk =
      sendPending gateway recipient file (answers.textOr "" "blob_id") answers
        (desk.extend desk.context messageWidgets) := by
  have isUsable : ((none : Option Bool) != some true) = true := rfl
  rw [messageFor, Screen.bind_apply, Screen.askText_apply]
  simp only [Option.getD_none, Option.getD_some, if_pos asks.1]
  rw [Screen.bind_apply, Screen.askButton_apply]
  simp only [Option.getD_some, asks.2, Bool.true_and, isUsable, if_true, Desk.extend_extend,
    Desk.context_extend]
  rfl

/-- A file message that cannot be described is reported. -/
theorem messageFor_of_refused {file : PendingFile} {failure : Failure}
    (asks : AsksForMessage answers)
    (refused : describe file (answers.textOr "" "blob_id") = .error failure) (desk : Desk) :
    (messageFor gateway recipient (some file) answers desk).1 = .error .stopped ∧
      (desk.tab, .error (failure.message?.getD "")) ∈
        (messageFor gateway recipient (some file) answers desk).2.elements := by
  rw [messageFor_of_asks asks, sendPending, refused]
  simp only [if_pos (isReported_of_describe refused)]
  exact ⟨rfl, List.mem_append_right _ List.mem_cons_self⟩

/-- The stage that locks files stands in one tab. -/
theorem tab_lockStage (answers : Answers) (desk : Desk) :
    (lockStage answers desk).2.tab = desk.tab := by
  cases given : fileToLock? answers with
  | none => exact (lockStage_of_isNothing given desk).2.tab
  | some uploaded =>
    rcases result : keptFrom uploaded.1 uploaded.2 desk.context with failure | ⟨file, blob⟩
    · exact (lockStage_of_refused given desk result).1.tab
    · exact (lockStage_of_kept given desk result).2.1.tab

/-- A file message that cannot be described is reported in the tab of the files, unless the work on
an uploaded file has failed before. -/
theorem fileTab_of_refused {file : PendingFile} {failure : Failure} (asks : AsksForMessage answers)
    (refused : describe file (answers.textOr "" "blob_id") = .error failure) {desk : Desk}
    (waits : (fileTab gateway recipient answers desk).2.pending = some file) :
    (∃ other, (fileTab gateway recipient answers desk).1 = .error (.failed other)) ∨
      (fileTab gateway recipient answers desk).1 = .error .stopped ∧
        (desk.tab, .error (failure.message?.getD "")) ∈
          (fileTab gateway recipient answers desk).2.elements := by
  have ends := ends_lockStage answers desk
  have tabIs := tab_lockStage answers desk
  rw [fileTab_eq, Screen.bind_apply] at waits ⊢
  generalize lockStage answers desk = result at ends tabIs waits ⊢
  obtain ⟨halt | _, between⟩ := result
  · obtain ⟨other, rfl, -⟩ := ends halt rfl
    exact .inl ⟨other, rfl⟩
  · -- The second stage leaves the file that waits, so it is the one that is sent about.
    have stays := (shows_messageFor gateway recipient answers between.pending between).1.pending
    change (messageFor gateway recipient between.pending answers between).2.pending = _ at waits
    rw [stays] at waits
    have reported : (messageFor gateway recipient (some file) answers between).1 = _ ∧ _ :=
      messageFor_of_refused asks refused between
    rw [← waits, tabIs] at reported
    exact .inr reported

/-- Behind the text tab, a file message that cannot be described is reported, unless work has failed
before. -/
theorem tabs_of_refused {file : PendingFile} {failure : Failure} (asks : AsksForMessage answers)
    (refused : describe file (answers.textOr "" "blob_id") = .error failure) {desk : Desk}
    (waits : (tabs gateway recipient answers desk).2.pending = some file) :
    (∃ other, (tabs gateway recipient answers desk).1 = .error (.failed other)) ∨
      (tabs gateway recipient answers desk).1 = .error .stopped ∧
        (some "Archivo", .error (failure.message?.getD "")) ∈
          (tabs gateway recipient answers desk).2.elements := by
  rw [tabs, Screen.bind_apply, Screen.within_apply] at waits ⊢
  have ends := (shows_textTab gateway recipient answers { desk with tab := some "Texto" }).2
  generalize textTab gateway recipient answers _ = result at ends waits ⊢
  obtain ⟨halt | _, between⟩ := result
  · obtain ⟨other, rfl⟩ := ends halt rfl
    exact .inl ⟨other, rfl⟩
  · exact fileTab_of_refused asks refused waits

/-! ## Keys that share no secret -/

/-- Whether a part of the page, run on a desk, fails on keys that share no secret and shows no
error. -/
def EndsUnusable (part : Screen Unit) (answers : Answers) (desk : Desk) : Prop :=
  (part answers desk).1 = .error (.failed .unusableKeys) ∧
    Desk.Grows (fun _ => Element.IsCalm) desk (part answers desk).2

/-- A part that ends in this way may stand behind one that shows no error. -/
theorem EndsUnusable.bind {part : Screen Unit} {next : Unit → Screen Unit} {desk after : Desk}
    (isDone : part answers desk = (.ok (), after))
    (grows : Desk.Grows (fun _ => Element.IsCalm) desk after)
    (ends : EndsUnusable (next ()) answers after) :
    EndsUnusable (part >>= next) answers desk := by
  rw [EndsUnusable, Screen.bind_apply, isDone]
  exact ⟨ends.1, grows.trans ends.2⟩

/-- A part that ends in this way ends the page. -/
theorem EndsUnusable.bind_left {part : Screen Unit} {next : Unit → Screen Unit} {desk : Desk}
    (ends : EndsUnusable part answers desk) : EndsUnusable (part >>= next) answers desk := by
  rw [EndsUnusable] at ends
  rw [EndsUnusable, Screen.bind_apply]
  generalize part answers desk = result at ends ⊢
  obtain ⟨outcome, after⟩ := result
  obtain ⟨⟨⟩, grows⟩ := ends
  exact ⟨rfl, grows⟩

theorem EndsUnusable.within {body : Screen Unit} {label : String} {desk : Desk}
    (ends : EndsUnusable body answers { desk with tab := some label }) :
    EndsUnusable (Screen.within label body) answers desk :=
  ⟨ends.1, ends.2.pending, ends.2.elements, ends.2.keeps⟩

/-- Elements that are no errors are added calmly. -/
theorem grows_calmly {shown : List Element} (areCalm : ∀ element ∈ shown, element.IsCalm)
    (desk : Desk) (context : Context) :
    Desk.Grows (fun _ => Element.IsCalm) desk (desk.extend context shown) :=
  Desk.Gains.grows ⟨rfl, rfl, shown, rfl, areCalm⟩ fun _ => id

theorem isCalm_of_mem_textWidgets (answers : Answers) :
    ∀ element ∈ textWidgets answers, element.IsCalm := by
  simp [textWidgets, Element.IsCalm]

/-- Under keys that share no secret, a text to send ends the part that sends text. -/
theorem endsUnusable_textTab (asks : AsksForText answers)
    (sharesNone : gateway.SharesNoSecret recipient) {desk : Desk}
    (hasAmount : Padding.amountOf? desk.context.entropy.remaining ≠ none) :
    EndsUnusable (textTab gateway recipient) answers desk := by
  rw [EndsUnusable, textTab_apply, if_pos asks, Screen.bind_apply, Screen.perform_apply]
  have refused := Gateway.sendText_of_sharesNoSecret sharesNone (answers.textOr "" "Mensaje")
    hasAmount
  rw [Desk.context_extend]
  generalize (gateway.sendText _ _).perform _ = result at refused ⊢
  obtain ⟨outcome, context⟩ := result
  cases refused
  exact ⟨rfl, grows_calmly (isCalm_of_mem_textWidgets answers) desk context⟩

/-- With no file to lock, the stage that locks files only shows widgets. -/
theorem lockStage_apply_of_isNothing (isNothing : fileToLock? answers = none) (desk : Desk) :
    ∃ shown : List Element, (∀ element ∈ shown, element.IsCalm) ∧
      lockStage answers desk = (.ok (),
        desk.extend desk.context shown) := by
  have areCalm : ∀ element ∈ lockWidgets, element.IsCalm := by
    simp [lockWidgets, Element.IsCalm]
  rw [lockStage, Screen.bind_apply, Screen.askFile_apply]
  cases uploaded : answers.file? "Selecciona un archivo" with
  | none =>
    exact ⟨lockWidgets.take 1,
      fun element isMember => areCalm element (List.mem_of_mem_take isMember), rfl⟩
  | some given =>
    have isUnpressed : answers.isPressed "btn_file" = false := by
      rw [fileToLock?, uploaded] at isNothing
      simpa using isNothing
    simp only [Screen.bind_apply, Screen.askButton_apply, Option.getD_some, isUnpressed,
      Bool.false_and, Bool.false_eq_true, if_false, Desk.extend_extend, Desk.context_extend]
    exact ⟨lockWidgets, areCalm, rfl⟩

/-- Under keys that share no secret, a file message that can be described ends the page. -/
theorem endsUnusable_messageFor (asks : AsksForMessage answers)
    (sharesNone : gateway.SharesNoSecret recipient) {file : PendingFile} {descriptor : Descriptor}
    (described : describe file (answers.textOr "" "blob_id") = .ok descriptor) {desk : Desk}
    (hasAmount : Padding.amountOf? desk.context.entropy.remaining ≠ none) :
    EndsUnusable (messageFor gateway recipient (some file)) answers desk := by
  obtain ⟨isValid, isPlain, noHints, -⟩ := describe_eq_ok described
  have hasShortSizes : descriptor.HasShortSizes := by
    rw [Descriptor.HasShortSizes, noHints]
    exact fun metadata isMember => absurd isMember (Option.not_mem_none metadata)
  obtain ⟨payload, written, -⟩ := (Descriptor.toJson_of_isValid isValid hasShortSizes).1 isPlain
  have areCalm : ∀ element ∈ messageWidgets, element.IsCalm := by
    simp [messageWidgets, Element.IsCalm]
  have refused := Gateway.sendDescriptor_of_sharesNoSecret sharesNone written hasAmount
  rw [EndsUnusable, messageFor_of_asks asks, sendPending, described]
  simp only
  rw [Screen.bind_apply, Screen.perform_apply, Desk.context_extend]
  generalize (gateway.sendDescriptor _ _).perform _ = result at refused ⊢
  obtain ⟨outcome, context⟩ := result
  cases refused
  exact ⟨rfl, grows_calmly areCalm desk context⟩

/-- Whether a run that starts on a desk asks for something to be sent: a text, or a message about
the file that waits, which can be described. -/
def AsksToSend (answers : Answers) (pending? : Option PendingFile) : Prop :=
  AsksForText answers ∨ fileToLock? answers = none ∧ AsksForMessage answers ∧
    ∃ file descriptor, pending? = some file ∧
      describe file (answers.textOr "" "blob_id") = .ok descriptor

/-- Behind the stage that locks files, with no file to lock, a message about the file that waits
ends the part that is about files. -/
theorem endsUnusable_fileTab (isNothing : fileToLock? answers = none)
    (asks : AsksForMessage answers) (sharesNone : gateway.SharesNoSecret recipient) {desk : Desk}
    {file : PendingFile} (waits : desk.pending = some file) {descriptor : Descriptor}
    (described : describe file (answers.textOr "" "blob_id") = .ok descriptor)
    (hasAmount : Padding.amountOf? desk.context.entropy.remaining ≠ none) :
    EndsUnusable (fileTab gateway recipient) answers desk := by
  obtain ⟨shown, areCalm, isDone⟩ := lockStage_apply_of_isNothing isNothing desk
  rw [fileTab_eq]
  apply EndsUnusable.bind isDone (grows_calmly areCalm desk desk.context)
  change EndsUnusable (messageFor gateway recipient desk.pending) answers _
  rw [waits]
  exact endsUnusable_messageFor asks sharesNone described hasAmount

/-- Under keys that share no secret, whatever is to be sent ends the page, and no error is shown. -/
theorem endsUnusable_tabs {desk : Desk} (asks : AsksToSend answers desk.pending)
    (sharesNone : gateway.SharesNoSecret recipient)
    (hasAmount : Padding.amountOf? desk.context.entropy.remaining ≠ none) :
    EndsUnusable (tabs gateway recipient) answers desk := by
  -- A text that is asked for ends the page in the first tab, which otherwise only shows widgets.
  by_cases asksForText : AsksForText answers
  · exact .bind_left (.within (endsUnusable_textTab asksForText sharesNone hasAmount))
  · obtain ⟨isNothing, asksForMessage, file, descriptor, waits, described⟩ :=
      asks.resolve_left asksForText
    have texts := textTab_apply gateway recipient answers { desk with tab := some "Texto" }
    rw [if_neg asksForText] at texts
    have isDone := Screen.within_apply "Texto" (textTab gateway recipient) answers desk
    rw [texts] at isDone
    have grows := grows_calmly (isCalm_of_mem_textWidgets answers)
      { desk with tab := some "Texto" } desk.context
    apply EndsUnusable.bind isDone ⟨rfl, grows.elements, grows.keeps⟩
    exact .within
      (endsUnusable_fileTab isNothing asksForMessage sharesNone waits described hasAmount)

/-- With keys that share no secret, whatever is to be sent ends a run, and no error is shown. -/
theorem screen_of_sharesNoSecret
    (areKeys : typedKeys answers = .ok (some gateway, some recipient))
    (sharesNone : gateway.SharesNoSecret recipient) {desk : Desk}
    (asks : AsksToSend answers desk.pending) (isFresh : desk.elements = [])
    (hasAmount : Padding.amountOf? desk.context.entropy.remaining ≠ none) :
    (screen answers desk).1 = .error (.failed .unusableKeys) ∧
      ¬ (screen answers desk).2.ShowsError := by
  have areCalm : ∀ element ∈ headElements, element.IsCalm := by
    simp [headElements, Element.IsCalm]
  have head := grows_calmly areCalm desk desk.context
  have ends : EndsUnusable (tabs gateway recipient) answers
      (desk.extend desk.context headElements) :=
    endsUnusable_tabs asks sharesNone hasAmount
  rw [screen_of_keys areKeys]
  refine ⟨ends.1, ?_⟩
  rintro ⟨tab, text, isMember⟩
  exact (head.trans ends.2).allowed_of_mem isFresh isMember text rfl

end Reports

/-! ## Runs -/

/-- How a run deals with documented errors. -/
structure Passage.ReportsErrors (passage : Passage) : Prop where
  /-- Keys that cannot be read are reported, and the run stops. -/
  badKeys : ∀ failure, typedKeys passage.visit.answers = .error failure →
    ∃ fault, failure = .badKey fault ∧ passage.ending = .stopped ∧
      (none, .error ("Clave inválida: " ++ fault.message)) ∈ passage.after.elements
  /-- A file message that cannot be described is reported, and the run stops, unless something has
  failed before. -/
  badMessage : ∀ gateway recipient file failure,
    typedKeys passage.visit.answers = .ok (some gateway, some recipient) →
    AsksForMessage passage.visit.answers → passage.after.pending = some file →
    describe file (passage.visit.answers.textOr "" "blob_id") = .error failure →
      failure.isReported = true ∧ ((∃ other, passage.ending = .failed other) ∨
        passage.ending = .stopped ∧
          (some "Archivo", .error (failure.message?.getD "")) ∈ passage.after.elements)
  /-- The one documented error that ends a run without being reported is that of keys which share no
  secret, where a text or a message is to be sent. -/
  unreported : ∀ failure, passage.ending = .failed failure → failure.isReported = true →
    failure = .unusableKeys ∧ ∃ gateway recipient,
      typedKeys passage.visit.answers = .ok (some gateway, some recipient) ∧
      gateway.SharesNoSecret recipient ∧
      (AsksForText passage.visit.answers ∨ AsksForMessage passage.visit.answers)
  /-- Under such keys it ends every run in which something is to be sent, as soon as the entropy
  gives an amount of padding, and no error is shown. -/
  unusable : ∀ gateway recipient,
    typedKeys passage.visit.answers = .ok (some gateway, some recipient) →
    gateway.SharesNoSecret recipient → AsksToSend passage.visit.answers passage.before →
    Padding.amountOf? passage.visit.context.entropy.remaining ≠ none →
      passage.ending = .failed .unusableKeys ∧ ¬ passage.after.ShowsError

namespace Visit

variable (visit : Visit) (before : Option PendingFile)

theorem halts_of_ending_pass {failure : Failure}
    (fails : (visit.pass before).ending = .failed failure) :
    (screen visit.answers (visit.desk before)).1 = .error (.failed failure) :=
  have ends : (screen.run visit.answers (visit.desk before)).1 = .failed failure := fails
  Screen.halt_of_run_fst ends

/-- A run that fails with a documented error has keys that share no secret. -/
theorem unreported_pass {failure : Failure} (fails : (visit.pass before).ending = .failed failure)
    (isReported : failure.isReported = true) :
    failure = .unusableKeys ∧ ∃ gateway recipient,
      typedKeys visit.answers = .ok (some gateway, some recipient) ∧
      gateway.SharesNoSecret recipient ∧
      (AsksForText visit.answers ∨ AsksForMessage visit.answers) := by
  have halts := visit.halts_of_ending_pass before fails
  by_cases areKeys : ∃ gateway recipient,
      typedKeys visit.answers = .ok (some gateway, some recipient)
  · obtain ⟨gateway, recipient, areKeys⟩ := areKeys
    rw [screen_apply, areKeys] at halts
    obtain ⟨isUnusable, sharesNone, asks⟩ :=
      ends_behindKeys gateway recipient visit.answers _ _ halts isReported
    exact ⟨isUnusable, gateway, recipient, areKeys, sharesNone, asks⟩
  · obtain ⟨isStopped, -⟩ := screen_of_lacking
      (fun gateway recipient isTyped => areKeys ⟨gateway, recipient, isTyped⟩) (visit.desk before)
    cases isStopped.symm.trans halts

/-- A run with keys that cannot be read reports them and stops. -/
theorem badKeys_pass {failure : Failure} (refused : typedKeys visit.answers = .error failure) :
    ∃ fault, failure = .badKey fault ∧ (visit.pass before).ending = .stopped ∧
      (none, .error ("Clave inválida: " ++ fault.message)) ∈
        (visit.pass before).after.elements := by
  obtain ⟨fault, rfl⟩ := exists_fault_of_readKeys refused
  obtain ⟨isStopped, isShown⟩ := screen_of_badKey refused (visit.desk before)
  rw [← after_pass] at isShown
  exact ⟨fault, rfl, visit.ending_pass_of_halt before isStopped, isShown⟩

/-- A run that leaves a file of which the message cannot be described reports that and stops, unless
something has failed before. -/
theorem badMessage_pass {gateway : Gateway} {recipient : RecipientKey} {file : PendingFile}
    {failure : Failure} (areKeys : typedKeys visit.answers = .ok (some gateway, some recipient))
    (asks : AsksForMessage visit.answers) (waits : (visit.pass before).after.pending = some file)
    (refused : describe file (visit.answers.textOr "" "blob_id") = .error failure) :
    (∃ other, (visit.pass before).ending = .failed other) ∨
      (visit.pass before).ending = .stopped ∧
        (some "Archivo", .error (failure.message?.getD "")) ∈
          (visit.pass before).after.elements := by
  have isScreen := screen_of_keys areKeys (visit.desk before)
  rw [after_pass, isScreen] at waits ⊢
  rcases tabs_of_refused asks refused waits with ⟨other, isFailed⟩ | ⟨isStopped, isShown⟩
  · rw [← isScreen] at isFailed
    exact .inl ⟨other, visit.ending_pass_of_halt before isFailed⟩
  · rw [← isScreen] at isStopped
    exact .inr ⟨visit.ending_pass_of_halt before isStopped, isShown⟩

/-- A run in which something is to be sent under keys that share no secret fails for them, and shows
no error. -/
theorem unusable_pass {gateway : Gateway} {recipient : RecipientKey}
    (areKeys : typedKeys visit.answers = .ok (some gateway, some recipient))
    (sharesNone : gateway.SharesNoSecret recipient) (asks : AsksToSend visit.answers before)
    (hasAmount : Padding.amountOf? visit.context.entropy.remaining ≠ none) :
    (visit.pass before).ending = .failed .unusableKeys ∧
      ¬ (visit.pass before).after.ShowsError := by
  have asksOnDesk : AsksToSend visit.answers (visit.desk before).pending := asks
  obtain ⟨fails, showsNone⟩ := screen_of_sharesNoSecret areKeys sharesNone asksOnDesk rfl hasAmount
  rw [← after_pass] at showsNone
  exact ⟨visit.ending_pass_of_halt before fails, showsNone⟩

/-- A run of the page reports every documented error but the one of keys that share no secret, which
ends every run in which something is to be sent. -/
theorem reportsErrors_pass : (visit.pass before).ReportsErrors where
  badKeys _ refused := visit.badKeys_pass before refused
  badMessage _ _ _ _ areKeys asks waits refused :=
    ⟨isReported_of_describe refused, visit.badMessage_pass before areKeys asks waits refused⟩
  unreported _ fails isReported := visit.unreported_pass before fails isReported
  unusable _ _ areKeys sharesNone asks hasAmount :=
    visit.unusable_pass before areKeys sharesNone asks hasAmount

end Visit

/-- A run in which a text is to be sent to a recipient whose key is zero. -/
def zeroKeyVisit : Visit where
  answers := [
    ("Clave privada propia (hex)",
      .text "0101010101010101010101010101010101010101010101010101010101010101"),
    ("Clave pública del destinatario (hex)",
      .text "0000000000000000000000000000000000000000000000000000000000000000"),
    ("Mensaje", .text "hola"), ("btn_text", .pressed true)]
  context := Context.initial (List.replicate 64 7)

/-- The gateway of that run. -/
def zeroKeyGateway : Gateway where
  id := "*XXXXXXX"
  secret := ""
  privateKey := ⟨Octets.ofPadded 32 (List.replicate 32 1)⟩

/-- No key shares a secret with the key that is zero. -/
theorem sharesNoSecret_zeroKeyGateway : zeroKeyGateway.SharesNoSecret ⟨Octets.zero 32⟩ := by
  have isNone : PublicBox.sharedKey? zeroKeyGateway.privateKey.octets (Octets.zero 32) = none := by
    decide +kernel
  exact isNone

/-- A run that ends with a documented error of which nothing is shown, with entropy enough to send a
text. -/
theorem ending_pass_zeroKeyVisit :
    (zeroKeyVisit.pass none).ending = .failed .unusableKeys ∧
      Failure.unusableKeys.isReported = true ∧ ¬ (zeroKeyVisit.pass none).after.ShowsError := by
  have areKeys : typedKeys zeroKeyVisit.answers =
      .ok (some zeroKeyGateway, some ⟨Octets.zero 32⟩) := by
    decide +kernel
  have asks : AsksToSend zeroKeyVisit.answers none := .inl (by decide +kernel)
  have hasAmount : Padding.amountOf? zeroKeyVisit.context.entropy.remaining ≠ none := by
    decide +kernel
  obtain ⟨fails, showsNone⟩ :=
    zeroKeyVisit.unusable_pass none areKeys sharesNoSecret_zeroKeyGateway asks hasAmount
  exact ⟨fails, rfl, showsNone⟩

end SendingPage
end SealedGateway
