import SealedGateway.Console.Screen
import SealedGateway.Proofs.Work.Faults

/-!
# Parts of a screen

Most parts of a screen only add elements in the tab in which they stand.  Which elements these are
and how the part can end is put together along the part, while the file that waits on the desk stays
what it is.  How a part can end is also put together by itself, for parts that change that file.
-/

namespace SealedGateway

namespace Desk

/-- Whether a desk has become another one by elements of some kind, all shown in the tab in which
elements stand, while the file that waits has stayed. -/
structure Gains (allowed : Element → Prop) (before after : Desk) : Prop where
  pending : after.pending = before.pending
  tab : after.tab = before.tab
  elements : ∃ shown : List Element,
    after.elements = before.elements ++ shown.map (Prod.mk before.tab) ∧
      ∀ element ∈ shown, allowed element

namespace Gains

variable {allowed : Element → Prop}

theorem refl (desk : Desk) : Gains allowed desk desk :=
  ⟨rfl, rfl, [], (List.append_nil _).symm, nofun⟩

theorem trans {first second third : Desk} (left : Gains allowed first second)
    (right : Gains allowed second third) : Gains allowed first third := by
  obtain ⟨shown, elements, areAllowed⟩ := left.elements
  obtain ⟨others, otherElements, areOthersAllowed⟩ := right.elements
  refine ⟨right.pending.trans left.pending, right.tab.trans left.tab, shown ++ others, ?_, ?_⟩
  · rw [otherElements, elements, left.tab, List.map_append, List.append_assoc]
  · intro element isMember
    rcases List.mem_append.mp isMember with isFirst | isSecond
    · exact areAllowed element isFirst
    · exact areOthersAllowed element isSecond

theorem mono {others : Element → Prop} {before after : Desk} (gains : Gains allowed before after)
    (isWeaker : ∀ element, allowed element → others element) : Gains others before after := by
  obtain ⟨shown, elements, areAllowed⟩ := gains.elements
  exact ⟨gains.pending, gains.tab, shown, elements,
    fun element isMember => isWeaker element (areAllowed element isMember)⟩

/-- Every element is an old one, or an allowed one in the tab. -/
theorem of_mem {before after : Desk} (gains : Gains allowed before after)
    {entry : Option String × Element} (isMember : entry ∈ after.elements) :
    entry ∈ before.elements ∨ entry.1 = before.tab ∧ allowed entry.2 := by
  obtain ⟨shown, elements, areAllowed⟩ := gains.elements
  rw [elements] at isMember
  rcases List.mem_append.mp isMember with isOld | isNew
  · exact .inl isOld
  · obtain ⟨element, isShown, rfl⟩ := List.mem_map.mp isNew
    exact .inr ⟨rfl, areAllowed element isShown⟩

/-- Nothing that has been shown goes away. -/
theorem mem {before after : Desk} (gains : Gains allowed before after)
    {entry : Option String × Element} (isMember : entry ∈ before.elements) :
    entry ∈ after.elements := by
  obtain ⟨shown, elements, -⟩ := gains.elements
  rw [elements]
  exact List.mem_append_left _ isMember

end Gains

/-- Whether a desk has become another one by elements that are allowed in the tabs in which they
stand, while the file that waits has stayed. -/
structure Grows (allowed : Option String → Element → Prop) (before after : Desk) : Prop where
  pending : after.pending = before.pending
  elements : ∀ entry ∈ after.elements, entry ∈ before.elements ∨ allowed entry.1 entry.2
  keeps : ∀ entry ∈ before.elements, entry ∈ after.elements

namespace Grows

variable {allowed : Option String → Element → Prop}

theorem trans {first second third : Desk} (left : Grows allowed first second)
    (right : Grows allowed second third) : Grows allowed first third where
  pending := right.pending.trans left.pending
  elements entry isMember :=
    (right.elements entry isMember).elim (left.elements entry) .inr
  keeps entry isMember := right.keeps entry (left.keeps entry isMember)

theorem mono {others : Option String → Element → Prop} {before after : Desk}
    (grows : Grows allowed before after)
    (isWeaker : ∀ tab element, allowed tab element → others tab element) :
    Grows others before after where
  pending := grows.pending
  elements entry isMember := (grows.elements entry isMember).imp_right (isWeaker _ _)
  keeps := grows.keeps

/-- On a desk that was empty, everything is allowed where it stands. -/
theorem allowed_of_mem {before after : Desk} (grows : Grows allowed before after)
    (isFresh : before.elements = []) {entry : Option String × Element}
    (isMember : entry ∈ after.elements) : allowed entry.1 entry.2 := by
  refine (grows.elements entry isMember).resolve_left ?_
  rw [isFresh]
  exact List.not_mem_nil

end Grows

/-- What a part shows where it stands, the tab allows. -/
theorem Gains.grows {allowed : Element → Prop} {others : Option String → Element → Prop}
    {before after : Desk} (gains : Gains allowed before after)
    (isWeaker : ∀ element, allowed element → others before.tab element) :
    Grows others before after where
  pending := gains.pending
  elements := by
    rintro ⟨tab, element⟩ isMember
    refine (gains.of_mem isMember).imp_right fun ⟨isTab, isAllowed⟩ => ?_
    obtain rfl : tab = before.tab := isTab
    exact isWeaker element isAllowed
  keeps _ isMember := gains.mem isMember

end Desk

/-- A desk on which further elements stand where it is, and the work has gone on. -/
def Desk.extend (desk : Desk) (context : Context) (shown : List Element) : Desk :=
  { desk with context, elements := desk.elements ++ shown.map (Prod.mk desk.tab) }

@[simp] theorem Desk.context_extend (desk : Desk) (context : Context) (shown : List Element) :
    (desk.extend context shown).context = context := rfl

@[simp] theorem Desk.extend_nil (desk : Desk) : desk.extend desk.context [] = desk := by
  rw [extend, List.map_nil, List.append_nil]

theorem Desk.extend_extend (desk : Desk) (first second : Context) (shown others : List Element) :
    (desk.extend first shown).extend second others = desk.extend second (shown ++ others) := by
  simp only [extend, List.map_append, List.append_assoc]

/-- How a run ends that ends early. -/
def Halt.ending : Halt → Ending
  | .stopped => .stopped
  | .failed failure => .failed failure

/-- How the screen ends of a run that ends in a way. -/
def Ending.outcome : Ending → Except Halt Unit
  | .done => .ok ()
  | .stopped => .error .stopped
  | .failed failure => .error (.failed failure)

namespace Screen

/-- Whether a part of a screen, run with some answers on any desk, only shows elements of some kind
and ends early in certain ways only. -/
def Shows {α : Type} (answers : Answers) (allowed : Element → Prop) (ends : Halt → Prop)
    (part : Screen α) : Prop :=
  ∀ desk, Desk.Gains allowed desk (part answers desk).2 ∧
    ∀ halt, (part answers desk).1 = .error halt → ends halt

namespace Shows

variable {α β : Type} {answers : Answers} {allowed : Element → Prop} {ends : Halt → Prop}

theorem pure (value : α) : Shows answers allowed ends (Pure.pure value) :=
  fun desk => ⟨.refl desk, nofun⟩

/-- What comes next is only looked at for the values that the first part can give. -/
theorem bind {part : Screen α} {next : α → Screen β} (isFirst : Shows answers allowed ends part)
    (isNext : ∀ desk value, (part answers desk).1 = .ok value →
      Shows answers allowed ends (next value)) :
    Shows answers allowed ends (part >>= next) := by
  intro desk
  have first := isFirst desk
  have isNext := isNext desk
  rw [bind_apply]
  generalize part answers desk = result at first isNext
  obtain ⟨halt | value, between⟩ := result
  · exact ⟨first.1, fun _ same => first.2 _ (congrArg Except.error (Except.error.inj same))⟩
  · have second := isNext value rfl between
    exact ⟨first.1.trans second.1, second.2⟩

theorem put {element : Element} (isAllowed : allowed element) :
    Shows answers allowed ends (Screen.put element) := by
  refine fun desk => ⟨⟨rfl, rfl, [element], rfl, ?_⟩, nofun⟩
  intro other isMember
  rwa [List.mem_singleton.mp isMember]

theorem halt {reason : Halt} (isEnd : ends reason) :
    Shows answers allowed ends (Screen.halt reason : Screen α) := by
  refine fun desk => ⟨.refl desk, ?_⟩
  rintro _ ⟨⟩
  exact isEnd

theorem readAnswers : Shows answers allowed ends Screen.answers :=
  fun desk => ⟨.refl desk, nofun⟩

theorem perform (work : Work α) (canFail : ∀ failure, ends (.failed failure)) :
    Shows answers allowed ends (Screen.perform work) := by
  have isAttempt : Shows answers allowed ends (Screen.attempt work) :=
    fun desk => ⟨⟨rfl, rfl, [], (List.append_nil _).symm, nofun⟩, nofun⟩
  refine isAttempt.bind fun _ outcome _ => ?_
  cases outcome with
  | ok result => exact .pure result
  | error failure => exact .halt (canFail failure)

theorem reportAndStop {lead : String} {failure : Failure}
    (isAllowed : allowed (.error (lead ++ failure.message?.getD ""))) (canStop : ends .stopped) :
    Shows answers allowed ends (Screen.reportAndStop lead failure : Screen α) :=
  (Shows.put isAllowed).bind fun _ _ _ => .halt canStop

theorem askText {field : TextField} (isAllowed : allowed (.textField field)) :
    Shows answers allowed ends (Screen.askText field) :=
  (Shows.put isAllowed).bind fun _ _ _ => readAnswers.bind fun _ _ _ => .pure _

theorem askLines {label : String} (isAllowed : allowed (.textArea label)) :
    Shows answers allowed ends (Screen.askLines label) :=
  (Shows.put isAllowed).bind fun _ _ _ => readAnswers.bind fun _ _ _ => .pure _

theorem askButton {button : Button} (isAllowed : allowed (.button button)) :
    Shows answers allowed ends (Screen.askButton button) :=
  (Shows.put isAllowed).bind fun _ _ _ => readAnswers.bind fun _ _ _ => .pure _

end Shows

/-! ## What parts give -/

/-- The desk behind a run is the one that the screen leaves. -/
theorem run_snd (screen : Screen Unit) (answers : Answers) (desk : Desk) :
    (screen.run answers desk).2 =
      (screen answers { desk with tab := none, elements := [] }).2 := by
  rw [run]
  rcases screen answers { desk with tab := none, elements := [] } with ⟨halt | _, after⟩
  · cases halt <;> rfl
  · rfl

theorem run_of_apply {screen : Screen Unit} {answers : Answers} {desk after : Desk}
    {ending : Ending}
    (applied : screen answers { desk with tab := none, elements := [] } = (ending.outcome, after)) :
    screen.run answers desk = (ending, after) := by
  rw [run, applied]
  cases ending <;> rfl

/-- A run ends where the screen ends early. -/
theorem run_fst_of_halt {screen : Screen Unit} {answers : Answers} {desk : Desk} {halt : Halt}
    (halts : (screen answers { desk with tab := none, elements := [] }).1 = .error halt) :
    (screen.run answers desk).1 = halt.ending := by
  rw [run]
  generalize screen answers { desk with tab := none, elements := [] } = result at halts
  obtain ⟨outcome, after⟩ := result
  cases halts
  cases halt <;> rfl

/-- A run fails where the screen does. -/
theorem halt_of_run_fst {screen : Screen Unit} {answers : Answers} {desk : Desk}
    {failure : Failure} (fails : (screen.run answers desk).1 = .failed failure) :
    (screen answers { desk with tab := none, elements := [] }).1 = .error (.failed failure) := by
  rw [run] at fails
  generalize screen answers { desk with tab := none, elements := [] } = result at fails
  obtain ⟨halt | _, after⟩ := result
  · cases halt with
    | stopped => cases fails
    | failed other =>
      cases fails
      rfl
  · cases fails

theorem put_apply (element : Element) (answers : Answers) (desk : Desk) :
    put element answers desk = (.ok (), desk.extend desk.context [element]) := rfl

theorem attempt_apply {α : Type} (work : Work α) (answers : Answers) (desk : Desk) :
    attempt work answers desk =
      (.ok (work.perform desk.context).1, desk.extend (work.perform desk.context).2 []) := by
  rw [Desk.extend, List.map_nil, List.append_nil]
  rfl

theorem reportAndStop_apply {α : Type} (lead : String) (failure : Failure) (answers : Answers)
    (desk : Desk) :
    (reportAndStop lead failure : Screen α) answers desk =
      (.error .stopped, desk.extend desk.context [.error (lead ++ failure.message?.getD "")]) := rfl

theorem within_apply (label : String) (body : Screen Unit) (answers : Answers) (desk : Desk) :
    within label body answers desk = ((body answers { desk with tab := some label }).1,
      { (body answers { desk with tab := some label }).2 with tab := none }) := rfl

theorem askText_apply (field : TextField) (answers : Answers) (desk : Desk) :
    askText field answers desk =
      (.ok (answers.textOr (field.initialText.getD "") (field.name.getD field.label)),
        desk.extend desk.context [.textField field]) := rfl

theorem askLines_apply (label : String) (answers : Answers) (desk : Desk) :
    askLines label answers desk = (.ok (answers.textOr "" label),
      desk.extend desk.context [.textArea label]) := rfl

theorem askFile_apply (label : String) (answers : Answers) (desk : Desk) :
    askFile label answers desk = (.ok (answers.file? label),
      desk.extend desk.context [.uploader label]) := rfl

theorem askButton_apply (button : Button) (answers : Answers) (desk : Desk) :
    askButton button answers desk =
      (.ok (answers.isPressed (button.name.getD button.label) && button.isDisabled != some true),
        desk.extend desk.context [.button button]) := rfl

/-- Work in a screen succeeds as work, and otherwise its failure ends the run. -/
theorem perform_apply {α : Type} (work : Work α) (answers : Answers) (desk : Desk) :
    perform work answers desk =
      match work.perform desk.context with
      | (.ok result, context) => (.ok result, { desk with context })
      | (.error failure, context) => (.error (.failed failure), { desk with context }) := by
  rw [perform, bind_apply, attempt]
  rcases work.perform desk.context with ⟨failure | result, context⟩ <;> rfl

/-- Work whose result a screen goes on with has succeeded. -/
theorem exists_perform_of_apply {α : Type} {work : Work α} {answers : Answers} {desk : Desk}
    {result : α} (performed : (perform work answers desk).1 = .ok result) :
    ∃ after, work.perform desk.context = (.ok result, after) := by
  rw [perform_apply] at performed
  generalize work.perform desk.context = outcome at performed ⊢
  obtain ⟨failure | other, context⟩ := outcome
  · cases performed
  · cases performed
    exact ⟨context, rfl⟩

/-! ## How parts end -/

/-- Whether a part of a screen, run with some answers on any desk, ends early in certain ways
only. -/
def Ends {α : Type} (answers : Answers) (ends : Halt → Prop) (part : Screen α) : Prop :=
  ∀ desk halt, (part answers desk).1 = .error halt → ends halt

namespace Ends

variable {α β : Type} {answers : Answers} {ends : Halt → Prop}

theorem pure (value : α) : Ends answers ends (Pure.pure value) :=
  nofun

theorem put (element : Element) : Ends answers ends (Screen.put element) :=
  nofun

theorem pending : Ends answers ends Screen.pending :=
  nofun

theorem setPending (file : PendingFile) : Ends answers ends (Screen.setPending file) :=
  nofun

theorem askText (field : TextField) : Ends answers ends (Screen.askText field) :=
  nofun

theorem askLines (label : String) : Ends answers ends (Screen.askLines label) :=
  nofun

theorem askButton (button : Button) : Ends answers ends (Screen.askButton button) :=
  nofun

theorem askFile (label : String) : Ends answers ends (Screen.askFile label) :=
  nofun

theorem reportAndStop {lead : String} {failure : Failure} (canStop : ends .stopped) :
    Ends answers ends (Screen.reportAndStop lead failure : Screen α) := by
  rintro desk _ ⟨⟩
  exact canStop

theorem within {label : String} {body : Screen Unit} (isBody : Ends answers ends body) :
    Ends answers ends (Screen.within label body) :=
  fun _ => isBody _

theorem mono {part : Screen α} {others : Halt → Prop} (isPart : Ends answers ends part)
    (isWeaker : ∀ halt, ends halt → others halt) : Ends answers others part :=
  fun desk halt halts => isWeaker halt (isPart desk halt halts)

/-- A part ends early as its first part does, or as what comes next does. -/
theorem bind {part : Screen α} {next : α → Screen β} (isFirst : Ends answers ends part)
    (isNext : ∀ desk value, (part answers desk).1 = .ok value → Ends answers ends (next value)) :
    Ends answers ends (part >>= next) := by
  intro desk halt halts
  have first := isFirst desk
  have isNext := isNext desk
  rw [bind_apply] at halts
  generalize part answers desk = result at first isNext halts
  obtain ⟨reason | value, between⟩ := result
  · cases halts
    exact first _ rfl
  · exact isNext value rfl between halt halts

/-- Work in a part ends it as the work can fail. -/
theorem perform {work : Work α} {faults : Failure → Prop} (fails : work.FailsWith faults)
    (areEnds : ∀ failure, faults failure → ends (.failed failure)) :
    Ends answers ends (Screen.perform work) := by
  intro desk halt halts
  have fails := fails desk.context
  rw [perform_apply] at halts
  generalize work.perform desk.context = result at fails halts
  obtain ⟨failure | value, context⟩ := result
  · cases halts
    exact areEnds failure (fails failure rfl)
  · cases halts

end Ends

end Screen
end SealedGateway
