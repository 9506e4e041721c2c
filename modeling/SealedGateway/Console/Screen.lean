import SealedGateway.Console.Element
import SealedGateway.Identifier
import SealedGateway.Work.Basic

/-!
# Screens

A screen runs once from the top with the answers of the operator.  It shows elements, does work,
and ends at its bottom, at a stop, or with a failure that it does not report.  The desk keeps
what outlives a run: the file that waits for its blob identifier, and the context of the work.
-/

namespace SealedGateway

/-- An answer of the operator. -/
inductive Answer
  | text (value : String)
  | pressed (value : Bool)
  | file (name : String) (content : Bytes)
deriving DecidableEq

/-- The answers by the names of their widgets. -/
abbrev Answers := List (String × Answer)

namespace Answers

/-- The answer of a widget. -/
def find? (answers : Answers) (name : String) : Option Answer :=
  (List.find? (fun entry => entry.1 = name) answers).map Prod.snd

/-- The text typed into a widget. -/
def textOr (answers : Answers) (fallback name : String) : String :=
  match answers.find? name with
  | some (.text value) => value
  | _ => fallback

/-- Whether a button is pressed. -/
def isPressed (answers : Answers) (name : String) : Bool :=
  match answers.find? name with
  | some (.pressed value) => value
  | _ => false

/-- The file given to a widget. -/
def file? (answers : Answers) (name : String) : Option (String × Bytes) :=
  match answers.find? name with
  | some (.file fileName content) => some (fileName, content)
  | _ => none

end Answers

/-- A locked file that waits for the identifier of its blob. -/
structure PendingFile where
  /-- The name of the file. -/
  name : String
  /-- The size of the file in bytes. -/
  size : Nat
  /-- The key of the file. -/
  key : SymmetricKey
  /-- The media type of the file. -/
  mediaType : String
deriving DecidableEq

/-- What outlives a run, and what the current run has shown. -/
structure Desk where
  /-- The file that waits for its blob. -/
  pending : Option PendingFile
  /-- The context of the work. -/
  context : Context
  /-- The tab in which elements stand now. -/
  tab : Option String
  /-- The elements shown so far, each with the tab in which it stands. -/
  elements : List (Option String × Element)

namespace Desk

/-- A desk before any run. -/
def ofContext (context : Context) : Desk := ⟨none, context, none, []⟩

end Desk

/-- Why a run ends before the bottom of its screen. -/
inductive Halt
  | stopped
  | failed (failure : Failure)
deriving DecidableEq

/-- A part of a screen. -/
abbrev Screen := ReaderT Answers (ExceptT Halt (StateM Desk))

namespace Screen

/-- What comes after a part of a screen runs on the desk that the part leaves; after an end nothing
runs. -/
theorem bind_apply {α β : Type} (part : Screen α) (next : α → Screen β) (answers : Answers)
    (desk : Desk) :
    (part >>= next) answers desk =
      match part answers desk with
      | (.ok value, after) => next value answers after
      | (.error halt, after) => (.error halt, after) := by
  change StateT.bind (part answers) (ExceptT.bindCont fun value => next value answers) desk = _
  rw [StateT.bind]
  rcases part answers desk with ⟨_ | value, after⟩ <;> rfl

/-- Shows an element. -/
def put (element : Element) : Screen Unit := fun _ desk =>
  (.ok (), { desk with elements := desk.elements ++ [(desk.tab, element)] })

/-- Ends the run. -/
def halt {α : Type} (halt : Halt) : Screen α := fun _ desk =>
  (.error halt, desk)

/-- The answers of the operator. -/
def answers : Screen Answers := fun answers desk => (.ok answers, desk)

/-- Runs a part of the screen in a tab. -/
def within (label : String) (body : Screen Unit) : Screen Unit := fun answers desk =>
  match body answers { desk with tab := some label } with
  | (outcome, desk) => (outcome, { desk with tab := none })

/-- Does work, and gives its outcome. -/
def attempt {α : Type} (work : Work α) : Screen (Except Failure α) := fun _ desk =>
  let (outcome, context) := work.perform desk.context
  (.ok outcome, { desk with context })

/-- Does work whose failure ends the run. -/
def perform {α : Type} (work : Work α) : Screen α := do
  match ← attempt work with
  | .ok result => return result
  | .error failure => halt (.failed failure)

/-- Shows the text of a failure behind a lead and stops. -/
def reportAndStop {α : Type} (lead : String) (failure : Failure) : Screen α := do
  put (.error (WideText.ofString lead ++ failure.message?.getD ""))
  halt .stopped

/-- Asks for a line of text. -/
def askText (field : TextField) : Screen String := do
  put (.textField field)
  return (← answers).textOr (field.initialText.getD "") (field.name.getD field.label)

/-- Asks for several lines of text. -/
def askLines (label : String) : Screen String := do
  put (.textArea label)
  return (← answers).textOr "" label

/-- Asks whether a button is pressed; one that is out of use never is. -/
def askButton (button : Button) : Screen Bool := do
  put (.button button)
  let pressed := (← answers).isPressed (button.name.getD button.label)
  return pressed && button.isDisabled != some true

/-- Asks for a file. -/
def askFile (label : String) : Screen (Option (String × Bytes)) := do
  put (.uploader label)
  return (← answers).file? label

/-- The file that waits for its blob. -/
def pending : Screen (Option PendingFile) := fun _ desk => (.ok desk.pending, desk)

/-- Keeps a file until its blob is known. -/
def setPending (file : PendingFile) : Screen Unit := fun _ desk =>
  (.ok (), { desk with pending := some file })

end Screen

/-- How a run ended. -/
inductive Ending
  | done
  | stopped
  | failed (failure : Failure)
deriving DecidableEq

/-- Runs a screen from the top: how it ended, and the desk afterwards with the elements of this
run. -/
def Screen.run (screen : Screen Unit) (answers : Answers) (desk : Desk) : Ending × Desk :=
  match screen answers { desk with tab := none, elements := [] } with
  | (.ok (), desk) => (.done, desk)
  | (.error .stopped, desk) => (.stopped, desk)
  | (.error (.failed failure), desk) => (.failed failure, desk)

end SealedGateway
