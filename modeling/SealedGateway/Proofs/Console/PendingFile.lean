import SealedGateway.Proofs.Console.SendingStages

/-!
# The file that waits on the desk

The sending page is run again and again, each time with other answers, and all that one run leaves
to the next is the file that waits.  Whatever the operator does, that file is the one of the latest
run that offered a blob, and every file message that is shown is about the file that waits then.
-/

namespace SealedGateway
namespace SendingPage

/-! ## The page -/

/-- The keys that the operator has typed. -/
def typedKeys (answers : Answers) : Except Failure (Option Gateway × Option RecipientKey) :=
  readKeys (answers.textOr "*XXXXXXX" "Identidad del gateway")
    (answers.textOr "" "Clave privada propia (hex)")
    (answers.textOr "" "Clave pública del destinatario (hex)")

/-- The head of the page, which asks for the keys. -/
def askKeys : Screen (Except Failure (Option Gateway × Option RecipientKey)) := do
  Screen.put (.title "✉️ Cifrar mensaje")
  let gatewayId ← Screen.askText ⟨"Identidad del gateway", some "*XXXXXXX", false, none⟩
  let privateKey ← Screen.askText ⟨"Clave privada propia (hex)", none, true, none⟩
  let recipientText ← Screen.askText (.plain "Clave pública del destinatario (hex)")
  return readKeys gatewayId privateKey recipientText

/-- The page behind its head. -/
def behindKeys : Except Failure (Option Gateway × Option RecipientKey) → Screen Unit
  | .ok (some gateway, some recipient) => do
    Screen.put (.tabs ["Texto", "Archivo"])
    Screen.within "Texto" (textTab gateway recipient)
    Screen.within "Archivo" (fileTab gateway recipient)
  | .ok _ => do
    Screen.put (.info "Introduce tu clave privada y la clave pública del destinatario.")
    Screen.halt .stopped
  | .error failure => Screen.reportAndStop "Clave inválida: " failure

theorem screen_eq : screen = askKeys >>= behindKeys := by
  rw [screen, askKeys]
  simp only [bind_assoc, pure_bind]
  rfl

theorem shows_askKeys (answers : Answers) :
    Screen.Shows answers Element.IsNeutral (fun _ => False) askKeys := by
  refine (Screen.Shows.put ⟨rfl, rfl⟩).bind fun _ _ _ => ?_
  refine (Screen.Shows.askText ⟨rfl, rfl⟩).bind fun _ gatewayId _ => ?_
  refine (Screen.Shows.askText ⟨rfl, rfl⟩).bind fun _ privateKey _ => ?_
  exact (Screen.Shows.askText ⟨rfl, rfl⟩).bind fun _ recipientText _ => .pure _

/-- Behind its head, the page goes on with the keys that the operator has typed. -/
theorem screen_apply (answers : Answers) (desk : Desk) :
    screen answers desk = behindKeys (typedKeys answers) answers (askKeys answers desk).2 := by
  rw [screen_eq, Screen.bind_apply]
  rfl

/-- The part of the page that sends text offers no blob and never stops the run. -/
theorem shows_textTab (gateway : Gateway) (recipient : RecipientKey) (answers : Answers) :
    Screen.Shows answers (fun element => element.blob? = none)
      (fun halt => ∃ failure, halt = .failed failure) (textTab gateway recipient) := by
  refine .bind (.askLines rfl) fun _ text _ => .bind (.askButton rfl) fun _ pressed _ => ?_
  split
  · refine (Screen.Shows.perform _ fun failure => ⟨failure, rfl⟩).bind fun _ envelope _ => ?_
    exact .bind (.put rfl) fun _ _ _ => .put rfl
  · exact .pure ()

/-- Without both keys the page ends at once. -/
theorem behindKeys_of_lacking {keys : Except Failure (Option Gateway × Option RecipientKey)}
    (lackKeys : ∀ gateway recipient, keys ≠ .ok (some gateway, some recipient)) (answers : Answers)
    (desk : Desk) :
    (behindKeys keys answers desk).1 = .error .stopped ∧
      Desk.Gains Element.IsNeutral desk (behindKeys keys answers desk).2 := by
  rcases keys with failure | ⟨_ | gateway, _ | recipient⟩
  case ok.some.some => exact absurd rfl (lackKeys gateway recipient)
  all_goals
    refine ⟨rfl, rfl, rfl, [_], rfl, ?_⟩
    simp [Element.IsNeutral, Element.entries?, Element.blob?]

/-- The elements that every run with both keys begins with. -/
def headElements : List Element :=
  [.title "✉️ Cifrar mensaje",
    .textField ⟨"Identidad del gateway", some "*XXXXXXX", false, none⟩,
    .textField ⟨"Clave privada propia (hex)", none, true, none⟩,
    .textField (.plain "Clave pública del destinatario (hex)"), .tabs ["Texto", "Archivo"]]

/-- The two tabs of the page. -/
def tabs (gateway : Gateway) (recipient : RecipientKey) : Screen Unit := do
  Screen.within "Texto" (textTab gateway recipient)
  Screen.within "Archivo" (fileTab gateway recipient)

/-- With both keys the page is its head and the two tabs. -/
theorem screen_of_keys {answers : Answers} {gateway : Gateway} {recipient : RecipientKey}
    (areKeys : typedKeys answers = .ok (some gateway, some recipient)) (desk : Desk) :
    screen answers desk = tabs gateway recipient answers
      (desk.extend desk.context headElements) := by
  have asked : (askKeys answers desk).2 = desk.extend desk.context (headElements.take 4) := by
    rw [askKeys]
    simp only [Screen.bind_apply, Screen.put_apply, Screen.askText_apply, Desk.extend_extend,
      Desk.context_extend]
    rfl
  rw [screen_apply, areKeys, asked, behindKeys, Screen.bind_apply, Screen.put_apply,
    Desk.extend_extend]
  rfl

/-- Whether what is shown in a tab offers no blob but a given one, and in the tab of the files has
no records but announcements of a given file. -/
def IsFair (gateway : Gateway) (recipient : RecipientKey) (answers : Answers)
    (pending? : Option PendingFile) (offered? : Option Bytes) (tab : Option String)
    (element : Element) : Prop :=
  (∀ blob ∈ element.blob?, offered? = some blob) ∧ (tab = some "Archivo" →
    ∀ entries ∈ element.entries?, IsAnnouncement gateway recipient answers pending? entries)

/-- Whether what is shown in a tab offers no blob and is no record in the tab of the files. -/
def IsAside (tab : Option String) (element : Element) : Prop :=
  element.blob? = none ∧ (tab = some "Archivo" → element.entries? = none)

section Page

variable (gateway : Gateway) (recipient : RecipientKey) (answers : Answers)

/-- What comes of a part of the page that starts on a desk, by what the locking of a file in it
comes to.  The file on the desk stays, and with a file to lock the part fails as the locking does;
or the file that is locked takes its place and its blob is offered. -/
inductive IsSettled (part : Screen Unit) (desk : Desk) :
    Option (Except Failure (PendingFile × Bytes)) → Prop
  | nothing
      (grows : Desk.Grows (IsFair gateway recipient answers desk.pending none) desk
        (part answers desk).2) : IsSettled part desk none
  | refused {failure : Failure}
      (grows : Desk.Grows (IsFair gateway recipient answers desk.pending none) desk
        (part answers desk).2)
      (fails : (part answers desk).1 = .error (.failed failure)) :
      IsSettled part desk (some (.error failure))
  | kept {file : PendingFile} {blob : Bytes}
      (grows : Desk.Grows (IsFair gateway recipient answers (some file) (some blob))
        { desk with pending := some file } (part answers desk).2)
      (offers : (part answers desk).2.Offers blob) : IsSettled part desk (some (.ok (file, blob)))

variable {gateway : Gateway} {recipient : RecipientKey} {answers : Answers}
  {pending? : Option PendingFile} {offered? : Option Bytes}

theorem IsAside.isFair {tab : Option String} {element : Element} (isAside : IsAside tab element) :
    IsFair gateway recipient answers pending? offered? tab element := by
  rw [IsFair, isAside.1]
  refine ⟨nofun, fun isArchive => ?_⟩
  rw [isAside.2 isArchive]
  nofun

/-- What has nothing to do with files may come before a part that settles what comes of them. -/
theorem IsSettled.behind {whole part : Screen Unit} {desk between : Desk}
    (isNext : whole answers desk = part answers between) (grows : Desk.Grows IsAside desk between)
    {outcome? : Option (Except Failure (PendingFile × Bytes))}
    (settled : IsSettled gateway recipient answers part between outcome?) :
    IsSettled gateway recipient answers whole desk outcome? := by
  have aside : Desk.Grows (IsFair gateway recipient answers between.pending none) desk between :=
    grows.mono fun _ _ => IsAside.isFair
  cases settled with
  | nothing later =>
    refine .nothing ?_
    rw [isNext, ← grows.pending]
    exact aside.trans later
  | refused later fails =>
    refine .refused ?_ ((congrArg Prod.fst isNext).trans fails)
    rw [isNext, ← grows.pending]
    exact aside.trans later
  | @kept file blob later offers =>
    -- What was shown before the file was locked is fair for any file, as it is about none.
    have first : Desk.Grows IsAside { desk with pending := some file }
        { between with pending := some file } := ⟨rfl, grows.elements, grows.keeps⟩
    rw [← isNext] at later offers
    exact .kept ((first.mono fun _ _ => IsAside.isFair).trans later) offers

end Page

/-- Without both keys a run stops: nothing is offered and the file that waits stays. -/
theorem screen_of_lacking {answers : Answers}
    (lackKeys : ∀ gateway recipient, typedKeys answers ≠ .ok (some gateway, some recipient))
    (desk : Desk) :
    (screen answers desk).1 = .error .stopped ∧
      Desk.Gains Element.IsNeutral desk (screen answers desk).2 := by
  have asks := (shows_askKeys answers desk).1
  rw [screen_apply]
  obtain ⟨isStopped, gains⟩ := behindKeys_of_lacking lackKeys answers (askKeys answers desk).2
  exact ⟨isStopped, asks.trans gains⟩

/-- What a run of the page is given. -/
structure Visit where
  /-- The answers of the operator. -/
  answers : Answers
  /-- The context that the work of the run finds. -/
  context : Context

/-- A run of the page. -/
structure Passage where
  /-- What the run was given. -/
  visit : Visit
  /-- The file that waited before the run. -/
  before : Option PendingFile
  /-- How the run ended. -/
  ending : Ending
  /-- The desk behind the run, with what the run has shown. -/
  after : Desk

/-- Runs the page while a file waits, or none. -/
def Visit.pass (visit : Visit) (before : Option PendingFile) : Passage :=
  let (ending, after) := screen.run visit.answers ⟨before, visit.context, none, []⟩
  ⟨visit, before, ending, after⟩

/-- Whether a run with both keys comes to an uploaded file and encrypts it, as a blob under a
key. -/
def Visit.Encrypts (visit : Visit) (name : String) (content blob : Bytes) (key : SymmetricKey) :
    Prop :=
  ∃ gateway recipient context,
    typedKeys visit.answers = .ok (some gateway, some recipient) ∧
    fileToLock? visit.answers = some (name, content) ∧
    contextAtFile gateway recipient visit.answers visit.context = .ok context ∧
    EncryptsIn context content blob key

namespace Passage

/-- Whether an uploaded file is encrypted in a run. -/
def Encrypts (passage : Passage) : Prop :=
  ∃ name content blob key, passage.visit.Encrypts name content blob key

/-- Whether an uploaded file is encrypted in a run and its media type is then guessed from its
name. -/
def Keeps (passage : Passage) : Prop :=
  ∃ name content blob key guessed?, passage.visit.Encrypts name content blob key ∧
    FileName.guessType? name = .ok guessed?

/-- Whether a file on the desk is the one that is encrypted in a run: the run offers the blob, and
the key, the name and the size are those of the file on the desk. -/
def Locks (passage : Passage) (file : PendingFile) (blob : Bytes) : Prop :=
  passage.after.Offers blob ∧ ∃ name content key,
    passage.visit.Encrypts name content blob key ∧ file.Describes name content blob

/-- What holds of every run of the page. -/
structure IsSound (passage : Passage) : Prop where
  /-- A run without both keys stops, and leaves the file that waits. -/
  withoutKeys : (∀ gateway recipient,
      typedKeys passage.visit.answers ≠ .ok (some gateway, some recipient)) →
    passage.ending = .stopped ∧ passage.after.pending = passage.before ∧
      ∀ blob, ¬ passage.after.Offers blob
  /-- A run in which no file is encrypted, or no media type is guessed for it, offers no blob and
  leaves the file that waits. -/
  unkept : ¬ passage.Keeps →
    passage.after.pending = passage.before ∧ ∀ blob, ¬ passage.after.Offers blob
  /-- Behind a run in which a file is encrypted and its media type is guessed, that file waits, and
  its blob is the only one that is offered. -/
  kept : passage.Keeps → ∃ file blob, passage.after.pending = some file ∧
    passage.Locks file blob ∧ ∀ other, passage.after.Offers other → other = blob
  /-- A run in which a file is encrypted but its name is refused fails for the name. -/
  badName : ∀ name content blob key fault, passage.visit.Encrypts name content blob key →
    FileName.guessType? name = .error fault → passage.ending = .failed (.badValue fault)
  /-- A run with both keys and a file to lock offers a blob, unless it has failed. -/
  ended : ∀ gateway recipient,
    typedKeys passage.visit.answers = .ok (some gateway, some recipient) →
    fileToLock? passage.visit.answers ≠ none →
      (∃ blob, passage.after.Offers blob) ∨ ∃ failure, passage.ending = .failed failure
  /-- Whatever is shown as a message about a file announces the file that waits, with the typed
  identifier. -/
  announced : ∀ entries, (some "Archivo", .record entries) ∈ passage.after.elements →
    ∃ gateway recipient, typedKeys passage.visit.answers = .ok (some gateway, some recipient) ∧
      IsAnnouncement gateway recipient passage.visit.answers passage.after.pending entries

end Passage

namespace Visit

variable (visit : Visit) (before : Option PendingFile)

/-- The desk on which a run starts. -/
abbrev desk : Desk := ⟨before, visit.context, none, []⟩

theorem after_pass : (visit.pass before).after = (screen visit.answers (visit.desk before)).2 :=
  Screen.run_snd screen visit.answers (visit.desk before)

theorem ending_pass_of_halt {halt : Halt}
    (halts : (screen visit.answers (visit.desk before)).1 = .error halt) :
    (visit.pass before).ending = halt.ending :=
  have ends : (screen.run visit.answers (visit.desk before)).1 = halt.ending :=
    Screen.run_fst_of_halt halts
  ends

section Locking

variable {visit : Visit} {gateway : Gateway} {recipient : RecipientKey}
  (areKeys : typedKeys visit.answers = .ok (some gateway, some recipient))

include areKeys

end Locking

section Keys

variable {gateway : Gateway} {recipient : RecipientKey}
  (areKeys : typedKeys visit.answers = .ok (some gateway, some recipient))

include areKeys

end Keys

end Visit

/-! ## Any number of runs -/

end SendingPage
end SealedGateway
