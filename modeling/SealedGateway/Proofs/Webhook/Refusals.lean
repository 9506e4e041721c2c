import Mathlib.Data.List.Duplicate
import SealedGateway.Proofs.Webhook.Language

/-!
# What a refusal repeats

A webhook is refused for one of a few reasons.  All but one of them say nothing of what it holds;
the other is a name that occurs twice, which it repeats.
-/

namespace SealedGateway

namespace Form

/-- Whether a text stands for fields among which a name occurs twice. -/
def Repeats (text : String) (name : WideText) : Prop :=
  ∃ form, decode? (WideText.ofString text) = some form ∧
    List.Duplicate name (form.map Prod.fst)

theorem mem_of_duplicate? {seen : List WideText} {form : Form} {name : WideText}
    (found : duplicate? seen form = some name) : name ∈ form.map Prod.fst := by
  induction form generalizing seen with
  | nil => cases found
  | cons field rest ih =>
    rw [duplicate?] at found
    split at found
    · cases found
      exact List.mem_cons_self
    · exact List.mem_cons_of_mem _ (ih found)

/-- A name that is found has been seen before, or occurs twice from here on. -/
theorem duplicate_of_duplicate? {seen : List WideText} {form : Form} {name : WideText}
    (found : duplicate? seen form = some name) :
    name ∈ seen ∨ List.Duplicate name (form.map Prod.fst) := by
  induction form generalizing seen with
  | nil => cases found
  | cons field rest ih =>
    rw [duplicate?] at found
    split at found
    · next isSeen =>
      cases found
      exact .inl (List.contains_iff_mem.mp isSeen)
    · rcases ih found with isMember | isDuplicate
      · rcases List.mem_cons.mp isMember with rfl | isOld
        · exact .inr (mem_of_duplicate? found).duplicate_cons_self
        · exact .inl isOld
      · exact .inr (isDuplicate.duplicate_cons _)

theorem ofBody_ofString (text : String) :
    ofBody (Value.ofString text) = (parse (WideText.ofString text)).mapError .malformed :=
  ofBody_eq_of_isBody (.text _)

/-- A text that is no form is badly written, or repeats a name. -/
theorem ofBody_ofString_error {text : String} {failure : Failure}
    (refused : ofBody (Value.ofString text) = .error failure) :
    failure = .malformed .malformedForm ∨
      ∃ name, Repeats text name ∧ failure = .malformed (.duplicateField name) := by
  rw [ofBody_ofString, parse] at refused
  cases decoded : decode? (WideText.ofString text) with
  | none =>
    rw [decoded] at refused
    cases refused
    exact .inl rfl
  | some form =>
    rw [decoded] at refused
    cases found : duplicate? [] form with
    | none =>
      simp only [found] at refused
      cases refused
    | some name =>
      simp only [found] at refused
      cases refused
      have isDuplicate := (duplicate_of_duplicate? found).resolve_left List.not_mem_nil
      exact .inr ⟨name, ⟨form, decoded, isDuplicate⟩, rfl⟩

end Form

namespace Intake

/-- The reasons for a refusal that say nothing of what a webhook holds. -/
inductive IsMute : Failure → Prop
  | malformedForm : IsMute (.malformed .malformedForm)
  | macMissing : IsMute (.malformed .macMissing)
  | fieldsMissing {names : List String} (areNames : names.Sublist Mac.fieldNames) :
    IsMute (.malformed (.fieldsMissing names))
  | invalidMac : IsMute .invalidMac
  | malformedIncoming : IsMute (.malformed .malformedIncoming)

/-- A plain form is refused for a reason that says nothing of what it holds. -/
theorem isMute_of_acceptForm {form : Form} (isPlain : form.IsPlain) {secret : String}
    {context : Context} {failure : Failure}
    (refused : ((acceptForm form secret).perform context).1 = .error failure) :
    IsMute failure := by
  -- The code is checked before any field is interpreted, so a forged form is never looked into.
  by_cases isComplete : ∃ texts, form.Presents texts ∧ texts.HasCode
  · obtain ⟨texts, presents, hasCode⟩ := isComplete
    obtain ⟨whenRight, whenWrong⟩ := acceptForm_of_presents presents hasCode secret context
    by_cases isAuthentic : texts.IsAuthentic secret
    · rw [whenRight isAuthentic] at refused
      rcases interpret_cases presents with ⟨message, interpreted⟩ | isUnreadable
      · cases interpreted.symm.trans refused
      · cases isUnreadable.symm.trans refused
        exact .malformedIncoming
    · cases (whenWrong isAuthentic).symm.trans refused
      exact .invalidMac
  · rcases acceptForm_of_lacking isComplete secret context with noCode | lacksFields | ⟨isMarred, -⟩
    · cases noCode.symm.trans refused
      exact .macMissing
    · cases lacksFields.symm.trans refused
      exact .fieldsMissing List.filter_sublist
    · exact absurd isPlain isMarred

/-- A text is refused for a reason that says nothing of what it holds, or for a name that it
repeats. -/
theorem isMute_or_repeats_of_outcome {text secret : String} {context : Context} {failure : Failure}
    (refused : outcome (Value.ofString text) secret context = .error failure) :
    IsMute failure ∨
      ∃ name, Form.Repeats text name ∧ failure = .malformed (.duplicateField name) := by
  cases read : Form.ofBody (Value.ofString text) with
  | error fault =>
    cases (outcome_of_ofBody_error read secret context).symm.trans refused
    refine (Form.ofBody_ofString_error read).imp_left ?_
    rintro rfl
    exact .malformedForm
  | ok form =>
    rw [outcome_of_ofBody_ok read] at refused
    have isRequest : IsRequest (Value.ofString text) := .text text.toList
    exact .inl (isMute_of_acceptForm (isRequest.isPlain read) refused)

end Intake
end SealedGateway
