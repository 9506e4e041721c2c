import SealedGateway.Proofs.Descriptor.Rules
import SealedGateway.Proofs.Json.NestingLimit

/-!
# What receiving a descriptor can end in

A received document gives a descriptor, or it is refused as a malformed one, whatever is wrong with
it: its encoding, its grammar, the kinds of its entries or a rule.  One failure is not reported in
this way.  The reader gives up on brackets that are nested deeper than it goes, and a document that
is one value fails like that exactly if its brackets are.
-/

namespace SealedGateway
namespace Descriptor

/-! ## Faults of the document -/

theorem exists_faults_of_ofFields {fields : List (String × Value)} {failure : Failure}
    (refused : Metadata.ofFields fields = .error failure) :
    ∃ faults, failure = .invalidFields faults := by
  unfold Metadata.ofFields at refused
  split at refused
  · cases refused
  · next faults _ => exact ⟨faults, (Except.error.inj refused).symm⟩

theorem isDocumentFault_of_toRendering {value : Value} {failure : Failure}
    (refused : value.toRendering = .error failure) : isDocumentFault failure = true := by
  unfold Value.toRendering Value.toMember at refused
  split at refused
  · cases refused
  · cases refused
    rfl

theorem isDocumentFault_of_readHints {rendering : Rendering} {entries : List (WideText × Json)}
    {failure : Failure} (refused : readHints rendering entries = .error failure) :
    isDocumentFault failure = true := by
  unfold readHints at refused
  split at refused
  · cases refused
  split at refused
  · cases refused
  split at refused
  · next hints _ _ =>
    change (Metadata.ofFields (Field.given (entryValue? · hints) _)).map some = _ at refused
    rcases made : Metadata.ofFields (Field.given (entryValue? · hints) _) with fault | metadata
    · obtain ⟨faults, rfl⟩ := exists_faults_of_ofFields made
      rw [made] at refused
      cases refused
      rfl
    · rw [made] at refused
      cases refused
  · cases refused
    rfl

/-- Whatever is wrong with the entries of a received object is a fault of the document: the
rendering among the fields is always a member, so that no number is compared out of its range. -/
theorem isDocumentFault_of_ofEntries {entries : List (WideText × Json)} {failure : Failure}
    (refused : ofEntries entries = .error failure) : isDocumentFault failure = true := by
  unfold ofEntries at refused
  split at refused
  · next renderingRefused =>
    cases refused
    exact isDocumentFault_of_toRendering renderingRefused
  next rendering _ =>
  split at refused
  · next hintsRefused =>
    cases refused
    exact isDocumentFault_of_readHints hintsRefused
  next metadata _ =>
  change ofFields (Field.given (entryValue? · entries) _ ++ _) = _ at refused
  generalize fieldsAre : Field.given (entryValue? · entries) _ ++ _ = fields at refused
  have renderingFound : Field.find? "rendering_type" fields = some (.rendering rendering) := by
    rw [← fieldsAre]
    simp +decide only [Field.find?_given_cons, Field.given_nil, Field.find?_cons,
      List.nil_append, if_true, if_false, Option.none_or, Option.some_or]
  have renderingRead :
      readRenderingField (Field.find? "rendering_type" fields) = .ok (.ok rendering) := by
    rw [renderingFound]
    rfl
  rcases made_or_refused renderingRead with ⟨descriptor, made⟩ | ⟨faults, isRefused⟩
  · cases made.symm.trans refused
  · cases isRefused.symm.trans refused
    rfl

theorem isDocumentFault_of_ofReceived {json : Json} {failure : Failure}
    (refused : ofReceived json = .error failure) : isDocumentFault failure = true := by
  cases json with
  | object entries => exact isDocumentFault_of_ofEntries refused
  | _ =>
    cases refused
    rfl

/-! ## Documents -/

/-- A document is read, or it is malformed, or the reader gives up on its brackets. -/
theorem readDocument_cases (document : Value) :
    (∃ json, readDocument document = .ok json) ∨
      readDocument document = .error (.malformed .malformedDescriptor) ∨
      readDocument document = .error .tooDeep ∧
        ∃ text, documentText? document = some text ∧ Json.parse text = .error .tooDeep := by
  unfold readDocument
  split
  · exact .inr (.inl rfl)
  next text isText =>
  split
  · exact .inl ⟨_, rfl⟩
  · next givesUp => exact .inr (.inr ⟨rfl, text, isText, givesUp⟩)
  · exact .inr (.inl rfl)

/-- What is wrong with the value of a document is reported as one fault, whatever it is. -/
theorem ofJson_of_refused {document : Value} {json : Json} {failure : Failure}
    (isRead : readDocument document = .ok json) (refused : ofReceived json = .error failure) :
    ofJson document = .error (.malformed .malformedDescriptor) := by
  have isFault := isDocumentFault_of_ofReceived refused
  simp only [ofJson, isRead, bind, Except.bind, refused, isFault, if_true]

/-- A document that gives no descriptor is refused as a malformed one, or the reader gives up on its
brackets. -/
theorem ofJson_cases (document : Value) :
    (∃ descriptor, ofJson document = .ok descriptor) ∨
      ofJson document = .error (.malformed .malformedDescriptor) ∨
      ofJson document = .error .tooDeep ∧
        ∃ text, documentText? document = some text ∧ Json.parse text = .error .tooDeep := by
  rcases readDocument_cases document with ⟨json, isRead⟩ | isMalformed | ⟨isDeep, text, givesUp⟩
  · rcases received : ofReceived json with failure | descriptor
    · exact .inr (.inl (ofJson_of_refused isRead received))
    · refine .inl ⟨descriptor, ?_⟩
      simp only [ofJson, isRead, bind, Except.bind, received]
  · refine .inr (.inl ?_)
    rw [ofJson, isMalformed]
    rfl
  · refine .inr (.inr ⟨?_, text, givesUp⟩)
    rw [ofJson, isDeep]
    rfl

theorem ofJson_of_tooDeep {document : Value} {text : WideText}
    (isText : documentText? document = some text) (givesUp : Json.parse text = .error .tooDeep) :
    ofJson document = .error .tooDeep := by
  rw [ofJson, readDocument, isText]
  simp only [givesUp]
  rfl

/-- A document fails for depth exactly if its text does. -/
theorem ofJson_eq_tooDeep_iff {document : Value} {text : WideText}
    (isText : documentText? document = some text) :
    ofJson document = .error .tooDeep ↔ Json.parse text = .error .tooDeep := by
  constructor
  · intro failed
    rcases ofJson_cases document with ⟨_, made⟩ | isMalformed | ⟨-, other, isOther, givesUp⟩
    · cases made.symm.trans failed
    · cases isMalformed.symm.trans failed
    · cases isText.symm.trans isOther
      exact givesUp
  · exact ofJson_of_tooDeep isText

/-- Whether a document gives a descriptor or is refused as a malformed one. -/
def IsAnswered (document : Value) : Prop :=
  (∃ descriptor, ofJson document = .ok descriptor) ∨
    ofJson document = .error (.malformed .malformedDescriptor)

/-- Exactly the documents are answered on whose brackets the reader does not give up. -/
theorem isAnswered_iff {document : Value} : IsAnswered document ↔
    ofJson document ≠ .error .tooDeep := by
  constructor
  · rintro (⟨descriptor, made⟩ | isMalformed) failed
    · cases made.symm.trans failed
    · cases isMalformed.symm.trans failed
  · intro isOther
    rcases ofJson_cases document with made | isMalformed | ⟨failed, -⟩
    · exact .inl made
    · exact .inr isMalformed
    · exact absurd failed isOther

theorem isAnswered_iff_of_isWellFormed {document : Value} {text : WideText}
    (isText : documentText? document = some text) (isWellFormed : Json.IsWellFormed text) :
    IsAnswered document ↔ Json.bracketDepth text ≤ Json.nestingLimit := by
  rw [isAnswered_iff, Ne, ofJson_eq_tooDeep_iff isText]
  rcases Json.parseWithin_of_isWellFormed Json.nestingLimit isWellFormed with
    ⟨isShallow, json, parsed⟩ | ⟨isDeep, givesUp⟩
  · simp [Json.parse, parsed, isShallow]
  · simp [Json.parse, givesUp, Nat.not_le.mpr isDeep]

/-- Every document gives a descriptor or is refused as a malformed one, unless its brackets are
nested deeper than the reader goes, and then the failure is that of the reader; a document that is
one value is answered exactly if they are not. -/
theorem ofJson_failure_modes (document : Value) :
    (IsAnswered document ∨ ofJson document = .error .tooDeep ∧
      ∃ text, documentText? document = some text ∧ Json.nestingLimit < Json.bracketDepth text) ∧
    ∀ text, documentText? document = some text → Json.IsWellFormed text →
      (IsAnswered document ↔ Json.bracketDepth text ≤ Json.nestingLimit) := by
  refine ⟨?_, fun text isText isWellFormed => isAnswered_iff_of_isWellFormed isText isWellFormed⟩
  rcases ofJson_cases document with made | isMalformed | ⟨failed, text, isText, givesUp⟩
  · exact .inl (.inl made)
  · exact .inl (.inr isMalformed)
  · exact .inr ⟨failed, text, isText, Json.lt_bracketDepth_of_tooDeep givesUp⟩

/-- A document of 6000 lists in one another. -/
def bracketDocument : Value := .text (Json.nestedBrackets 5999)

theorem documentText?_bracketDocument :
    documentText? bracketDocument = some (Json.nestedBrackets 5999) := by
  rw [bracketDocument, documentText?, Json.nestedBrackets, if_neg (by decide)]

theorem ofJson_failure_modes_of_bracketDocument :
    documentText? bracketDocument = some (Json.nestedBrackets 5999) ∧
      Json.IsWellFormed (Json.nestedBrackets 5999) ∧
      (IsAnswered bracketDocument ↔ 6000 ≤ Json.nestingLimit) := by
  have isText := documentText?_bracketDocument
  have isWellFormed := Json.isWellFormed_nestedBrackets 5999
  have answered := (ofJson_failure_modes bracketDocument).2 _ isText isWellFormed
  rw [Json.bracketDepth_nestedBrackets] at answered
  exact ⟨isText, isWellFormed, answered⟩

/-- A well-formed document that neither gives a descriptor nor is refused as a malformed one. -/
theorem not_isAnswered_bracketDocument :
    documentText? bracketDocument = some (Json.nestedBrackets 5999) ∧
      Json.IsWellFormed (Json.nestedBrackets 5999) ∧ ¬ IsAnswered bracketDocument := by
  have isText := documentText?_bracketDocument
  have isWellFormed := Json.isWellFormed_nestedBrackets 5999
  refine ⟨isText, isWellFormed, ?_⟩
  rw [isAnswered_iff_of_isWellFormed isText isWellFormed, Json.bracketDepth_nestedBrackets]
  decide

end Descriptor
end SealedGateway
