import SealedGateway.Proofs.Webhook.FormLanguage

/-!
# Forms without lone surrogates

Whatever a body stands for holds no lone surrogate that the body does not hold.  So a plain body is
read as a plain form, and a plain form is customarily written as a plain body.
-/

namespace SealedGateway
namespace Form

/-- Whether no name and no value of a form holds a lone surrogate. -/
def IsPlain (form : Form) : Prop :=
  ∀ field ∈ form, field.1.IsPlain ∧ field.2.IsPlain

theorem isPlain_ofTexts (fields : List (String × String)) : (ofTexts fields).IsPlain := by
  intro field isMember
  obtain ⟨⟨name, value⟩, -, rfl⟩ := List.mem_map.mp isMember
  exact ⟨WideText.isPlain_ofChars _, WideText.isPlain_ofChars _⟩

theorem IsPlain.find? {form : Form} (isPlain : form.IsPlain) {name : String} {value : WideText}
    (found : form.find? name = some value) : value.IsPlain := by
  obtain ⟨field, fieldFound, rfl⟩ := Option.map_eq_some_iff.mp found
  exact (isPlain field (List.mem_of_find?_eq_some fieldFound)).2

/-! ## Reading -/

theorem surrogate_mem_fragments {text : WideText} {offset : Fin 0x800}
    (isMember : .surrogate offset ∈ text) : .surrogate offset ∈ text.fragments :=
  List.mem_flatMap.mpr ⟨_, isMember, List.mem_singleton_self _⟩

theorem StandsFor.surrogate_mem {text : WideText} {fragments : List Fragment}
    (standsFor : StandsFor text fragments) {offset : Fin 0x800}
    (isMember : .surrogate offset ∈ fragments) : .surrogate offset ∈ text := by
  induction standsFor with
  | nil => cases isMember
  | escape _ _ _ ih =>
    have isLater := ih ((List.mem_cons.mp isMember).resolve_left nofun)
    exact List.mem_cons_of_mem _ (List.mem_cons_of_mem _ (List.mem_cons_of_mem _ isLater))
  | blank _ ih =>
    exact List.mem_cons_of_mem _ (ih ((List.mem_cons.mp isMember).resolve_left nofun))
  | @plain symbol rest _ _ _ _ ih =>
    rcases List.mem_append.mp isMember with isSymbol | isLater
    · cases symbol with
      | char char =>
        obtain ⟨_, -, ⟨⟩⟩ := List.mem_map.mp isSymbol
      | surrogate other =>
        cases List.mem_singleton.mp isSymbol
        exact List.mem_cons_self
    · exact List.mem_cons_of_mem _ (ih isLater)

/-- What plain text stands for is plain. -/
theorem StandsFor.isPlain {written text : WideText} (standsFor : StandsFor written text.fragments)
    (isPlain : written.IsPlain) : text.IsPlain :=
  fun offset isMember => isPlain offset (standsFor.surrogate_mem (surrogate_mem_fragments isMember))

theorem mem_intersperse {α : Type} {separator item : α} {items : List α}
    (isMember : item ∈ items) : item ∈ items.intersperse separator := by
  fun_induction List.intersperse separator items with
  | case1 => exact isMember
  | case2 => exact isMember
  | case3 first second rest ih =>
    rcases List.mem_cons.mp isMember with rfl | isLater
    · exact List.mem_cons_self
    · exact List.mem_cons_of_mem _ (List.mem_cons_of_mem _ (ih isLater))

/-- The symbols of a part are symbols of the text. -/
theorem subset_of_mem_parts {text part : WideText} (isPart : part ∈ parts text) : part ⊆ text := by
  have isJoined : part ∈ (text.splitOn (.char '&')).intersperse [.char '&'] :=
    mem_intersperse (List.mem_filter.mp isPart).1
  have isInside := (List.sublist_flatten_of_mem isJoined).subset
  rwa [← List.intercalate, List.intercalate_splitOn] at isInside

/-- A plain body stands for plain fields. -/
theorem isPlain_of_decode? {text : WideText} {form : Form} (decoded : decode? text = some form)
    (isPlain : text.IsPlain) : form.IsPlain := by
  intro field isMember
  have isDecoded : some field ∈ (parts text).map decodeSegment? := by
    rw [(decode?_eq_some_iff.mp decoded).2]
    exact List.mem_map_of_mem isMember
  obtain ⟨part, isPart, reads⟩ := List.mem_map.mp isDecoded
  have isPartPlain : part.IsPlain :=
    fun offset isSymbol => isPlain offset (subset_of_mem_parts isPart isSymbol)
  obtain ⟨-, isName, isValue⟩ := decodeSegment?_eq_some_iff.mp reads
  constructor
  · apply isName.isPlain
    exact fun offset isSymbol => isPartPlain offset (List.mem_append_left _ isSymbol)
  · apply isValue.isPlain
    exact fun offset isSymbol =>
      isPartPlain offset (List.mem_append_right _ (List.mem_cons_of_mem _ isSymbol))

theorem isPlain_of_parse {text : WideText} {form : Form} (read : parse text = .ok form)
    (isPlain : text.IsPlain) : form.IsPlain := by
  obtain ⟨isSmall, decoded, -⟩ := parse_eq_ok_iff.mp read
  exact isPlain_of_decode? (decode?_eq_some_iff.mpr ⟨isSmall, decoded⟩) isPlain

/-! ## Writing -/

theorem isPlain_encodedText {text : WideText} (isPlain : text.IsPlain) :
    (encodedText text).IsPlain := by
  intro offset isMember
  obtain ⟨symbol, isSymbol, isWritten⟩ := List.mem_flatMap.mp isMember
  cases symbol with
  | surrogate other =>
    cases List.mem_singleton.mp isWritten
    exact isPlain offset isSymbol
  | char char =>
    rw [encodedSymbol] at isWritten
    split at isWritten
    · simp at isWritten
    split at isWritten
    · simp at isWritten
    · simp [escaped] at isWritten

theorem isPlain_encoded {form : Form} (isPlain : form.IsPlain) : form.encoded.IsPlain := by
  intro offset isMember
  have isOutside : ∀ symbol ∈ form.encoded, symbol ≠ .surrogate offset := by
    refine forall_mem_encoded nofun nofun ?_
    intro field isField
    obtain ⟨isNamePlain, isValuePlain⟩ := isPlain field isField
    refine ⟨?_, ?_⟩
    · rintro _ isSymbol rfl
      exact isPlain_encodedText isNamePlain offset isSymbol
    · rintro _ isSymbol rfl
      exact isPlain_encodedText isValuePlain offset isSymbol
  exact isOutside _ isMember rfl

end Form
end SealedGateway
