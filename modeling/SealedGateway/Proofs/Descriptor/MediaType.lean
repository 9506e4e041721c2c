import SealedGateway.Descriptor.MediaType
import SealedGateway.Proofs.Text.Blank

/-!
# The language of media types

A text is a media type exactly when it is two tokens with a slash between them and, behind them,
nothing or parameters.  The reader cuts greedily, and nothing else could be cut: neither a slash nor
a blank nor a semicolon belongs to a token.
-/

namespace SealedGateway
namespace MediaType

/-- Whether a text is a token: some symbols, all of which belong to tokens. -/
def IsToken (text : WideText) : Prop :=
  text ≠ [] ∧ ∀ symbol ∈ text, isTokenSymbol symbol = true

/-- Whether a text is parameters: blanks, a semicolon and anything that holds no line feed. -/
def HasParameters (text : WideText) : Prop :=
  ∃ blanks value, text = blanks ++ .char ';' :: value ∧
    (∀ symbol ∈ blanks, isBlankSymbol symbol = true) ∧ .char '\n' ∉ value

/-- Whether a text is two tokens with a slash between them and perhaps parameters. -/
def Matches (text : WideText) : Prop :=
  ∃ mainType subtype rest, text = mainType ++ .char '/' :: (subtype ++ rest) ∧
    IsToken mainType ∧ IsToken subtype ∧ (rest = [] ∨ HasParameters rest)

/-! ## Classes of symbols -/

theorem toNat_of_isTokenChar {char : Char} (isToken : isTokenChar char = true) :
    33 ≤ char.toNat ∧ char.toNat ≤ 122 := by
  simp only [isTokenChar, Bool.or_eq_true, decide_eq_true_eq] at isToken
  rcases isToken with ((((((((isAlphanumeric | rfl) | rfl) | rfl) | rfl) | rfl) | rfl) | rfl) |
    rfl) | rfl
  · exact Text.toNat_of_isAlphanum isAlphanumeric
  all_goals decide

/-- No blank belongs to a token. -/
theorem isTokenSymbol_of_isBlankSymbol {symbol : Symbol} (isBlank : isBlankSymbol symbol = true) :
    isTokenSymbol symbol = false := by
  cases symbol with
  | surrogate offset => rfl
  | char char =>
    rw [← Bool.not_eq_true]
    intro isToken
    obtain ⟨least, most⟩ := toNat_of_isTokenChar isToken
    rw [isBlankSymbol, Text.isBlank_of_toNat least (by omega)] at isBlank
    cases isBlank

/-! ## Cutting -/

/-- A text is cut behind a run of symbols of a class if no symbol of the class follows. -/
theorem span_append {isInside : Symbol → Bool} {run rest : WideText}
    (areInside : ∀ symbol ∈ run, isInside symbol = true)
    (isEnd : ∀ symbol ∈ rest.head?, isInside symbol = false) :
    (run ++ rest).takeWhile isInside = run ∧ (run ++ rest).dropWhile isInside = rest := by
  rw [List.takeWhile_append_of_pos areInside, List.dropWhile_append_of_pos areInside]
  cases rest with
  | nil => simp
  | cons symbol others =>
    have isOutside : isInside symbol = false := isEnd symbol rfl
    simp [isOutside]

/-- The texts that are read as what may follow the tokens. -/
theorem isParameters_iff {text : WideText} :
    isParameters text = true ↔ text = [] ∨ HasParameters text := by
  constructor
  · intro isRead
    unfold isParameters at isRead
    split at isRead
    · exact Or.inl rfl
    split at isRead
    · next value behindBlanks =>
      refine Or.inr ⟨text.takeWhile isBlankSymbol, value, ?_, ?_, by simpa using isRead⟩
      · rw [← behindBlanks, List.takeWhile_append_dropWhile]
      · exact List.all_eq_true.mp List.all_takeWhile
    · cases isRead
  · rintro (rfl | ⟨blanks, value, rfl, areBlank, noLineFeed⟩)
    · rfl
    · have isEnd : ∀ symbol ∈ (Symbol.char ';' :: value).head?, isBlankSymbol symbol = false := by
        rintro _ ⟨⟩
        rfl
      unfold isParameters
      split
      · rfl
      · rw [(span_append areBlank isEnd).2]
        simpa using noLineFeed

/-- What may follow the tokens does not begin with a symbol of a token. -/
theorem isTokenSymbol_head {rest : WideText} (isRest : rest = [] ∨ HasParameters rest) :
    ∀ symbol ∈ rest.head?, isTokenSymbol symbol = false := by
  rcases isRest with rfl | ⟨blanks, value, rfl, areBlank, -⟩
  · nofun
  · cases blanks with
    | nil =>
      rintro _ ⟨⟩
      rfl
    | cons blank others =>
      rintro _ ⟨⟩
      exact isTokenSymbol_of_isBlankSymbol (areBlank blank List.mem_cons_self)

/-- The texts that are read as media types. -/
theorem isMediaType_iff {text : WideText} : isMediaType text = true ↔ Matches text := by
  constructor
  · intro isRead
    unfold isMediaType at isRead
    split at isRead
    · next first others subtype mainTypeIs behindIs =>
      rw [Bool.and_eq_true, Bool.not_eq_true', List.isEmpty_eq_false_iff, isParameters_iff]
        at isRead
      refine ⟨first :: others, subtype.takeWhile isTokenSymbol, subtype.dropWhile isTokenSymbol,
        ?_, ⟨List.cons_ne_nil _ _, ?_⟩, ⟨isRead.1, List.all_eq_true.mp List.all_takeWhile⟩,
        isRead.2⟩
      · rw [List.takeWhile_append_dropWhile, ← mainTypeIs, ← behindIs,
          List.takeWhile_append_dropWhile]
      · rw [← mainTypeIs]
        exact List.all_eq_true.mp List.all_takeWhile
    · cases isRead
  · rintro ⟨mainType, subtype, rest, rfl, ⟨isNonempty, areMainType⟩, ⟨hasSubtype, areSubtype⟩,
      isRest⟩
    obtain ⟨first, others, rfl⟩ := List.exists_cons_of_ne_nil isNonempty
    have isSlash : ∀ symbol ∈ (Symbol.char '/' :: (subtype ++ rest)).head?,
        isTokenSymbol symbol = false := by
      rintro _ ⟨⟩
      rfl
    obtain ⟨mainTypeIs, behindIs⟩ := span_append areMainType isSlash
    obtain ⟨subtypeIs, restIs⟩ := span_append areSubtype (isTokenSymbol_head isRest)
    rw [isMediaType, mainTypeIs, behindIs]
    simp only [subtypeIs, restIs, isParameters_iff.mpr isRest, Bool.and_true, Bool.not_eq_true',
      List.isEmpty_eq_false_iff]
    exact hasSubtype

end MediaType
end SealedGateway
