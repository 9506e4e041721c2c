import SealedGateway.Proofs.Text.Utf8
import SealedGateway.Text.Wide

/-!
# Wide text

A text without lone surrogates consists of characters, and only such a text has a UTF-8 form.  Every
text has fragments, and these determine it: they are read back as that text, and nothing but the
fragments of a text is read.
-/

namespace SealedGateway
namespace WideText

variable {text behind : WideText} {bytes : Bytes} {fragments : List Fragment}

/-! ## Plain text -/

/-- A text without lone surrogates consists of its characters. -/
theorem toChars?_eq_some_iff {text : WideText} {chars : List Char} :
    text.toChars? = some chars ↔ text = ofChars chars := by
  constructor
  · intro read
    induction text generalizing chars with
    | nil =>
      cases read
      rfl
    | cons symbol rest ih =>
      rw [toChars?, List.mapM_cons] at read
      obtain ⟨char, isChar, read⟩ := Option.bind_eq_some_iff.mp read
      obtain ⟨others, restRead, ⟨⟩⟩ := Option.bind_eq_some_iff.mp read
      cases symbol with
      | surrogate offset => cases isChar
      | char value =>
        cases isChar
        rw [ih restRead]
        rfl
  · rintro rfl
    exact toChars?_ofChars chars

/-- All symbols of a text belong to a class without surrogates exactly if the text consists of
characters of that class. -/
theorem forall_mem_iff {text : WideText} {IsInside : Symbol → Prop}
    (noSurrogate : ∀ offset, ¬ IsInside (.surrogate offset)) :
    (∀ symbol ∈ text, IsInside symbol) ↔
      ∃ chars, text = ofChars chars ∧ ∀ char ∈ chars, IsInside (.char char) := by
  constructor
  · intro areInside
    induction text with
    | nil => exact ⟨[], rfl, nofun⟩
    | cons symbol rest ih =>
      obtain ⟨isInside, restInside⟩ := List.forall_mem_cons.mp areInside
      obtain ⟨chars, restIs, charsInside⟩ := ih restInside
      cases symbol with
      | surrogate offset => exact absurd isInside (noSurrogate offset)
      | char value =>
        refine ⟨value :: chars, ?_, List.forall_mem_cons.mpr ⟨isInside, charsInside⟩⟩
        rw [restIs, ofChars, ofChars, List.map_cons]
  · rintro ⟨chars, rfl, charsInside⟩
    exact List.forall_mem_map.mpr charsInside

theorem ofChars_injective : Function.Injective ofChars := by
  intro left right same
  have read := toChars?_ofChars left
  rw [same, toChars?_ofChars] at read
  exact (Option.some.inj read).symm

/-- Whether a text holds no lone surrogate. -/
def IsPlain (text : WideText) : Prop :=
  ∀ offset, Symbol.surrogate offset ∉ text

theorem isPlain_ofChars (chars : List Char) : IsPlain (ofChars chars) := by
  intro offset isMember
  obtain ⟨_, -, ⟨⟩⟩ := List.mem_map.mp isMember

/-- Plain text consists of characters. -/
theorem IsPlain.exists_chars (isPlain : text.IsPlain) : ∃ chars, text = ofChars chars := by
  have areChars : ∀ symbol ∈ text, ∃ char, symbol = .char char := by
    intro symbol isMember
    cases symbol with
    | char char => exact ⟨char, rfl⟩
    | surrogate offset => exact absurd isMember (isPlain offset)
  obtain ⟨chars, textIs, -⟩ := (forall_mem_iff nofun).mp areChars
  exact ⟨chars, textIs⟩

/-- Plain text is ordinary text. -/
theorem IsPlain.exists_string (isPlain : text.IsPlain) : ∃ string, text = ofString string := by
  obtain ⟨chars, rfl⟩ := isPlain.exists_chars
  exact ⟨String.ofList chars, by rw [ofString, String.toList_ofList]⟩

/-- Only plain text has a UTF-8 form. -/
theorem encode?_eq_none_of_not_isPlain (isMarred : ¬ text.IsPlain) : text.encode? = none := by
  have noChars : text.toChars? = none := by
    rw [Option.eq_none_iff_forall_ne_some]
    intro chars read
    rw [toChars?_eq_some_iff.mp read] at isMarred
    exact isMarred (isPlain_ofChars chars)
  rw [encode?, noChars]
  rfl

theorem toChars?_ofString (string : String) :
    (ofString string).toChars? = some string.toList :=
  toChars?_ofChars string.toList

theorem encode?_ofChars (chars : List Char) :
    encode? (ofChars chars) = some (Utf8.encodeChars chars) := by
  rw [encode?, toChars?_ofChars]
  rfl

theorem encode?_ofString (string : String) :
    (ofString string).encode? = some (Utf8.encode string) :=
  encode?_ofChars string.toList

theorem toString?_eq_some_iff {string : String} :
    text.toString? = some string ↔ text = ofString string := by
  rw [toString?, Option.map_eq_some_iff]
  constructor
  · rintro ⟨chars, read, rfl⟩
    rw [ofString, String.toList_ofList, toChars?_eq_some_iff.mp read]
  · rintro rfl
    exact ⟨string.toList, toChars?_ofString string, String.ofList_toList⟩

theorem ofString_injective : Function.Injective ofString := by
  intro left right same
  exact String.toList_inj.mp (ofChars_injective same)

theorem ofString_append (left right : String) :
    ofString (left ++ right) = ofString left ++ ofString right := by
  rw [ofString, String.toList_append, ofChars, List.map_append]
  rfl

theorem length_ofString (string : String) : (ofString string).length = string.length := by
  rw [ofString, ofChars, List.length_map, String.length_toList]

/-! ## Fragments -/

theorem fragments_cons (symbol : Symbol) (rest : WideText) :
    WideText.fragments (symbol :: rest) = symbol.fragments ++ WideText.fragments rest :=
  List.flatMap_cons

theorem fragments_append (left right : WideText) :
    (left ++ right).fragments = left.fragments ++ right.fragments :=
  List.flatMap_append

theorem fragments_ofChars (chars : List Char) :
    (ofChars chars).fragments = (Utf8.encodeChars chars).map .byte := by
  rw [WideText.fragments, ofChars, List.flatMap_map, Utf8.encodeChars, List.map_flatMap]
  rfl

/-- What is read has the fragments that it is read from. -/
theorem fragments_of_splitFragments? (split : splitFragments? fragments = some (bytes, behind)) :
    bytes.map .byte ++ behind.fragments = fragments := by
  induction fragments generalizing bytes behind with
  | nil =>
    cases split
    rfl
  | cons fragment rest ih =>
    cases fragment with
    | byte value =>
      obtain ⟨⟨others, _⟩, restSplit, ⟨⟩⟩ := Option.map_eq_some_iff.mp split
      exact congrArg (Fragment.byte value :: ·) (ih restSplit)
    | surrogate offset =>
      obtain ⟨_, restRead, ⟨⟩⟩ := Option.map_eq_some_iff.mp split
      obtain ⟨⟨others, further⟩, restSplit, joined⟩ := Option.bind_eq_some_iff.mp restRead
      obtain ⟨chars, decoded, rfl⟩ := Option.map_eq_some_iff.mp joined
      rw [List.map_nil, List.nil_append, fragments_cons, fragments_append, fragments_ofChars,
        Utf8.decodeChars?_eq_some_iff.mp decoded, ih restSplit]
      rfl

theorem splitFragments?_append (bytes : Bytes) (rest : List Fragment) :
    splitFragments? (bytes.map .byte ++ rest) =
      (splitFragments? rest).map fun (others, behind) => (bytes ++ others, behind) := by
  induction bytes with
  | nil => exact Option.map_id'.symm
  | cons byte others ih =>
    rw [List.map_cons, List.cons_append, splitFragments?, ih, Option.map_map]
    rfl

theorem ofFragments?_surrogate_cons (offset : Fin 0x800) (rest : List Fragment) :
    ofFragments? (.surrogate offset :: rest) =
      (ofFragments? rest).map fun text => .surrogate offset :: text := by
  rw [ofFragments?, splitFragments?, ofFragments?, Option.bind_map]
  cases (splitFragments? rest).bind fun (bytes, behind) => behindBytes? bytes behind <;> rfl

/-- Text is read back from its fragments. -/
theorem ofFragments?_fragments (text : WideText) : ofFragments? text.fragments = some text := by
  induction text with
  | nil => rfl
  | cons symbol rest ih =>
    rw [fragments_cons]
    cases symbol with
    | surrogate offset =>
      change ofFragments? (.surrogate offset :: WideText.fragments rest) = _
      rw [ofFragments?_surrogate_cons, ih]
      rfl
    | char char =>
      -- The bytes of a character go in front of those that stand before the first surrogate.
      obtain ⟨⟨bytes, behind⟩, split, joined⟩ := Option.bind_eq_some_iff.mp ih
      obtain ⟨chars, decoded, isRest⟩ := Option.map_eq_some_iff.mp joined
      have isForm : Utf8.encodeCode char.toNat ++ bytes = Utf8.encodeChars (char :: chars) := by
        rw [← Utf8.decodeChars?_eq_some_iff.mp decoded]
        rfl
      rw [Symbol.fragments, ofFragments?, splitFragments?_append, split]
      change behindBytes? (Utf8.encodeCode char.toNat ++ bytes) behind = _
      rw [isForm, behindBytes?, Utf8.decodeChars?_encodeChars, ← isRest]
      rfl

theorem fragments_injective : Function.Injective WideText.fragments := by
  intro left right same
  have read := ofFragments?_fragments left
  rw [same, ofFragments?_fragments] at read
  exact (Option.some.inj read).symm

/-- Fragments are read as the text that has them, and fragments of no text are not read. -/
theorem ofFragments?_eq_some_iff :
    ofFragments? fragments = some text ↔ text.fragments = fragments := by
  constructor
  · intro read
    obtain ⟨⟨bytes, behind⟩, split, joined⟩ := Option.bind_eq_some_iff.mp read
    obtain ⟨chars, decoded, rfl⟩ := Option.map_eq_some_iff.mp joined
    rw [fragments_append, fragments_ofChars, Utf8.decodeChars?_eq_some_iff.mp decoded,
      fragments_of_splitFragments? split]
  · rintro rfl
    exact ofFragments?_fragments text

end WideText
end SealedGateway
