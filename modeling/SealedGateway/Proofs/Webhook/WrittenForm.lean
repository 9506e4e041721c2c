import SealedGateway.Proofs.Text.Blank
import SealedGateway.Proofs.Text.Wide
import SealedGateway.Webhook.Form

/-!
# Written forms

A form has many written forms: a symbol stands for itself, or the UTF-8 bytes of a character are
escaped one by one with digits of either case, or a blank is written as a plus sign, and ampersands
may be repeated.  Every written form is read as the form that it writes, given as text or as bytes.
-/

namespace SealedGateway
namespace Form

/-- The bytes are escaped one by one. -/
inductive Escapes : Bytes → WideText → Prop
  | nil : Escapes [] []
  | cons {byte : UInt8} {rest : Bytes} {high low : Symbol} {escape : WideText}
      (highRead : digitValue? high = some (byte.toNat / 16))
      (lowRead : digitValue? low = some (byte.toNat % 16))
      (escapes : Escapes rest escape) :
      Escapes (byte :: rest) (.char '%' :: high :: low :: escape)

/-- The symbols that cannot stand for themselves in a value. -/
def valueReserved : WideText := [.char '%', .char '+', .char '&']

/-- The symbols that cannot stand for themselves in a name. -/
def nameReserved : WideText := .char '=' :: valueReserved

/-- The symbols of a text are written one by one; those that stand for themselves are not
reserved. -/
inductive WritesText (reserved : WideText) : WideText → WideText → Prop
  | nil : WritesText reserved [] []
  | plain {symbol : Symbol} {text written : WideText} (isPlain : symbol ∉ reserved)
      (writes : WritesText reserved text written) :
      WritesText reserved (symbol :: text) (symbol :: written)
  | blank {text written : WideText} (writes : WritesText reserved text written) :
      WritesText reserved (.char ' ' :: text) (.char '+' :: written)
  | escaped {char : Char} {text escape written : WideText}
      (escapes : Escapes (Utf8.encodeCode char.toNat) escape)
      (writes : WritesText reserved text written) :
      WritesText reserved (.char char :: text) (escape ++ written)

/-- A field is written as its name, an equals sign and its value. -/
inductive WritesField : WideText × WideText → WideText → Prop
  | mk {name value writtenName writtenValue : WideText}
      (writesName : WritesText nameReserved name writtenName)
      (writesValue : WritesText valueReserved value writtenValue) :
      WritesField (name, value) (writtenName ++ .char '=' :: writtenValue)

/-- The fields of a form are written in order with ampersands between them, and any number of
further ampersands anywhere between fields or at the ends. -/
inductive Writes : Form → WideText → Prop
  | nil : Writes [] []
  | separator {form : Form} {written : WideText} (writes : Writes form written) :
      Writes form (.char '&' :: written)
  | last {field : WideText × WideText} {segment : WideText}
      (writesField : WritesField field segment) : Writes [field] segment
  | cons {field : WideText × WideText} {segment : WideText} {form : Form} {written : WideText}
      (writesField : WritesField field segment) (writes : Writes form written) :
      Writes (field :: form) (segment ++ .char '&' :: written)

/-! ## Reading one text -/

theorem unescape_cons_of_ne {symbol : Symbol} (isPlain : symbol ≠ .char '%') (rest : WideText) :
    unescape (symbol :: rest) = symbol.fragments ++ unescape rest := by
  rw [unescape.eq_def]
  exact if_neg isPlain

theorem unescape_escape {byte : UInt8} {high low : Symbol}
    (highRead : digitValue? high = some (byte.toNat / 16))
    (lowRead : digitValue? low = some (byte.toNat % 16)) (rest : WideText) :
    unescape (.char '%' :: high :: low :: rest) = .byte byte :: unescape rest := by
  rw [unescape.eq_def]
  simp only [if_true, highRead, lowRead, Nat.div_add_mod, UInt8.ofNat_toNat]

theorem plusToBlank_of_ne {symbol : Symbol} (isPlain : symbol ≠ .char '+') :
    plusToBlank symbol = symbol :=
  if_neg isPlain

theorem plusToBlank_of_digitValue? {symbol : Symbol} {value : Nat}
    (read : digitValue? symbol = some value) : plusToBlank symbol = symbol := by
  apply plusToBlank_of_ne
  rintro rfl
  cases read

/-- Escaped bytes are read as those bytes, and reading goes on behind them. -/
theorem Escapes.unescape_append {bytes : Bytes} {escape : WideText}
    (escapes : Escapes bytes escape) (rest : WideText) :
    unescape (escape.map plusToBlank ++ rest) = bytes.map .byte ++ unescape rest := by
  induction escapes with
  | nil => rfl
  | cons highRead lowRead _ ih =>
    rw [List.map_cons, List.map_cons, List.map_cons, plusToBlank_of_digitValue? highRead,
      plusToBlank_of_digitValue? lowRead, plusToBlank_of_ne (by decide)]
    simp only [List.cons_append]
    rw [unescape_escape highRead lowRead, ih]
    rfl

/-- A written text is read as the fragments of that text. -/
theorem WritesText.unescape_eq {reserved text written : WideText}
    (isReserved : valueReserved ⊆ reserved) (writes : WritesText reserved text written) :
    unescape (written.map plusToBlank) = text.fragments := by
  induction writes with
  | nil => rfl
  | @plain symbol text written isPlain _ ih =>
    have isNotPlus : symbol ≠ .char '+' := by
      rintro rfl
      exact isPlain (isReserved (by decide))
    have isNotPercent : symbol ≠ .char '%' := by
      rintro rfl
      exact isPlain (isReserved (by decide))
    rw [List.map_cons, plusToBlank_of_ne isNotPlus, unescape_cons_of_ne isNotPercent, ih]
    rfl
  | blank _ ih =>
    rw [List.map_cons, show plusToBlank (.char '+') = .char ' ' from rfl,
      unescape_cons_of_ne (by decide), ih]
    rfl
  | escaped escapes _ ih =>
    rw [List.map_append, escapes.unescape_append, ih]
    rfl

/-- A written text is read as that text. -/
theorem WritesText.decodeText? {reserved text written : WideText}
    (isReserved : valueReserved ⊆ reserved) (writes : WritesText reserved text written) :
    Form.decodeText? written = some text := by
  rw [Form.decodeText?, writes.unescape_eq isReserved]
  exact WideText.ofFragments?_fragments text

/-! ## Cutting a body into fields -/

theorem Escapes.not_mem {bytes : Bytes} {escape : WideText} (escapes : Escapes bytes escape)
    {symbol : Symbol} (isNotPercent : symbol ≠ .char '%') (hasNoValue : digitValue? symbol = none) :
    symbol ∉ escape := by
  induction escapes with
  | nil => exact List.not_mem_nil
  | cons highRead lowRead _ ih =>
    simp only [List.mem_cons, not_or]
    refine ⟨isNotPercent, ?_, ?_, ih⟩
    · rintro rfl
      rw [hasNoValue] at highRead
      cases highRead
    · rintro rfl
      rw [hasNoValue] at lowRead
      cases lowRead

/-- A reserved separator does not occur in a written text. -/
theorem WritesText.not_mem {reserved text written : WideText}
    (writes : WritesText reserved text written) {symbol : Symbol} (isReserved : symbol ∈ reserved)
    (isNotPlus : symbol ≠ .char '+') (isNotPercent : symbol ≠ .char '%')
    (hasNoValue : digitValue? symbol = none) : symbol ∉ written := by
  induction writes with
  | nil => exact List.not_mem_nil
  | plain isPlain _ ih =>
    rw [List.mem_cons, not_or]
    refine ⟨?_, ih⟩
    rintro rfl
    exact isPlain isReserved
  | blank _ ih =>
    rw [List.mem_cons, not_or]
    exact ⟨isNotPlus, ih⟩
  | escaped escapes _ ih =>
    rw [List.mem_append, not_or]
    exact ⟨escapes.not_mem isNotPercent hasNoValue, ih⟩

section Cutting

variable {α : Type} [DecidableEq α] {separator : α} {piece : List α}

theorem cutFirst?_append (isAbsent : separator ∉ piece) (behind : List α) :
    Text.cutFirst? separator (piece ++ separator :: behind) = some (piece, behind) := by
  induction piece with
  | nil => simp [Text.cutFirst?]
  | cons symbol rest ih =>
    rw [List.mem_cons, not_or] at isAbsent
    rw [List.cons_append, Text.cutFirst?, if_neg (Ne.symm isAbsent.1), ih isAbsent.2]
    rfl

theorem cutFirst?_eq_some_iff {text before behind : List α} :
    Text.cutFirst? separator text = some (before, behind) ↔
      separator ∉ before ∧ text = before ++ separator :: behind := by
  constructor
  · intro cut
    induction text generalizing before with
    | nil => cases cut
    | cons symbol rest ih =>
      rw [Text.cutFirst?] at cut
      split at cut
      · next isSeparator =>
        cases cut
        exact ⟨List.not_mem_nil, by rw [isSeparator]; rfl⟩
      · next isOther =>
        obtain ⟨⟨front, _⟩, restCut, isWhole⟩ := Option.map_eq_some_iff.mp cut
        cases isWhole
        obtain ⟨isAbsent, rfl⟩ := ih restCut
        refine ⟨?_, rfl⟩
        rw [List.mem_cons, not_or]
        exact ⟨Ne.symm isOther, isAbsent⟩
  · rintro ⟨isAbsent, rfl⟩
    exact cutFirst?_append isAbsent behind

theorem pieces_of_not_mem (isAbsent : separator ∉ piece) :
    Text.pieces separator piece = [piece] := by
  induction piece with
  | nil => rfl
  | cons symbol rest ih =>
    rw [List.mem_cons, not_or] at isAbsent
    rw [Text.pieces, if_neg (Ne.symm isAbsent.1), ih isAbsent.2]

theorem pieces_append (isAbsent : separator ∉ piece) (behind : List α) :
    Text.pieces separator (piece ++ separator :: behind) =
      piece :: Text.pieces separator behind := by
  induction piece with
  | nil => simp [Text.pieces]
  | cons symbol rest ih =>
    rw [List.mem_cons, not_or] at isAbsent
    rw [List.cons_append, Text.pieces, if_neg (Ne.symm isAbsent.1), ih isAbsent.2]

end Cutting

section Field

variable {field : WideText × WideText} {segment : WideText} (writes : WritesField field segment)

include writes

/-- A written field is read as that field. -/
theorem WritesField.decodeSegment? : Form.decodeSegment? segment = some field := by
  obtain ⟨writesName, writesValue⟩ := writes
  have isAbsent : Symbol.char '=' ∉ _ :=
    writesName.not_mem (by decide) (by decide) (by decide) rfl
  rw [Form.decodeSegment?, cutFirst?_append isAbsent]
  simp only [writesName.decodeText? (by decide), writesValue.decodeText? (by decide)]

theorem WritesField.ampersand_not_mem : Symbol.char '&' ∉ segment := by
  obtain ⟨writesName, writesValue⟩ := writes
  rw [List.mem_append, List.mem_cons, not_or, not_or]
  exact ⟨writesName.not_mem (by decide) (by decide) (by decide) rfl, by decide,
    writesValue.not_mem (by decide) (by decide) (by decide) rfl⟩

theorem WritesField.ne_nil : segment ≠ [] := by
  obtain ⟨_, _⟩ := writes
  simp

end Field

/-- The segments of a written form are the written forms of its fields. -/
theorem Writes.segments {form : Form} {written : WideText} (writes : Writes form written) :
    (segments written).length = form.length ∧
      (segments written).mapM decodeSegment? = some form := by
  induction writes with
  | nil => exact ⟨rfl, rfl⟩
  | separator _ ih =>
    rw [Form.segments, Text.pieces, if_pos rfl]
    exact ih
  | last writesField =>
    rw [Form.segments, pieces_of_not_mem writesField.ampersand_not_mem,
      List.filter_cons_of_pos (by simpa using writesField.ne_nil)]
    refine ⟨rfl, ?_⟩
    rw [List.filter_nil, List.mapM_cons, writesField.decodeSegment?]
    rfl
  | @cons field segment form written writesField _ ih =>
    rw [Form.segments, pieces_append writesField.ampersand_not_mem,
      List.filter_cons_of_pos (by simpa using writesField.ne_nil)]
    change (segment :: Form.segments written).length = _ ∧
      (segment :: Form.segments written).mapM Form.decodeSegment? = _
    rw [List.length_cons, List.length_cons, ih.1, List.mapM_cons, writesField.decodeSegment?, ih.2]
    exact ⟨rfl, rfl⟩

/-! ## Reading a body -/

/-- No name is found to be repeated exactly when the names differ from each other and from those
seen before. -/
theorem duplicate?_eq_none_iff {seen : List WideText} {form : Form} :
    duplicate? seen form = none ↔
      (form.map Prod.fst).Nodup ∧ ∀ name ∈ form.map Prod.fst, name ∉ seen := by
  induction form generalizing seen with
  | nil => simp [duplicate?]
  | cons field rest ih =>
    rw [duplicate?, List.map_cons, List.nodup_cons]
    by_cases isSeen : field.1 ∈ seen
    · simp [isSeen]
    · simp only [List.contains_iff_mem, isSeen, if_false, ih, List.mem_cons, not_or]
      grind

/-- Every written form with different names, and not too many of them, is read as the form that it
writes. -/
theorem Writes.parse {form : Form} {written : WideText} (writes : Writes form written)
    (isSmall : form.length ≤ fieldLimit) (isNodup : (form.map Prod.fst).Nodup) :
    Form.parse written = .ok form := by
  obtain ⟨lengths, read⟩ := writes.segments
  have decoded : Form.decode? written = some form := by
    simp only [Form.decode?, lengths, isSmall, if_true, read]
  have isFresh : duplicate? [] form = none := by
    rw [duplicate?_eq_none_iff]
    exact ⟨isNodup, fun _ _ => List.not_mem_nil⟩
  simp only [Form.parse, decoded, isFresh]

/-- The bodies that carry a given text: as it is, or as bytes in UTF-8. -/
inductive IsBody : Value → WideText → Prop
  | text (text : WideText) : IsBody (.text text) text
  | octets (chars : List Char) :
    IsBody (.octets (Utf8.encodeChars chars)) (WideText.ofChars chars)
  | buffer (chars : List Char) :
    IsBody (.buffer (Utf8.encodeChars chars)) (WideText.ofChars chars)

/-- What a body is read as is decided by the text that it carries. -/
theorem ofBody_eq_of_isBody {body : Value} {text : WideText} (carries : IsBody body text) :
    ofBody body = (parse text).mapError .malformed := by
  cases carries with
  | text =>
    rw [ofBody]
    cases parse text <;> rfl
  | octets chars | buffer chars =>
    simp only [ofBody, Value.byteString?, Utf8.decodeChars?_encodeChars, Option.map_some]
    cases parse (WideText.ofChars chars) <;> rfl

theorem ofBody_of_parse {body : Value} {text : WideText} {form : Form}
    (carries : IsBody body text) (read : Form.parse text = .ok form) :
    Form.ofBody body = .ok form := by
  rw [ofBody_eq_of_isBody carries, read]
  rfl

/-! ## The customary written form -/

/-- Whether a character is an ASCII letter or digit, or one of four marks. -/
def isUnreserved (char : Char) : Bool :=
  char.isAlphanum || char == '_' || char == '.' || char == '-' || char == '~'

/-- The upper-case digit of a number below sixteen. -/
def upperDigit (value : Nat) : Char :=
  if value < 10 then Char.ofNat (48 + value) else Char.ofNat (55 + value)

/-- Each byte as a percent sign and two upper-case digits. -/
def escaped (bytes : Bytes) : WideText :=
  bytes.flatMap fun byte =>
    [.char '%', .char (upperDigit (byte.toNat / 16)), .char (upperDigit (byte.toNat % 16))]

/-- A symbol as it is customarily written: unreserved characters and lone surrogates as they are, a
blank as a plus sign, and every other character escaped. -/
def encodedSymbol : Symbol → WideText
  | .char char =>
    if isUnreserved char then [.char char]
    else if char = ' ' then [.char '+']
    else escaped (Utf8.encodeCode char.toNat)
  | .surrogate offset => [.surrogate offset]

/-- A text as it is customarily written. -/
def encodedText (text : WideText) : WideText :=
  text.flatMap encodedSymbol

/-- The written form in which all but unreserved characters are escaped and single ampersands stand
between the fields. -/
def encoded : Form → WideText
  | [] => []
  | [(name, value)] => encodedText name ++ .char '=' :: encodedText value
  | (name, value) :: field :: rest =>
    (encodedText name ++ .char '=' :: encodedText value) ++ .char '&' :: encoded (field :: rest)

theorem digitValue?_upperDigit {value : Nat} (isSmall : value < 16) :
    digitValue? (.char (upperDigit value)) = some value := by
  revert value
  decide

theorem escapes_escaped (bytes : Bytes) : Escapes bytes (escaped bytes) := by
  induction bytes with
  | nil => exact .nil
  | cons byte rest ih =>
    have isByte := byte.toNat_lt
    exact .cons (digitValue?_upperDigit (by omega)) (digitValue?_upperDigit (by omega)) ih

theorem not_mem_nameReserved_of_isUnreserved {char : Char} (isPlain : isUnreserved char = true) :
    Symbol.char char ∉ nameReserved := by
  intro isReserved
  simp only [nameReserved, valueReserved, List.mem_cons, List.not_mem_nil, or_false,
    Symbol.char.injEq] at isReserved
  rcases isReserved with rfl | rfl | rfl | rfl <;> cases isPlain

theorem surrogate_not_mem_nameReserved (offset : Fin 0x800) :
    Symbol.surrogate offset ∉ nameReserved := by
  simp [nameReserved, valueReserved]

theorem writesText_encodedText {reserved : WideText} (isReserved : reserved ⊆ nameReserved)
    (text : WideText) : WritesText reserved text (encodedText text) := by
  induction text with
  | nil => exact .nil
  | cons symbol rest ih =>
    rw [encodedText, List.flatMap_cons]
    cases symbol with
    | surrogate offset =>
      exact .plain (fun isMember => surrogate_not_mem_nameReserved offset (isReserved isMember)) ih
    | char char =>
      rw [encodedSymbol]
      split
      · next isPlain =>
        exact .plain (fun isMember =>
          not_mem_nameReserved_of_isUnreserved isPlain (isReserved isMember)) ih
      split
      · next isBlank =>
        rw [isBlank]
        exact .blank ih
      · exact .escaped (escapes_escaped _) ih

/-- The customary written form is a written form. -/
theorem writes_encoded (form : Form) : Writes form (encoded form) := by
  have writesField (name value : WideText) : WritesField (name, value)
      (encodedText name ++ .char '=' :: encodedText value) :=
    .mk (writesText_encodedText (List.Subset.refl _) name)
      (writesText_encodedText (List.subset_cons_self _ _) value)
  fun_induction encoded form with
  | case1 => exact .nil
  | case2 name value => exact .last (writesField name value)
  | case3 name value field rest ih => exact .cons (writesField name value) ih

theorem encoded_ne_nil (field : WideText × WideText) (rest : Form) :
    encoded (field :: rest) ≠ [] := by
  cases rest <;> simp [encoded]

/-! ### Symbols of the customary written form -/

/-- The symbols of the customary written form of a form are separators, or stand in the written form
of a name or of a value. -/
theorem forall_mem_encoded {form : Form} {IsInside : Symbol → Prop}
    (ofEquals : IsInside (.char '=')) (ofAmpersand : IsInside (.char '&'))
    (ofTexts : ∀ field ∈ form, (∀ symbol ∈ encodedText field.1, IsInside symbol) ∧
      ∀ symbol ∈ encodedText field.2, IsInside symbol) :
    ∀ symbol ∈ encoded form, IsInside symbol := by
  have ofField {name value : WideText} (ofName : ∀ symbol ∈ encodedText name, IsInside symbol)
      (ofValue : ∀ symbol ∈ encodedText value, IsInside symbol) :
      ∀ symbol ∈ encodedText name ++ .char '=' :: encodedText value, IsInside symbol :=
    List.forall_mem_append.mpr ⟨ofName, List.forall_mem_cons.mpr ⟨ofEquals, ofValue⟩⟩
  fun_induction encoded form with
  | case1 => exact nofun
  | case2 name value =>
    obtain ⟨ofName, ofValue⟩ := ofTexts _ List.mem_cons_self
    exact ofField ofName ofValue
  | case3 name value field rest ih =>
    obtain ⟨⟨ofName, ofValue⟩, ofRest⟩ := List.forall_mem_cons.mp ofTexts
    rw [List.forall_mem_append, List.forall_mem_cons]
    exact ⟨ofField ofName ofValue, ofAmpersand, ih ofRest⟩

theorem isBlank_of_isUnreserved {char : Char} (isPlain : isUnreserved char = true) :
    Text.isBlank char = false := by
  simp only [isUnreserved, Bool.or_eq_true, beq_iff_eq] at isPlain
  rcases isPlain with (((isAlphanumeric | rfl) | rfl) | rfl) | rfl
  · obtain ⟨least, most⟩ := Text.toNat_of_isAlphanum isAlphanumeric
    exact Text.isBlank_of_toNat least (by omega)
  all_goals rfl

/-- Whether a symbol is no blank. -/
def IsInk (symbol : Symbol) : Prop :=
  ∀ char, symbol = .char char → Text.isBlank char = false

theorem isInk_char {char : Char} (isInk : Text.isBlank char = false) : IsInk (.char char) := by
  rintro _ ⟨⟩
  exact isInk

theorem isInk_of_mem_escaped {bytes : Bytes} {symbol : Symbol} (isMember : symbol ∈ escaped bytes) :
    IsInk symbol := by
  have ofDigit : ∀ value < 16, Text.isBlank (upperDigit value) = false := by
    decide
  obtain ⟨byte, -, isEscape⟩ := List.mem_flatMap.mp isMember
  have isByte := byte.toNat_lt
  simp only [List.mem_cons, List.not_mem_nil, or_false] at isEscape
  rcases isEscape with rfl | rfl | rfl
  · exact isInk_char rfl
  · exact isInk_char (ofDigit _ (by omega))
  · exact isInk_char (ofDigit _ (by omega))

theorem isInk_of_mem_encodedText {text : WideText} {symbol : Symbol}
    (isMember : symbol ∈ encodedText text) : IsInk symbol := by
  obtain ⟨original, -, isWritten⟩ := List.mem_flatMap.mp isMember
  cases original with
  | surrogate offset =>
    rw [List.mem_singleton.mp isWritten]
    exact nofun
  | char char =>
    rw [encodedSymbol] at isWritten
    split at isWritten
    · next isPlain =>
      rw [List.mem_singleton.mp isWritten]
      exact isInk_char (isBlank_of_isUnreserved isPlain)
    split at isWritten
    · rw [List.mem_singleton.mp isWritten]
      exact isInk_char rfl
    · exact isInk_of_mem_escaped isWritten

/-- A text that is the customary written form of a form is stripped to itself. -/
theorem strip_of_encoded {form : Form} {text : String}
    (isEncoded : form.encoded = WideText.ofString text) : Text.strip text = text := by
  have isInk : ∀ symbol ∈ form.encoded, IsInk symbol :=
    forall_mem_encoded (isInk_char rfl) (isInk_char rfl) fun _ _ =>
      ⟨fun _ => isInk_of_mem_encodedText, fun _ => isInk_of_mem_encodedText⟩
  rw [isEncoded] at isInk
  rw [Text.strip, Text.trim_eq_self, String.ofList_toList]
  intro char isMember
  exact isInk (.char char) (List.mem_map_of_mem isMember) char rfl

end Form
end SealedGateway
