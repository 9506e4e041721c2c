import SealedGateway.Proofs.Bytes.Hex
import SealedGateway.Proofs.Webhook.WrittenForm
import SealedGateway.Proofs.Work.Outcomes

/-!
# The language of forms

A body is read as a form unless something is wrong with one of its parts, with two of them that
have the same name, or with their number.  What can be wrong is said of the symbols of the body: the
parts between ampersands, the first equals sign of a part, and the fragments that escapes, plus
signs and plain symbols stand for.
-/

namespace SealedGateway
namespace Form

/-! ## What symbols stand for -/

/-- The text begins with a percent sign before two hexadecimal digits. -/
def OpensEscape (text : WideText) : Prop :=
  ∃ high low rest highValue lowValue, text = .char '%' :: high :: low :: rest ∧
    digitValue? high = some highValue ∧ digitValue? low = some lowValue

/-- The symbols stand for the fragments: escapes for the bytes that their digits write, plus signs
for blanks, and everything else for itself. -/
inductive StandsFor : WideText → List Fragment → Prop
  | nil : StandsFor [] []
  | escape {byte : UInt8} {high low : Symbol} {rest : WideText} {fragments : List Fragment}
      (highRead : digitValue? high = some (byte.toNat / 16))
      (lowRead : digitValue? low = some (byte.toNat % 16))
      (standsFor : StandsFor rest fragments) :
      StandsFor (.char '%' :: high :: low :: rest) (.byte byte :: fragments)
  | blank {rest : WideText} {fragments : List Fragment} (standsFor : StandsFor rest fragments) :
      StandsFor (.char '+' :: rest) (.byte 0x20 :: fragments)
  | plain {symbol : Symbol} {rest : WideText} {fragments : List Fragment}
      (isNotPlus : symbol ≠ .char '+') (opensNone : ¬ OpensEscape (symbol :: rest))
      (standsFor : StandsFor rest fragments) :
      StandsFor (symbol :: rest) (symbol.fragments ++ fragments)

theorem digitValue?_plusToBlank (symbol : Symbol) :
    digitValue? (plusToBlank symbol) = digitValue? symbol := by
  unfold plusToBlank
  split
  · next isPlus =>
    rw [isPlus]
    rfl
  · rfl

theorem plusToBlank_eq_percent_iff {symbol : Symbol} :
    plusToBlank symbol = .char '%' ↔ symbol = .char '%' := by
  unfold plusToBlank
  split
  · next isPlus =>
    rw [isPlus]
    decide
  · rfl

/-- Plus signs are no part of an escape. -/
theorem opensEscape_map_plusToBlank {text : WideText} :
    OpensEscape (text.map plusToBlank) ↔ OpensEscape text := by
  constructor
  · rintro ⟨high, low, rest, highValue, lowValue, isMapped, highRead, lowRead⟩
    obtain ⟨percent, behind, rfl, isPercent, behindIs⟩ := List.map_eq_cons_iff.mp isMapped
    obtain ⟨first, behindFirst, rfl, rfl, behindFirstIs⟩ := List.map_eq_cons_iff.mp behindIs
    obtain ⟨second, others, rfl, rfl, -⟩ := List.map_eq_cons_iff.mp behindFirstIs
    rw [digitValue?_plusToBlank] at highRead lowRead
    rw [plusToBlank_eq_percent_iff.mp isPercent]
    exact ⟨first, second, others, highValue, lowValue, rfl, highRead, lowRead⟩
  · rintro ⟨high, low, rest, highValue, lowValue, rfl, highRead, lowRead⟩
    rw [← digitValue?_plusToBlank] at highRead lowRead
    exact ⟨plusToBlank high, plusToBlank low, rest.map plusToBlank, highValue, lowValue, rfl,
      highRead, lowRead⟩

/-- A symbol that opens no escape is passed over as itself. -/
theorem unescape_of_not_opensEscape {symbol : Symbol} {rest : WideText}
    (opensNone : ¬ OpensEscape (symbol :: rest)) :
    unescape (symbol :: rest) = symbol.fragments ++ unescape rest := by
  by_cases isPercent : symbol = .char '%'
  · subst isPercent
    match rest with
    | [] => rfl
    | [_] => rfl
    | high :: low :: others =>
      rw [unescape.eq_def]
      simp only [if_true]
      split
      · next highValue lowValue highRead lowRead =>
        exact absurd ⟨high, low, others, highValue, lowValue, rfl, highRead, lowRead⟩ opensNone
      · rfl
  · exact unescape_cons_of_ne isPercent rest

/-- What symbols stand for is what the reader of escapes gives. -/
theorem StandsFor.unescape_eq {text : WideText} {fragments : List Fragment}
    (standsFor : StandsFor text fragments) : unescape (text.map plusToBlank) = fragments := by
  induction standsFor with
  | nil => rfl
  | escape highRead lowRead _ ih =>
    rw [← digitValue?_plusToBlank] at highRead lowRead
    rw [List.map_cons, List.map_cons, List.map_cons, plusToBlank_of_ne (by decide),
      unescape_escape highRead lowRead, ih]
  | blank _ ih =>
    rw [List.map_cons, show plusToBlank (.char '+') = .char ' ' from rfl,
      unescape_cons_of_ne (by decide), ih]
    rfl
  | plain isNotPlus opensNone _ ih =>
    rw [← opensEscape_map_plusToBlank, List.map_cons, plusToBlank_of_ne isNotPlus] at opensNone
    rw [List.map_cons, plusToBlank_of_ne isNotPlus, unescape_of_not_opensEscape opensNone, ih]

theorem lt_of_digitValue? {symbol : Symbol} {value : Nat} (read : digitValue? symbol = some value) :
    value < 16 := by
  obtain ⟨char, -, read⟩ := Option.bind_eq_some_iff.mp read
  exact (Hex.digitValue?_eq_some_iff.mp read).1

theorem exists_byte_of_digitValue? {high low : Symbol} {highValue lowValue : Nat}
    (highRead : digitValue? high = some highValue) (lowRead : digitValue? low = some lowValue) :
    ∃ byte : UInt8, digitValue? high = some (byte.toNat / 16) ∧
      digitValue? low = some (byte.toNat % 16) := by
  have isHigh := lt_of_digitValue? highRead
  have isLow := lt_of_digitValue? lowRead
  have value := Utf8.toNat_ofNat_of_lt (16 * highValue + lowValue) (by omega)
  refine ⟨UInt8.ofNat (16 * highValue + lowValue), ?_, ?_⟩
  · rw [value, highRead]
    congr 1
    omega
  · rw [value, lowRead]
    congr 1
    omega

/-- Every text stands for something. -/
theorem exists_standsFor (text : WideText) : ∃ fragments, StandsFor text fragments := by
  match text with
  | [] => exact ⟨[], .nil⟩
  | symbol :: rest =>
    by_cases opens : OpensEscape (symbol :: rest)
    · obtain ⟨high, low, others, highValue, lowValue, isWhole, highRead, lowRead⟩ := opens
      obtain ⟨byte, highIs, lowIs⟩ := exists_byte_of_digitValue? highRead lowRead
      obtain ⟨fragments, standsFor⟩ := exists_standsFor others
      rw [isWhole]
      exact ⟨.byte byte :: fragments, .escape highIs lowIs standsFor⟩
    · obtain ⟨fragments, standsFor⟩ := exists_standsFor rest
      by_cases isPlus : symbol = .char '+'
      · rw [isPlus]
        exact ⟨.byte 0x20 :: fragments, .blank standsFor⟩
      · exact ⟨symbol.fragments ++ fragments, .plain isPlus opens standsFor⟩
termination_by text.length
decreasing_by
  · have lengths := congrArg List.length isWhole
    simp only [List.length_cons] at lengths ⊢
    omega
  · simp

theorem standsFor_iff {text : WideText} {fragments : List Fragment} :
    StandsFor text fragments ↔ unescape (text.map plusToBlank) = fragments := by
  refine ⟨StandsFor.unescape_eq, ?_⟩
  rintro rfl
  obtain ⟨fragments, standsFor⟩ := exists_standsFor text
  rwa [standsFor.unescape_eq]

/-- A name or a value is read exactly as the text for whose fragments it stands. -/
theorem decodeText?_eq_some_iff {written text : WideText} :
    decodeText? written = some text ↔ StandsFor written text.fragments := by
  rw [decodeText?, WideText.ofFragments?_eq_some_iff, standsFor_iff, eq_comm]

/-! ## Parts -/

/-- What stands between ampersands and is not empty. -/
def parts (text : WideText) : List WideText :=
  (text.splitOn (.char '&')).filter (· ≠ [])

theorem pieces_eq_splitOn {α : Type} [DecidableEq α] (separator : α) (text : List α) :
    Text.pieces separator text = text.splitOn separator := by
  induction text with
  | nil => rfl
  | cons symbol rest ih =>
    rw [Text.pieces, ih]
    simp only [List.splitOn, List.splitOnP_cons_eq_if_modifyHead, beq_iff_eq]
    split
    · rfl
    · cases pieces : rest.splitOnP (· == separator) with
      | nil => exact absurd pieces (List.splitOnP_ne_nil _ _)
      | cons piece others => rfl

theorem segments_eq_parts (text : WideText) : segments text = parts text := by
  rw [segments, parts, pieces_eq_splitOn]
  apply List.filter_congr
  intro part _
  cases part <;> rfl

/-- The part is read as the field: its name stands before the first equals sign. -/
inductive Reads : WideText → WideText × WideText → Prop
  | mk {writtenName writtenValue name value : WideText} (isFirst : .char '=' ∉ writtenName)
      (isName : StandsFor writtenName name.fragments)
      (isValue : StandsFor writtenValue value.fragments) :
      Reads (writtenName ++ .char '=' :: writtenValue) (name, value)

/-- A segment is decoded exactly as the field that the part is read as. -/
theorem decodeSegment?_eq_some_iff {part : WideText} {field : WideText × WideText} :
    decodeSegment? part = some field ↔ Reads part field := by
  constructor
  · intro decoded
    unfold decodeSegment? at decoded
    split at decoded
    · cases decoded
    · next writtenName writtenValue cut =>
      obtain ⟨isFirst, rfl⟩ := cutFirst?_eq_some_iff.mp cut
      split at decoded
      · next name value isName isValue =>
        cases decoded
        exact .mk isFirst (decodeText?_eq_some_iff.mp isName) (decodeText?_eq_some_iff.mp isValue)
      · cases decoded
  · rintro ⟨isFirst, isName, isValue⟩
    rw [decodeSegment?, cutFirst?_append isFirst]
    simp only [decodeText?_eq_some_iff.mpr isName, decodeText?_eq_some_iff.mpr isValue]

/-- The text stands for fragments that no text has: bytes between lone surrogates are not UTF-8. -/
def IsUndecodable (written : WideText) : Prop :=
  ∃ fragments, StandsFor written fragments ∧ ∀ text : WideText, text.fragments ≠ fragments

theorem decodeText?_eq_none_iff {written : WideText} :
    decodeText? written = none ↔ IsUndecodable written := by
  obtain ⟨fragments, standsFor⟩ := exists_standsFor written
  constructor
  · intro isNone
    refine ⟨fragments, standsFor, ?_⟩
    rintro text rfl
    rw [decodeText?_eq_some_iff.mpr standsFor] at isNone
    cases isNone
  · rintro ⟨other, standsForOther, isNoText⟩
    rw [Option.eq_none_iff_forall_ne_some]
    intro text decoded
    apply isNoText text
    rw [← (decodeText?_eq_some_iff.mp decoded).unescape_eq, standsForOther.unescape_eq]

/-- The part has an equals sign, and the name before the first one is the text. -/
inductive HasName : WideText → WideText → Prop
  | mk {writtenName writtenValue name : WideText} (isFirst : .char '=' ∉ writtenName)
      (isName : StandsFor writtenName name.fragments) :
      HasName (writtenName ++ .char '=' :: writtenValue) name

/-- What can be wrong with the symbols of a body. -/
inductive IsFlawed (text : WideText) : Prop
  /-- There are more than 32 parts. -/
  | tooMany (isLong : 32 < (parts text).length)
  /-- A part has no equals sign. -/
  | noEquals {part : WideText} (isPart : part ∈ parts text) (lacksEquals : Symbol.char '=' ∉ part)
  /-- A name or a value is not UTF-8. -/
  | undecodable {writtenName writtenValue : WideText}
      (isPart : writtenName ++ .char '=' :: writtenValue ∈ parts text)
      (isFirst : Symbol.char '=' ∉ writtenName)
      (isBroken : IsUndecodable writtenName ∨ IsUndecodable writtenValue)
  /-- Two parts have the same name. -/
  | repeated {first second : WideText} {name : WideText}
      (areParts : [first, second].Sublist (parts text)) (firstName : HasName first name)
      (secondName : HasName second name)

/-! ## Reading a body -/

/-- The parts are read as the fields of the form in order, there are not too many of them, and no
name occurs twice. -/
structure IsReadAs (text : WideText) (form : Form) : Prop where
  isSmall : (parts text).length ≤ 32
  decoded : (parts text).map decodeSegment? = form.map some
  isNodup : (form.map Prod.fst).Nodup

theorem mapM_eq_some_iff {Input Output : Type} {read : Input → Option Output}
    {inputs : List Input} {outputs : List Output} :
    inputs.mapM read = some outputs ↔ inputs.map read = outputs.map some := by
  induction inputs generalizing outputs with
  | nil => cases outputs <;> simp
  | cons input rest ih =>
    simp only [List.mapM_cons, Option.bind_eq_bind, Option.bind_eq_some_iff, Option.pure_def,
      Option.some.injEq, ih, List.map_cons]
    constructor
    · rintro ⟨output, inputRead, others, restRead, rfl⟩
      rw [List.map_cons, inputRead, restRead]
    · intro isWhole
      obtain ⟨output, others, rfl, outputIs, restRead⟩ := List.map_eq_cons_iff.mp isWhole.symm
      exact ⟨output, outputIs.symm, others, restRead.symm, rfl⟩

/-- Where every input can be read, all of them can. -/
theorem exists_map_eq {Input Output : Type} {read : Input → Option Output} {inputs : List Input}
    (areRead : ∀ input ∈ inputs, ∃ output, read input = some output) :
    ∃ outputs : List Output, inputs.map read = outputs.map some := by
  induction inputs with
  | nil => exact ⟨[], rfl⟩
  | cons input rest ih =>
    rw [List.forall_mem_cons] at areRead
    obtain ⟨output, inputRead⟩ := areRead.1
    obtain ⟨outputs, restRead⟩ := ih areRead.2
    exact ⟨output :: outputs, by rw [List.map_cons, List.map_cons, inputRead, restRead]⟩

theorem decode?_eq_some_iff {text : WideText} {form : Form} :
    decode? text = some form ↔
      (parts text).length ≤ 32 ∧ (parts text).map decodeSegment? = form.map some := by
  simp only [decode?, segments_eq_parts, Option.ite_none_right_eq_some, mapM_eq_some_iff,
    fieldLimit]

theorem parse_eq_ok_iff {text : WideText} {form : Form} :
    parse text = .ok form ↔ IsReadAs text form := by
  unfold parse
  constructor
  · intro read
    split at read
    · cases read
    next found decoded =>
    split at read
    · cases read
    next isFresh =>
    cases read
    obtain ⟨isSmall, decoded⟩ := decode?_eq_some_iff.mp decoded
    exact ⟨isSmall, decoded, (duplicate?_eq_none_iff.mp isFresh).1⟩
  · rintro ⟨isSmall, decoded, isNodup⟩
    have isFresh : duplicate? [] form = none :=
      duplicate?_eq_none_iff.mpr ⟨isNodup, fun _ _ => List.not_mem_nil⟩
    simp only [decode?_eq_some_iff.mpr ⟨isSmall, decoded⟩, isFresh]

theorem Reads.hasName {part : WideText} {field : WideText × WideText} (reads : Reads part field) :
    HasName part field.1 := by
  obtain ⟨isFirst, isName, -⟩ := reads
  exact .mk isFirst isName

theorem HasName.unique {part : WideText} {name other : WideText} (hasName : HasName part name)
    (hasOther : HasName part other) : name = other := by
  obtain @⟨writtenName, writtenValue, _, isFirst, isName⟩ := hasName
  generalize isPart : writtenName ++ .char '=' :: writtenValue = part at hasOther
  obtain ⟨isOtherFirst, isOther⟩ := hasOther
  have cut := cutFirst?_eq_some_iff.mpr ⟨isFirst, isPart.symm⟩
  rw [cutFirst?_append isOtherFirst] at cut
  cases cut
  apply WideText.fragments_injective
  rw [← isName.unescape_eq, isOther.unescape_eq]

theorem HasName.eq_of_decodeSegment? {part name : WideText} {field : WideText × WideText}
    (hasName : HasName part name) (decoded : decodeSegment? part = some field) :
    field.1 = name :=
  (decodeSegment?_eq_some_iff.mp decoded).hasName.unique hasName

/-- The names differ exactly when those of any two parts differ. -/
theorem nodup_names_iff {parts : List WideText} {form : Form}
    (decoded : parts.map decodeSegment? = form.map some) :
    (form.map Prod.fst).Nodup ↔ ∀ {first second : WideText}, [first, second].Sublist parts →
      ∀ field ∈ decodeSegment? first, ∀ other ∈ decodeSegment? second, field.1 ≠ other.1 := by
  have asOptions : (form.map Prod.fst).Nodup ↔ (form.map some).Pairwise fun left right =>
      ∀ field ∈ left, ∀ other ∈ right, field.1 ≠ other.1 := by
    rw [List.Nodup, List.pairwise_map, List.pairwise_map]
    simp
  rw [asOptions, ← decoded, List.pairwise_map, List.pairwise_iff_forall_sublist]

/-- A part that is read has an equals sign. -/
theorem equals_mem_of_decodeSegment? {part : WideText} {field : WideText × WideText}
    (decoded : decodeSegment? part = some field) : Symbol.char '=' ∈ part := by
  obtain ⟨-, -, -⟩ := decodeSegment?_eq_some_iff.mp decoded
  exact List.mem_append_right _ List.mem_cons_self

/-- A part with a broken name or value is not read. -/
theorem decodeSegment?_of_isUndecodable {writtenName writtenValue : WideText}
    (isFirst : Symbol.char '=' ∉ writtenName)
    (isBroken : IsUndecodable writtenName ∨ IsUndecodable writtenValue) :
    decodeSegment? (writtenName ++ .char '=' :: writtenValue) = none := by
  rw [← decodeText?_eq_none_iff, ← decodeText?_eq_none_iff] at isBroken
  rw [decodeSegment?, cutFirst?_append isFirst]
  rcases isBroken with isBroken | isBroken <;> simp [isBroken]

/-- Every part of a body that is read as a form is read as a field. -/
theorem IsReadAs.exists_field {text part : WideText} {form : Form}
    (isRead : IsReadAs text form) (isPart : part ∈ parts text) :
    ∃ field, decodeSegment? part = some field := by
  have isMember : decodeSegment? part ∈ (parts text).map decodeSegment? :=
    List.mem_map_of_mem isPart
  rw [isRead.decoded] at isMember
  obtain ⟨field, -, fieldIs⟩ := List.mem_map.mp isMember
  exact ⟨field, fieldIs.symm⟩

/-- A body that is read as a form has no flaw. -/
theorem IsReadAs.not_isFlawed {text : WideText} {form : Form} (isRead : IsReadAs text form) :
    ¬ IsFlawed text := by
  intro flaw
  cases flaw with
  | tooMany isLong => exact Nat.not_lt_of_le isRead.isSmall isLong
  | noEquals isPart lacksEquals =>
    obtain ⟨field, decoded⟩ := isRead.exists_field isPart
    exact lacksEquals (equals_mem_of_decodeSegment? decoded)
  | undecodable isPart isFirst isBroken =>
    obtain ⟨field, decoded⟩ := isRead.exists_field isPart
    rw [decodeSegment?_of_isUndecodable isFirst isBroken] at decoded
    cases decoded
  | @repeated first second name areParts firstName secondName =>
    have isFirst : first ∈ parts text := areParts.subset List.mem_cons_self
    have isSecond : second ∈ parts text :=
      areParts.subset (List.mem_cons_of_mem first List.mem_cons_self)
    obtain ⟨field, decoded⟩ := isRead.exists_field isFirst
    obtain ⟨other, otherDecoded⟩ := isRead.exists_field isSecond
    have differ : field.1 ≠ other.1 :=
      (nodup_names_iff isRead.decoded).mp isRead.isNodup areParts field decoded other otherDecoded
    apply differ
    rw [firstName.eq_of_decodeSegment? decoded,
      secondName.eq_of_decodeSegment? otherDecoded]

/-- A part of a body without a flaw is read as a field. -/
theorem exists_field_of_not_isFlawed {text part : WideText} (sound : ¬ IsFlawed text)
    (isPart : part ∈ parts text) : ∃ field, decodeSegment? part = some field := by
  have hasEquals : Symbol.char '=' ∈ part := by
    by_contra lacksEquals
    exact sound (.noEquals isPart lacksEquals)
  obtain ⟨writtenName, writtenValue, rfl, isFirst⟩ := List.eq_append_cons_of_mem hasEquals
  obtain ⟨name, nameIs⟩ : ∃ name, decodeText? writtenName = some name := by
    apply Option.ne_none_iff_exists'.mp
    intro isNone
    exact sound (.undecodable isPart isFirst (Or.inl (decodeText?_eq_none_iff.mp isNone)))
  obtain ⟨value, valueIs⟩ : ∃ value, decodeText? writtenValue = some value := by
    apply Option.ne_none_iff_exists'.mp
    intro isNone
    exact sound (.undecodable isPart isFirst (Or.inr (decodeText?_eq_none_iff.mp isNone)))
  refine ⟨(name, value), decodeSegment?_eq_some_iff.mpr (.mk isFirst ?_ ?_)⟩
  · exact decodeText?_eq_some_iff.mp nameIs
  · exact decodeText?_eq_some_iff.mp valueIs

/-- A body without a flaw is read as a form. -/
theorem exists_isReadAs_of_not_isFlawed {text : WideText} (sound : ¬ IsFlawed text) :
    ∃ form, IsReadAs text form := by
  obtain ⟨form, decoded⟩ := exists_map_eq fun _ => exists_field_of_not_isFlawed sound
  refine ⟨form, ?_, decoded, ?_⟩
  · by_contra isLong
    exact sound (.tooMany (Nat.lt_of_not_le isLong))
  · rw [nodup_names_iff decoded]
    intro first second areParts field isFirst other isSecond same
    have firstName := (decodeSegment?_eq_some_iff.mp isFirst).hasName
    have secondName := (decodeSegment?_eq_some_iff.mp isSecond).hasName
    rw [← same] at secondName
    exact sound (.repeated areParts firstName secondName)

theorem exists_isReadAs_iff {text : WideText} :
    (∃ form, IsReadAs text form) ↔ ¬ IsFlawed text := by
  refine ⟨?_, exists_isReadAs_of_not_isFlawed⟩
  rintro ⟨form, isRead⟩
  exact isRead.not_isFlawed

theorem ofBody_eq_ok_iff {body : Value} {text : WideText} (carries : IsBody body text)
    {form : Form} : ofBody body = .ok form ↔ IsReadAs text form := by
  rw [ofBody_eq_of_isBody carries, Outcome.mapError_eq_ok_iff, parse_eq_ok_iff]

/-- A body that is not read is no text and no bytes, or badly written. -/
theorem ofBody_error_cases {body : Value} {failure : Failure}
    (refused : ofBody body = .error failure) :
    failure = .lacksOperation ∨ ∃ fault, failure = .malformed fault := by
  simp only [ofBody] at refused
  split at refused
  · next noText =>
    cases refused
    split at noText
    · cases noText
    · split at noText
      · cases noText
      · cases noText
        exact .inl rfl
  · cases refused
    exact .inr ⟨_, rfl⟩
  · split at refused
    · cases refused
    · cases refused
      exact .inr ⟨_, rfl⟩

theorem exists_fault_of_isFlawed {body : Value} {text : WideText} (carries : IsBody body text)
    (flaw : IsFlawed text) : ∃ fault, ofBody body = .error (.malformed fault) := by
  rw [ofBody_eq_of_isBody carries]
  match read : parse text with
  | .ok form => exact absurd flaw (parse_eq_ok_iff.mp read).not_isFlawed
  | .error fault => exact ⟨fault, rfl⟩

/-- Bytes that are no text's UTF-8 form are refused. -/
theorem exists_fault_of_not_text {body : Value} {bytes : Bytes}
    (isBytes : body.byteString? = some bytes) (isNoText : ∀ text, Utf8.encode text ≠ bytes) :
    ∃ fault, ofBody body = .error (.malformed fault) := by
  have isNone : Utf8.decodeChars? bytes = none := by
    rw [Option.eq_none_iff_forall_ne_some]
    intro chars decoded
    apply isNoText (String.ofList chars)
    rw [Utf8.encode, String.toList_ofList, Utf8.decodeChars?_eq_some_iff.mp decoded]
  refine ⟨.malformedForm, ?_⟩
  unfold ofBody
  cases body with
  | octets | buffer =>
    cases isBytes
    simp only [Value.byteString?, isNone, Option.map_none]
  | _ => cases isBytes

/-- A written form with different names and at most 32 fields is read as that form, given as text or
as bytes.  Any body is refused as badly written exactly when it is flawed: it has too many parts, a
part without an equals sign, escapes that are not UTF-8 or a name that occurs twice.  Bytes that are
not UTF-8 are refused too. -/
theorem form_language :
    (∀ (form : Form) (text : WideText) (body : Value), form.Writes text → IsBody body text →
      form.length ≤ 32 → (form.map Prod.fst).Nodup → ofBody body = .ok form) ∧
    (∀ (text : WideText) (body : Value), IsBody body text →
      (IsFlawed text ↔ ∃ fault, ofBody body = .error (.malformed fault)) ∧
      (¬ IsFlawed text ↔ ∃ form, ofBody body = .ok form)) ∧
    (∀ (body : Value) (bytes : Bytes), body.byteString? = some bytes →
      (∀ text, Utf8.encode text ≠ bytes) →
        ∃ fault, ofBody body = .error (.malformed fault)) := by
  refine ⟨?_, ?_, ?_⟩
  · intro form text body writes carries isSmall isNodup
    exact ofBody_of_parse carries (writes.parse isSmall isNodup)
  · intro text body carries
    have isRead : (∃ form, ofBody body = .ok form) ↔ ¬ IsFlawed text := by
      simp only [ofBody_eq_ok_iff carries, exists_isReadAs_iff]
    refine ⟨⟨exists_fault_of_isFlawed carries, ?_⟩, isRead.symm⟩
    rintro ⟨fault, refused⟩
    by_contra sound
    obtain ⟨form, accepted⟩ := isRead.mpr sound
    rw [refused] at accepted
    cases accepted
  · intro body bytes isBytes isNoText
    exact exists_fault_of_not_text isBytes isNoText

/-- A form with a name that is written twice, once with a blank behind it. -/
def accentedForm : Form := ofTexts [("é", "+"), ("é ", "%")]

/-- That form with escapes next to plain characters, digits of both cases, and more ampersands than
are needed. -/
def accentedBody : List Char :=
  "&&%c3%A9=%2B&&é+=%25&".toList

theorem writes_accentedBody : accentedForm.Writes (WideText.ofChars accentedBody) := by
  have accent : Escapes (Utf8.encodeCode 'é'.toNat)
      (WideText.ofChars ['%', 'c', '3', '%', 'A', '9']) := .cons rfl rfl (.cons rfl rfl .nil)
  have plus : Escapes (Utf8.encodeCode '+'.toNat) (WideText.ofChars ['%', '2', 'B']) :=
    .cons rfl rfl .nil
  have percent : Escapes (Utf8.encodeCode '%'.toNat) (WideText.ofChars ['%', '2', '5']) :=
    .cons rfl rfl .nil
  have first : WritesField ("é", "+") _ := .mk (.escaped accent .nil) (.escaped plus .nil)
  have second : WritesField ("é ", "%") _ :=
    .mk (.plain (by decide) (.blank .nil)) (.escaped percent .nil)
  exact .separator (.separator (.cons first (.separator (.cons second .nil))))

/-- A body in which a name occurs twice, escaped the second time, with a lone surrogate between the
two. -/
def repeatedBody : WideText :=
  WideText.ofChars ['f', 'r', 'o', 'm', '='] ++ (Symbol.ofCode? 0xD800).toList ++
    WideText.ofChars ['&', '%', '6', '6', 'r', 'o', 'm', '=', '2']

theorem isFlawed_repeatedBody : IsFlawed repeatedBody := by
  have decoded : decodeText? (WideText.ofChars ['%', '6', '6', 'r', 'o', 'm']) =
      some (WideText.ofChars ['f', 'r', 'o', 'm']) := by decide
  have plain : decodeText? (WideText.ofChars ['f', 'r', 'o', 'm']) =
      some (WideText.ofChars ['f', 'r', 'o', 'm']) := by decide
  have first : HasName
      (WideText.ofChars ['f', 'r', 'o', 'm', '='] ++ (Symbol.ofCode? 0xD800).toList)
      (WideText.ofChars ['f', 'r', 'o', 'm']) :=
    .mk (by decide) (decodeText?_eq_some_iff.mp plain)
  have second : HasName (WideText.ofChars ['%', '6', '6', 'r', 'o', 'm', '=', '2'])
      (WideText.ofChars ['f', 'r', 'o', 'm']) :=
    .mk (by decide) (decodeText?_eq_some_iff.mp decoded)
  exact .repeated (by decide) first second

/-- Escapes, plus signs and further ampersands are undone, and a name is found twice behind its
escapes. -/
theorem form_language_of_accentedBody :
    ofBody (.octets (Utf8.encodeChars accentedBody)) = .ok accentedForm ∧
      (∃ fault, ofBody (.text repeatedBody) = .error (.malformed fault)) ∧
      ∃ fault, ofBody (.octets [0x66, 0x3D, 0xE9]) = .error (.malformed fault) := by
  obtain ⟨undoes, refuses, refusesBytes⟩ := form_language
  refine ⟨?_, ?_, ?_⟩
  · exact undoes accentedForm _ _ writes_accentedBody (.octets accentedBody) (by decide) (by decide)
  · exact ((refuses repeatedBody _ (.text repeatedBody)).1).mp isFlawed_repeatedBody
  · apply refusesBytes _ [0x66, 0x3D, 0xE9] rfl
    intro text isText
    have isNone : Utf8.decode? [0x66, 0x3D, 0xE9] = none := by decide
    rw [Utf8.decode?_eq_some_iff.mpr isText] at isNone
    cases isNone

end Form
end SealedGateway
