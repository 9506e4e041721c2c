import SealedGateway.Proofs.Json.Numerals

/-!
# Reading printed scalars

The first character of a value tells what it is: a literal, a number or something in quotes or
brackets.  So every printed scalar is read back, with anything behind it that ends a numeral.
-/

namespace SealedGateway
namespace Json

/-! ## Literals -/

/-- A text does not begin with a literal that begins otherwise. -/
theorem literal?_of_head_ne {word : String} {symbol : Symbol} (rest : WideText)
    (isOther : (WideText.ofString word).head? ≠ some symbol) (isWord : word.toList ≠ []) :
    literal? word (symbol :: rest) = none := by
  obtain ⟨first, others, wordIs⟩ := List.exists_cons_of_ne_nil isWord
  have symbols : WideText.ofString word = .char first :: WideText.ofChars others := by
    rw [WideText.ofString, wordIs]
    rfl
  rw [symbols] at isOther
  have isDifferent : (Symbol.char first == symbol) = false := by
    rw [beq_eq_false_iff_ne]
    exact fun same => isOther (congrArg some same)
  simp [literal?, symbols, List.isPrefixOf, isDifferent]

/-- Whether a symbol begins a value in brackets or quotes. -/
def OpensValue (symbol : Symbol) : Prop :=
  symbol.code = 34 ∨ symbol = .char '[' ∨ symbol = .char '\x7b'

theorem scanValue_of_scalar (depth : Nat) {symbol : Symbol} (isScalar : ¬ OpensValue symbol)
    (rest : WideText) : scanValue depth (symbol :: rest) = scanScalar (symbol :: rest) := by
  rw [OpensValue, not_or, not_or] at isScalar
  rw [scanValue.eq_def]
  simp only [if_neg isScalar.1, if_neg isScalar.2.1, if_neg isScalar.2.2]

/-- The first characters of the literals. -/
def literalHeads : List Char := ['n', 't', 'f', 'N', 'I']

theorem not_mem_literalHeads_of_isAsciiDigit {char : Char}
    (isDigit : Text.isAsciiDigit char = true) : char ∉ literalHeads ∧ char ≠ '-' := by
  constructor
  · intro isMember
    simp only [literalHeads, List.mem_cons, List.not_mem_nil, or_false] at isMember
    rcases isMember with rfl | rfl | rfl | rfl | rfl <;> cases isDigit
  · rintro rfl
    cases isDigit

/-- No literal begins with a character that is not the first one of a literal. -/
theorem literal?_of_not_mem {char : Char} (isOther : char ∉ literalHeads) (rest : WideText)
    {word : String} (isWord : ∃ first ∈ literalHeads, word.toList.head? = some first) :
    literal? word (.char char :: rest) = none := by
  obtain ⟨first, isMember, isHead⟩ := isWord
  obtain ⟨others, wordIs⟩ := List.head?_eq_some_iff.mp isHead
  apply literal?_of_head_ne
  · rw [WideText.ofString, wordIs]
    rintro ⟨⟩
    exact isOther isMember
  · rw [wordIs]
    exact List.cons_ne_nil _ _

/-- A text that begins with no literal is read as a number, with a sign where one stands. -/
theorem scanScalar_of_no_literal {char : Char} {rest : WideText} (isOther : char ∉ literalHeads)
    (isNoInfinity : literal? "-Infinity" (.char char :: rest) = none) :
    scanScalar (.char char :: rest) =
      match (.char char :: rest : WideText) with
      | .char '-' :: unsigned => scanNumber true unsigned
      | _ => scanNumber false (.char char :: rest) := by
  unfold scanScalar
  rw [literal?_of_not_mem isOther rest ⟨'n', by decide, rfl⟩,
    literal?_of_not_mem isOther rest ⟨'t', by decide, rfl⟩,
    literal?_of_not_mem isOther rest ⟨'f', by decide, rfl⟩,
    literal?_of_not_mem isOther rest ⟨'N', by decide, rfl⟩,
    literal?_of_not_mem isOther rest ⟨'I', by decide, rfl⟩, isNoInfinity]
  rfl

/-- The sign of a negative number. -/
def signChars (negative : Bool) : List Char :=
  if negative then ['-'] else []

/-- A sign and a digit begin a number with that sign. -/
theorem scanScalar_signed (negative : Bool) {first : Char}
    (isDigit : Text.isAsciiDigit first = true) (rest : WideText) :
    scanScalar (WideText.ofChars (signChars negative) ++ .char first :: rest) =
      scanNumber negative (.char first :: rest) := by
  obtain ⟨isOther, isNoMinus⟩ := not_mem_literalHeads_of_isAsciiDigit isDigit
  cases negative with
  | false =>
    have isNoInfinity : literal? "-Infinity" (.char first :: rest) = none := by
      apply literal?_of_head_ne _ _ (by decide)
      rintro ⟨⟩
      exact isNoMinus rfl
    refine (scanScalar_of_no_literal isOther isNoInfinity).trans ?_
    split
    · next unsigned sameText =>
      cases sameText
      exact absurd rfl isNoMinus
    · rfl
  | true =>
    have isNoInfinity : literal? "-Infinity" (.char '-' :: .char first :: rest) = none := by
      have isDifferent : (Symbol.char 'I' == .char first) = false := by
        rw [beq_eq_false_iff_ne]
        rintro ⟨⟩
        cases isDigit
      have symbols : WideText.ofString "-Infinity" =
          .char '-' :: .char 'I' :: WideText.ofString "nfinity" := by
        decide
      simp [literal?, symbols, List.isPrefixOf, isDifferent]
    exact scanScalar_of_no_literal (by decide) isNoInfinity

theorem not_opensValue_of_isAsciiDigit {char : Char} (isDigit : Text.isAsciiDigit char = true) :
    ¬ OpensValue (.char char) := by
  rw [Numeral.isAsciiDigit_iff] at isDigit
  rintro (isQuote | ⟨⟨⟩⟩ | ⟨⟨⟩⟩)
  · rw [Symbol.code] at isQuote
    omega
  · exact absurd isDigit (by decide)
  · exact absurd isDigit (by decide)

/-- A sign and digits are read as a number. -/
theorem scanValue_signed (depth : Nat) (negative : Bool) {digits : List Char}
    (startsWithDigit : ∃ first others, digits = first :: others ∧
      Text.isAsciiDigit first = true) (rest : WideText) :
    scanValue depth (WideText.ofChars (signChars negative ++ digits) ++ rest) =
      scanNumber negative (WideText.ofChars digits ++ rest) := by
  obtain ⟨first, others, rfl, isDigit⟩ := startsWithDigit
  have scanned := scanScalar_signed negative isDigit (WideText.ofChars others ++ rest)
  rw [WideText.ofChars_append, List.append_assoc, WideText.ofChars_cons, List.cons_append,
    ← scanned]
  cases negative with
  | false => exact scanValue_of_scalar depth (not_opensValue_of_isAsciiDigit isDigit) _
  | true => exact scanValue_of_scalar depth (by unfold OpensValue; decide) _

theorem exists_digit_of_isRun {digits : List Char} (isRun : Numeral.IsRun digits)
    (others : List Char) : ∃ first remaining, digits ++ others = first :: remaining ∧
      Text.isAsciiDigit first = true := by
  obtain ⟨first, remaining, rfl⟩ := List.exists_cons_of_ne_nil isRun.1
  exact ⟨first, remaining ++ others, rfl, isRun.2 first List.mem_cons_self⟩

/-- A printed whole number is read back. -/
theorem scanValue_whole {value : Int} {text : WideText} (printed : printWhole value = .ok text)
    (depth : Nat) {rest : WideText} (ends : EndsNumeral rest) :
    scanValue depth (text ++ rest) = .ok (.whole value, rest) := by
  unfold printWhole at printed
  simp only at printed
  split at printed
  · cases printed
  · next isShort =>
    cases printed
    have starts := exists_digit_of_isRun (Numeral.isRun_toDigits value.natAbs) []
    rw [List.append_nil] at starts
    have scanned := scanValue_signed depth (decide (value < 0)) starts rest
    rw [scanNumber_toDigits _ (Nat.not_lt.mp isShort) ends, Numeral.withSign_natAbs] at scanned
    simpa [signChars] using scanned

/-- A printed floating point value is read back. -/
theorem scanValue_real (value : Binary64) (depth : Nat) {rest : WideText}
    (ends : EndsNumeral rest) :
    scanValue depth (WideText.ofChars (Decimal.print Decimal.descriptorLayout value) ++ rest) =
      .ok (.real value, rest) := by
  cases value with
  | nan =>
    exact scanValue_of_scalar depth (by unfold OpensValue; decide) _
  | infinity negative =>
    cases negative with
    | false => exact scanValue_of_scalar depth (by unfold OpensValue; decide) _
    | true => exact scanValue_of_scalar depth (by unfold OpensValue; decide) _
  | finite negative magnitude =>
    obtain ⟨parts, isReal, textIs, valueIs⟩ :=
      Decimal.exists_parts_of_print Decimal.descriptorLayout negative magnitude
    have starts := exists_digit_of_isRun isReal.whole
      (Decimal.Parts.fractionText parts.fraction ++
        Decimal.Parts.exponentText parts.exponent?)
    rw [textIs]
    refine (scanValue_signed depth negative starts rest).trans ?_
    rw [← valueIs]
    exact scanNumber_text negative isReal ends

end Json
end SealedGateway
