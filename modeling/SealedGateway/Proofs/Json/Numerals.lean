import SealedGateway.Json.Printer
import SealedGateway.Json.Parser
import SealedGateway.Proofs.Decimal.Layout

/-!
# Reading written numbers

A scanner takes the longest numeral at the head of a text.  So a written number is read back
whenever what stands behind it cannot belong to a numeral: the end of the text, a comma or a closing
bracket.
-/

namespace SealedGateway

namespace WideText

@[simp] theorem ofChars_cons (char : Char) (chars : List Char) :
    ofChars (char :: chars) = .char char :: ofChars chars := rfl

@[simp] theorem ofChars_append (left right : List Char) :
    ofChars (left ++ right) = ofChars left ++ ofChars right :=
  List.map_append

end WideText

namespace Json

/-- Whether no numeral goes on with what stands here. -/
def EndsNumeral (rest : WideText) : Prop :=
  ∀ char, rest.head? = some (.char char) →
    Text.isAsciiDigit char = false ∧ char ≠ '.' ∧ char ≠ 'e' ∧ char ≠ 'E'

theorem endsNumeral_nil : EndsNumeral [] := nofun

theorem endsNumeral_cons {char : Char} (rest : WideText)
    (isEnd : Text.isAsciiDigit char = false ∧ char ≠ '.' ∧ char ≠ 'e' ∧ char ≠ 'E') :
    EndsNumeral (.char char :: rest) := by
  rintro _ ⟨⟩
  exact isEnd

/-! ## The parts of a numeral -/

/-- Whether a text does not begin with a digit. -/
def EndsDigits (rest : WideText) : Prop :=
  ∀ char, rest.head? = some (.char char) → Text.isAsciiDigit char = false

theorem EndsNumeral.endsDigits {rest : WideText} (ends : EndsNumeral rest) : EndsDigits rest :=
  fun char isHead => (ends char isHead).1

theorem endsDigits_cons {char : Char} (rest : WideText) (isEnd : Text.isAsciiDigit char = false) :
    EndsDigits (.char char :: rest) := by
  rintro _ ⟨⟩
  exact isEnd

theorem takeDigits_of_endsDigits {rest : WideText} (ends : EndsDigits rest) :
    takeDigits rest = ([], rest) := by
  match rest with
  | [] => rfl
  | .surrogate _ :: _ => rfl
  | .char char :: rest => rw [takeDigits, if_neg (by simp [ends char rfl])]

theorem takeDigits_append {digits : List Char}
    (areDigits : ∀ char ∈ digits, Text.isAsciiDigit char = true) {rest : WideText}
    (ends : EndsDigits rest) : takeDigits (WideText.ofChars digits ++ rest) = (digits, rest) := by
  induction digits with
  | nil => exact takeDigits_of_endsDigits ends
  | cons digit others ih =>
    rw [WideText.ofChars_cons, List.cons_append, takeDigits,
      if_pos (areDigits digit List.mem_cons_self),
      ih fun char isMember => areDigits char (List.mem_cons_of_mem _ isMember)]

/-- A whole part is read up to its end; the reader stops behind a zero at the head. -/
theorem takeWholePart_append {digits : List Char} (isRun : Numeral.IsRun digits)
    (isPlain : digits.head? = some '0' → digits = ['0']) {rest : WideText}
    (ends : EndsDigits rest) :
    takeWholePart (WideText.ofChars digits ++ rest) = (digits, rest) := by
  by_cases startsWithZero : digits.head? = some '0'
  · rw [isPlain startsWithZero]
    rfl
  · obtain ⟨first, others, rfl⟩ := List.exists_cons_of_ne_nil isRun.1
    rw [← takeDigits_append isRun.2 ends, takeWholePart]
    rintro _ ⟨⟩
    exact startsWithZero rfl

theorem takeFraction_append (fraction : List Char)
    (areDigits : ∀ char ∈ fraction, Text.isAsciiDigit char = true) {rest : WideText}
    (ends : EndsDigits rest) (isNoPoint : rest.head? ≠ some (.char '.')) :
    takeFraction (WideText.ofChars (Decimal.Parts.fractionText fraction) ++ rest) =
      (fraction, rest) := by
  cases fraction with
  | nil =>
    show takeFraction rest = ([], rest)
    match rest with
    | [] => rfl
    | .surrogate _ :: _ => rfl
    | .char char :: rest =>
      rw [takeFraction]
      rintro _ ⟨⟩
      exact isNoPoint rfl
  | cons digit others =>
    rw [Decimal.Parts.fractionText, if_neg (List.cons_ne_nil _ _), WideText.ofChars_cons,
      List.cons_append, takeFraction, takeDigits_append areDigits ends]

theorem takeExponent_append (exponent? : Option (Bool × List Char))
    (isRun : ∀ negative digits, exponent? = some (negative, digits) → Numeral.IsRun digits)
    {rest : WideText} (ends : EndsNumeral rest) :
    takeExponent (WideText.ofChars (Decimal.Parts.exponentText exponent?) ++ rest) =
      (exponent?.map fun exponent => Numeral.withSign exponent.1 (Numeral.ofDigits exponent.2),
        rest) := by
  match exponent? with
  | none =>
    show takeExponent rest = (none, rest)
    match rest with
    | [] => rfl
    | .surrogate _ :: _ => rfl
    | .char char :: rest =>
      obtain ⟨-, -, isNotMark⟩ := ends char rfl
      unfold takeExponent
      exact if_neg (not_or.mpr isNotMark)
  | some (negative, digits) =>
    have run := isRun negative digits rfl
    obtain ⟨first, others, rfl⟩ := List.exists_cons_of_ne_nil run.1
    have taken := takeDigits_append run.2 ends.endsDigits
    rw [Decimal.Parts.exponentText, WideText.ofChars_cons, List.cons_append]
    unfold takeExponent
    cases negative with
    | false =>
      simp only [Bool.false_eq_true, if_false, true_or, if_true, WideText.ofChars_cons,
        List.cons_append] at taken ⊢
      rw [taken]
      rfl
    | true =>
      simp only [if_true, true_or, WideText.ofChars_cons, List.cons_append] at taken ⊢
      rw [taken]
      rfl

/-! ## Numbers -/

/-- What stands behind the whole part of a numeral is no digit. -/
theorem endsDigits_behind_whole (parts : Decimal.Parts) {rest : WideText}
    (ends : EndsNumeral rest) :
    EndsDigits (WideText.ofChars (Decimal.Parts.fractionText parts.fraction ++
      Decimal.Parts.exponentText parts.exponent?) ++ rest) := by
  obtain ⟨whole, fraction, exponent?⟩ := parts
  match fraction, exponent? with
  | _ :: _, _ => exact endsDigits_cons _ rfl
  | [], some _ => exact endsDigits_cons _ rfl
  | [], none => exact ends.endsDigits

/-- What stands behind the fraction of a numeral is neither a digit nor a point. -/
theorem endsFraction (exponent? : Option (Bool × List Char)) {rest : WideText}
    (ends : EndsNumeral rest) :
    EndsDigits (WideText.ofChars (Decimal.Parts.exponentText exponent?) ++ rest) ∧
      (WideText.ofChars (Decimal.Parts.exponentText exponent?) ++ rest).head? ≠
        some (.char '.') := by
  match exponent? with
  | some _ => exact ⟨endsDigits_cons _ rfl, nofun⟩
  | none => exact ⟨ends.endsDigits, fun isPoint => (ends '.' isPoint).2.1 rfl⟩

/-- A floating point numeral is read as its value. -/
theorem scanNumber_text (negative : Bool) {parts : Decimal.Parts} (isReal : parts.IsReal)
    {rest : WideText} (ends : EndsNumeral rest) :
    scanNumber negative (WideText.ofChars parts.text ++ rest) =
      .ok (.real (parts.value negative), rest) := by
  have isMarked : ¬ (parts.fraction.isEmpty && (parts.exponent?.map fun exponent =>
      Numeral.withSign exponent.1 (Numeral.ofDigits exponent.2)).isNone) = true := by
    rw [Bool.and_eq_true, List.isEmpty_iff, Option.isNone_map, Option.isNone_iff_eq_none]
    rintro ⟨noFraction, noExponent⟩
    exact isReal.isMarked.elim (· noFraction) (· noExponent)
  have isWhole : ¬ parts.whole.isEmpty = true := by
    rw [List.isEmpty_iff]
    exact isReal.whole.1
  obtain ⟨endsFractionDigits, isNoPoint⟩ := endsFraction parts.exponent? ends
  unfold scanNumber
  rw [Decimal.Parts.text, WideText.ofChars_append, List.append_assoc,
    takeWholePart_append isReal.whole isReal.whole_plain (endsDigits_behind_whole parts ends)]
  simp only [WideText.ofChars_append, List.append_assoc]
  rw [takeFraction_append parts.fraction isReal.fraction endsFractionDigits isNoPoint]
  simp only
  rw [takeExponent_append parts.exponent? isReal.exponent ends]
  simp only
  rw [if_neg isWhole, if_neg isMarked, Decimal.Parts.value]
  cases parts.exponent? <;> rfl

theorem toDigits_plain (value : Nat) :
    (Nat.toDigits 10 value).head? = some '0' → Nat.toDigits 10 value = ['0'] := by
  intro startsWithZero
  by_cases isZero : value = 0
  · rw [isZero]
    rfl
  · exact absurd startsWithZero (Numeral.head?_toDigits_ne_zero isZero)

/-- The digits of a whole number are read as that number. -/
theorem scanNumber_toDigits (negative : Bool) {value : Nat}
    (isShort : (Nat.toDigits 10 value).length ≤ Numeral.digitLimit) {rest : WideText}
    (ends : EndsNumeral rest) :
    scanNumber negative (WideText.ofChars (Nat.toDigits 10 value) ++ rest) =
      .ok (.whole (Numeral.withSign negative value), rest) := by
  have isRun := Numeral.isRun_toDigits value
  have isWhole : ¬ (Nat.toDigits 10 value).isEmpty = true := by
    rw [List.isEmpty_iff]
    exact isRun.1
  obtain ⟨-, isNoPoint⟩ := endsFraction none ends
  have noFraction := takeFraction_append [] nofun ends.endsDigits isNoPoint
  have noExponent := takeExponent_append none nofun ends
  unfold scanNumber
  rw [takeWholePart_append isRun (toDigits_plain value) ends.endsDigits]
  simp only
  rw [show takeFraction rest = ([], rest) from noFraction]
  simp only
  rw [show takeExponent rest = (none, rest) from noExponent]
  simp only [if_neg isWhole, List.isEmpty_nil, Option.isNone_none, Bool.and_self, if_true]
  rw [if_neg (Nat.not_lt.mpr isShort), Numeral.ofDigits_toDigits]

end Json
end SealedGateway
