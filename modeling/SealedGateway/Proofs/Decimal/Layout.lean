import SealedGateway.Proofs.Decimal.DigitRun
import SealedGateway.Proofs.Decimal.Rounding

/-!
# The parts of a written decimal

However a decimal is laid out, its text is a numeral in three parts: digits before the point, digits
behind it, and an exponent.  A reader that takes these parts apart and puts the point back gets the
value of the decimal.
-/

namespace SealedGateway

attribute [local instance (2000)] instPowNat

namespace Numeral

theorem isAsciiDigit_of_mem_toDigits {value : Nat} {char : Char}
    (isMember : char ∈ Nat.toDigits 10 value) : Text.isAsciiDigit char = true := by
  have isDigit := Nat.isDigit_of_mem_toDigits (by decide) (by decide) isMember
  simp only [Char.isDigit, Bool.and_eq_true, decide_eq_true_eq] at isDigit
  exact isAsciiDigit_iff.mpr isDigit

theorem isRun_toDigits (value : Nat) : IsRun (Nat.toDigits 10 value) :=
  ⟨Nat.toDigits_ne_nil, fun _ isMember => isAsciiDigit_of_mem_toDigits isMember⟩

@[simp] theorem ofDigits_toDigits (value : Nat) : ofDigits (Nat.toDigits 10 value) = value :=
  Nat.ofDigitChars_ten_toDigits

theorem ofDigits_append (left right : List Char) :
    ofDigits (left ++ right) = Nat.ofDigitChars 10 right (ofDigits left) :=
  Nat.ofDigitChars_append 0

/-- Zeros before a numeral are without weight. -/
theorem ofDigits_zeros_append (zeros : Nat) (digits : List Char) :
    ofDigits (List.replicate zeros '0' ++ digits) = ofDigits digits := by
  rw [ofDigits_append]
  have noWeight : ofDigits (List.replicate zeros '0') = 0 :=
    Nat.ofDigitChars_replicate_zero.trans (Nat.mul_zero _)
  rw [noWeight]
  rfl

/-- Every zero behind a numeral multiplies it by ten. -/
theorem ofDigits_append_zeros (digits : List Char) (zeros : Nat) :
    ofDigits (digits ++ List.replicate zeros '0') = ofDigits digits * 10 ^ zeros := by
  rw [ofDigits_append, Nat.ofDigitChars_replicate_zero, Nat.mul_comm]

theorem withSign_natAbs (value : Int) : withSign (decide (value < 0)) value.natAbs = value := by
  unfold withSign
  by_cases isNegative : value < 0
  · rw [if_pos (decide_eq_true isNegative)]
    omega
  · rw [if_neg (by simpa using isNegative)]
    omega

theorem head?_toDigits_append (value : Nat) (text : List Char) :
    (Nat.toDigits 10 value ++ text).head? = (Nat.toDigits 10 value).head? := by
  obtain ⟨first, others, digitsAre⟩ := List.exists_cons_of_ne_nil
    (Nat.toDigits_ne_nil (b := 10) (n := value))
  rw [digitsAre]
  rfl

/-- The digits of a number other than zero do not begin with a zero. -/
theorem head?_toDigits_ne_zero {value : Nat} (isNonzero : value ≠ 0) :
    (Nat.toDigits 10 value).head? ≠ some '0' := by
  induction value using Nat.strongRecOn with
  | ind value ih =>
    rw [Nat.toDigits_eq_if (by decide)]
    split
    · simpa using isNonzero
    · rw [head?_toDigits_append]
      exact ih (value / 10) (by omega) (by omega)

theorem isRun_append {left right : List Char} (isRun : IsRun left)
    (areDigits : ∀ char ∈ right, Text.isAsciiDigit char = true) : IsRun (left ++ right) := by
  refine ⟨List.append_ne_nil_of_left_ne_nil isRun.1 _, ?_⟩
  intro char isMember
  exact (List.mem_append.mp isMember).elim (isRun.2 char) (areDigits char)

theorem isAsciiDigit_of_mem_zeros {zeros : Nat} {char : Char}
    (isMember : char ∈ List.replicate zeros '0') : Text.isAsciiDigit char = true := by
  rw [List.eq_of_mem_replicate isMember]
  rfl

end Numeral

namespace Decimal

/-- A numeral taken apart. -/
structure Parts where
  /-- The digits before the point. -/
  whole : List Char
  /-- The digits behind the point. -/
  fraction : List Char
  /-- Whether the exponent is negative, and its digits. -/
  exponent? : Option (Bool × List Char)

namespace Parts

/-- The text of an exponent. -/
def exponentText : Option (Bool × List Char) → List Char
  | none => []
  | some (negative, digits) => 'e' :: (if negative then '-' else '+') :: digits

/-- The number that an exponent is. -/
def exponentValue : Option (Bool × List Char) → Int
  | none => 0
  | some (negative, digits) => Numeral.withSign negative (Numeral.ofDigits digits)

/-- The text of a fraction. -/
def fractionText (fraction : List Char) : List Char :=
  if fraction = [] then [] else '.' :: fraction

/-- The numeral as text. -/
def text (parts : Parts) : List Char :=
  parts.whole ++ (fractionText parts.fraction ++ exponentText parts.exponent?)

/-- The value that the numeral stands for behind a sign. -/
def value (parts : Parts) (negative : Bool) : Binary64 :=
  Binary64.ofDecimal negative (Numeral.ofDigits (parts.whole ++ parts.fraction))
    (exponentValue parts.exponent? - parts.fraction.length)

/-- Whether the parts are those of a floating point numeral: the whole part has no zeros at its
head, and a fraction or an exponent tells it from a whole number. -/
structure IsReal (parts : Parts) : Prop where
  whole : Numeral.IsRun parts.whole
  whole_plain : parts.whole.head? = some '0' → parts.whole = ['0']
  fraction : ∀ char ∈ parts.fraction, Text.isAsciiDigit char = true
  exponent : ∀ negative digits, parts.exponent? = some (negative, digits) → Numeral.IsRun digits
  isMarked : parts.fraction ≠ [] ∨ parts.exponent? ≠ none

end Parts

/-- Whether a text is a floating point numeral that reads as a decimal. -/
def IsTextOf (decimal : Decimal) (text : List Char) : Prop :=
  ∃ parts : Parts, parts.IsReal ∧ text = parts.text ∧ ∀ negative,
    parts.value negative = Binary64.ofDecimal negative decimal.coefficient decimal.exponent

/-- A decimal below one is written as zeros and its digits behind the point. -/
theorem isTextOf_of_small (decimal : Decimal) {zeros : Nat}
    (places : (zeros : Int) + (Nat.toDigits 10 decimal.coefficient).length = -decimal.exponent) :
    decimal.IsTextOf
      (['0', '.'] ++ List.replicate zeros '0' ++ Nat.toDigits 10 decimal.coefficient) := by
  have isMarked : List.replicate zeros '0' ++ Nat.toDigits 10 decimal.coefficient ≠ [] :=
    List.append_ne_nil_of_right_ne_nil _ Nat.toDigits_ne_nil
  have isRun : Numeral.IsRun ['0'] := by decide
  refine ⟨⟨['0'], List.replicate zeros '0' ++ Nat.toDigits 10 decimal.coefficient, none⟩,
    ⟨isRun, fun _ => rfl, ?_, nofun, Or.inl isMarked⟩, ?_, ?_⟩
  · intro char isMember
    exact (List.mem_append.mp isMember).elim Numeral.isAsciiDigit_of_mem_zeros
      Numeral.isAsciiDigit_of_mem_toDigits
  · simp [Parts.text, Parts.fractionText, Parts.exponentText]
  · intro negative
    have digits : Numeral.ofDigits ('0' :: (List.replicate zeros '0' ++
        Nat.toDigits 10 decimal.coefficient)) = decimal.coefficient :=
      (Numeral.ofDigits_zeros_append (zeros + 1) _).trans (Numeral.ofDigits_toDigits _)
    have exponent : (0 : Int) - (List.replicate zeros '0' ++
        Nat.toDigits 10 decimal.coefficient).length = decimal.exponent := by
      rw [List.length_append, List.length_replicate]
      omega
    rw [Parts.value, List.singleton_append, digits]
    exact congrArg _ exponent

/-- A decimal with places on both sides of the point is written with the point among its digits. -/
theorem isTextOf_of_parted {decimal : Decimal} (isNonzero : decimal.coefficient ≠ 0) {before : Nat}
    (isInside : 0 < before ∧ before < (Nat.toDigits 10 decimal.coefficient).length)
    (places : (before : Int) = (Nat.toDigits 10 decimal.coefficient).length + decimal.exponent) :
    decimal.IsTextOf ((Nat.toDigits 10 decimal.coefficient).take before ++ ['.'] ++
      (Nat.toDigits 10 decimal.coefficient).drop before) := by
  have head := Numeral.head?_toDigits_ne_zero isNonzero
  have value := Numeral.ofDigits_toDigits decimal.coefficient
  have areDigits := (Numeral.isRun_toDigits decimal.coefficient).2
  generalize Nat.toDigits 10 decimal.coefficient = digits at *
  have takesSome : digits.take before ≠ [] := by
    rw [Ne, List.take_eq_nil_iff, not_or]
    exact ⟨Nat.ne_of_gt isInside.1, fun isEmpty => by simp [isEmpty] at isInside⟩
  have dropsSome : digits.drop before ≠ [] := by
    rw [Ne, List.drop_eq_nil_iff]
    omega
  refine ⟨⟨digits.take before, digits.drop before, none⟩,
    ⟨⟨takesSome, fun char isMember => areDigits char (List.mem_of_mem_take isMember)⟩, ?_,
      fun char isMember => areDigits char (List.mem_of_mem_drop isMember), nofun,
      Or.inl dropsSome⟩, ?_, ?_⟩
  · intro startsWithZero
    rw [List.head?_take, if_neg (Nat.ne_of_gt isInside.1)] at startsWithZero
    exact absurd startsWithZero head
  · simp [Parts.text, Parts.fractionText, Parts.exponentText, dropsSome]
  · intro negative
    have exponent : (0 : Int) - (digits.drop before).length = decimal.exponent := by
      rw [List.length_drop]
      omega
    rw [Parts.value, List.take_append_drop, value]
    exact congrArg _ exponent

/-- A decimal without places behind the point is written with zeros up to the point and one behind
it. -/
theorem isTextOf_of_large {decimal : Decimal} (isNonzero : decimal.coefficient ≠ 0) {zeros : Nat}
    (places : decimal.exponent = zeros) :
    decimal.IsTextOf (Nat.toDigits 10 decimal.coefficient ++ List.replicate zeros '0' ++
      ['.', '0']) := by
  have isRun : Numeral.IsRun (Nat.toDigits 10 decimal.coefficient ++ List.replicate zeros '0') :=
    Numeral.isRun_append (Numeral.isRun_toDigits decimal.coefficient)
      fun _ isMember => Numeral.isAsciiDigit_of_mem_zeros isMember
  have fraction : ∀ char ∈ ['0'], Text.isAsciiDigit char = true :=
    List.forall_mem_singleton.mpr rfl
  refine ⟨⟨Nat.toDigits 10 decimal.coefficient ++ List.replicate zeros '0', ['0'], none⟩,
    ⟨isRun, ?_, fraction, nofun, Or.inl (List.cons_ne_nil _ _)⟩, ?_, ?_⟩
  · intro startsWithZero
    rw [Numeral.head?_toDigits_append] at startsWithZero
    exact absurd startsWithZero (Numeral.head?_toDigits_ne_zero isNonzero)
  · simp [Parts.text, Parts.fractionText, Parts.exponentText]
  · intro negative
    have digits : Numeral.ofDigits (Nat.toDigits 10 decimal.coefficient ++
        List.replicate zeros '0' ++ ['0']) = decimal.coefficient * 10 ^ (zeros + 1) := by
      rw [List.append_assoc, ← List.replicate_succ', Numeral.ofDigits_append_zeros,
        Numeral.ofDigits_toDigits]
    rw [Parts.value, digits, Binary64.ofDecimal_mul_pow_ten]
    congr 1
    simp only [Parts.exponentValue, List.length_singleton]
    omega

/-- A decimal far from one is written with the point behind its first digit and an exponent. -/
theorem isTextOf_of_scientific {decimal : Decimal} (isNonzero : decimal.coefficient ≠ 0)
    (exponentDigits : Nat) {power : Int}
    (places : power = (Nat.toDigits 10 decimal.coefficient).length + decimal.exponent - 1) :
    decimal.IsTextOf ((Nat.toDigits 10 decimal.coefficient).take 1 ++
      (if (Nat.toDigits 10 decimal.coefficient).length = 1 then []
        else '.' :: (Nat.toDigits 10 decimal.coefficient).drop 1) ++
      ['e', if power < 0 then '-' else '+'] ++
      padZeros exponentDigits (Nat.toDigits 10 power.natAbs)) := by
  have head := Numeral.head?_toDigits_ne_zero isNonzero
  have value := Numeral.ofDigits_toDigits decimal.coefficient
  obtain ⟨isNonempty, areDigits⟩ := Numeral.isRun_toDigits decimal.coefficient
  generalize Nat.toDigits 10 decimal.coefficient = digits at *
  obtain ⟨first, others, rfl⟩ := List.exists_cons_of_ne_nil isNonempty
  have exponentRun : Numeral.IsRun (padZeros exponentDigits (Nat.toDigits 10 power.natAbs)) := by
    refine ⟨List.append_ne_nil_of_right_ne_nil _ Nat.toDigits_ne_nil, ?_⟩
    intro char isMember
    exact (List.mem_append.mp isMember).elim Numeral.isAsciiDigit_of_mem_zeros
      Numeral.isAsciiDigit_of_mem_toDigits
  have exponentIs : Numeral.ofDigits (padZeros exponentDigits (Nat.toDigits 10 power.natAbs)) =
      power.natAbs := by
    rw [padZeros, Numeral.ofDigits_zeros_append, Numeral.ofDigits_toDigits]
  refine ⟨⟨[first], others,
      some (decide (power < 0), padZeros exponentDigits (Nat.toDigits 10 power.natAbs))⟩,
    ⟨⟨List.cons_ne_nil _ _, ?_⟩, ?_, ?_, ?_, Or.inr nofun⟩, ?_, ?_⟩
  · intro char isMember
    rw [List.mem_singleton.mp isMember]
    exact areDigits first List.mem_cons_self
  · exact fun startsWithZero => absurd startsWithZero head
  · exact fun char isMember => areDigits char (List.mem_cons_of_mem _ isMember)
  · rintro negative exponent ⟨⟩
    exact exponentRun
  · simp [Parts.text, Parts.fractionText, Parts.exponentText]
  · intro negative
    rw [Parts.value, List.singleton_append, value]
    simp only [Parts.exponentValue, exponentIs, Numeral.withSign_natAbs]
    congr 1
    rw [places, List.length_cons]
    omega

/-- The text of a decimal other than zero is a numeral that reads as it, under every layout. -/
theorem isTextOf_layOut (layout : Layout) {decimal : Decimal}
    (isNonzero : decimal.coefficient ≠ 0) : decimal.IsTextOf (layOut layout decimal) := by
  simp only [layOut]
  split
  · split
    · next isSmall => exact isTextOf_of_small decimal (by omega)
    · next isLarge =>
      split
      · next isInside => exact isTextOf_of_parted isNonzero ⟨by omega, isInside⟩ (by omega)
      · next isOutside => exact isTextOf_of_large isNonzero (by omega)
  · exact isTextOf_of_scientific isNonzero layout.exponentDigits (by omega)

/-- The text of zero. -/
def zeroParts : Parts := ⟨['0'], ['0'], none⟩

theorem isReal_zeroParts : zeroParts.IsReal where
  whole := by decide
  whole_plain := fun _ => rfl
  fraction := List.forall_mem_singleton.mpr rfl
  exponent := nofun
  isMarked := Or.inl (List.cons_ne_nil _ _)

theorem eq_zero_of_significand {magnitude : Magnitude} (isZero : magnitude.significand = 0) :
    magnitude = Magnitude.zero := by
  obtain ⟨significand, scale, isBelow, isNormal, inRange⟩ := magnitude
  have noSignificand : significand = 0 := isZero
  subst noSignificand
  have noScale : scale = 0 := isNormal.resolve_right (by decide)
  subst noScale
  rfl

/-- The text of a finite value is a sign and a numeral that reads as that value. -/
theorem exists_parts_of_print (layout : Layout) (negative : Bool) (magnitude : Magnitude) :
    ∃ parts : Parts, parts.IsReal ∧
      print layout (.finite negative magnitude) =
        (if negative then ['-'] else []) ++ parts.text ∧
      parts.value negative = .finite negative magnitude := by
  by_cases isZero : magnitude.significand = 0
  · refine ⟨zeroParts, isReal_zeroParts, ?_, ?_⟩
    · rw [print, if_pos isZero]
      rfl
    · rw [eq_zero_of_significand isZero]
      rfl
  · obtain ⟨parts, isReal, textIs, valueIs⟩ :=
      isTextOf_layOut layout (coefficient_shortest_ne_zero isZero)
    refine ⟨parts, isReal, ?_, ?_⟩
    · rw [print, if_neg isZero, textIs]
    · rw [valueIs negative, ofDecimal_shortest isZero negative]

end Decimal
end SealedGateway
