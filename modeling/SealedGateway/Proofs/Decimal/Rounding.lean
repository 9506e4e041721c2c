import SealedGateway.Decimal.Shortest

/-!
# Reading the shortest decimal back

The value of a decimal does not depend on how a factor of ten is shared between its coefficient and
its exponent, and a quotient that is exactly a magnitude is not rounded.  Hence the shortest decimal
of a magnitude, with or without zeros at its end, reads as that magnitude.
-/

namespace SealedGateway

attribute [local instance (2000)] instPowNat

namespace Binary64

theorem roundQuotient_mul_right (dividend divisor : Nat) {factor : Nat} (isPositive : 0 < factor) :
    roundQuotient (dividend * factor) (divisor * factor) = roundQuotient dividend divisor := by
  have isLess (left right : Nat) : left * factor < right * factor ↔ left < right :=
    Nat.mul_lt_mul_right isPositive
  simp only [roundQuotient, Nat.mul_div_mul_right _ _ isPositive, Nat.mul_mod_mul_right,
    ← Nat.mul_assoc, isLess]

theorem ofUnitQuotient_mul_right (negative : Bool) (dividend divisor : Nat) {factor : Nat}
    (isPositive : 0 < factor) :
    ofUnitQuotient negative (dividend * factor) (divisor * factor) =
      ofUnitQuotient negative dividend divisor := by
  have sameRounding (scale : Nat) :
      roundQuotient (dividend * factor) (divisor * factor * scale) =
        roundQuotient dividend (divisor * scale) := by
    rw [Nat.mul_right_comm, roundQuotient_mul_right _ _ isPositive]
  simp only [ofUnitQuotient, Nat.mul_div_mul_right _ _ isPositive, sameRounding]

theorem digitCount_mul_ten {value : Nat} (isNonzero : value ≠ 0) :
    digitCount (value * 10) = digitCount value + 1 := by
  have digits := Nat.toDigits_append_toDigits (b := 10) (n := value) (d := 0) (by decide)
    (Nat.pos_of_ne_zero isNonzero) (by decide)
  rw [Nat.add_zero, Nat.mul_comm] at digits
  rw [digitCount, digitCount, if_neg isNonzero, if_neg (by omega), ← digits, List.length_append]
  rfl

/-- A factor of ten may stand with the coefficient or in the exponent. -/
theorem ofUnitQuotient_mul_ten (negative : Bool) (coefficient units : Nat) (exponent : Int) :
    (if 0 ≤ exponent then
      ofUnitQuotient negative (coefficient * 10 * 10 ^ exponent.toNat * units) 1
    else ofUnitQuotient negative (coefficient * 10 * units) (10 ^ (-exponent).toNat)) =
    if 0 ≤ exponent + 1 then
      ofUnitQuotient negative (coefficient * 10 ^ (exponent + 1).toNat * units) 1
    else ofUnitQuotient negative (coefficient * units) (10 ^ (-(exponent + 1)).toNat) := by
  rcases Int.lt_trichotomy exponent (-1) with isBelow | isMinusOne | isAbove
  · have power : (-exponent).toNat = (-(exponent + 1)).toNat + 1 := by omega
    rw [if_neg (by omega), if_neg (by omega), power, Nat.pow_succ, Nat.mul_right_comm]
    exact ofUnitQuotient_mul_right negative _ _ (by decide)
  · subst isMinusOne
    rw [if_neg (by decide), if_pos (by decide), Nat.mul_right_comm]
    have scaled := ofUnitQuotient_mul_right negative (coefficient * units) 1 (Nat.succ_pos 9)
    simpa using scaled
  · have power : (exponent + 1).toNat = exponent.toNat + 1 := by omega
    rw [if_pos (by omega), if_pos (by omega), power, Nat.pow_succ', Nat.mul_assoc coefficient]

theorem ofDecimal_mul_ten (negative : Bool) (coefficient : Nat) (exponent : Int) :
    ofDecimal negative (coefficient * 10) exponent =
      ofDecimal negative coefficient (exponent + 1) := by
  unfold ofDecimal
  by_cases isZero : coefficient = 0
  · rw [if_pos isZero, if_pos (by omega)]
  have leading : exponent + digitCount (coefficient * 10) =
      exponent + 1 + digitCount coefficient := by
    rw [digitCount_mul_ten isZero]
    omega
  rw [if_neg isZero, if_neg (by omega), leading, ofUnitQuotient_mul_ten]

/-- Zeros at the end of a coefficient may be taken into the exponent. -/
theorem ofDecimal_mul_pow_ten (negative : Bool) (coefficient zeros : Nat) (exponent : Int) :
    ofDecimal negative (coefficient * 10 ^ zeros) exponent =
      ofDecimal negative coefficient (exponent + zeros) := by
  induction zeros generalizing exponent with
  | zero => simp
  | succ zeros ih =>
    rw [Nat.pow_succ, ← Nat.mul_assoc, ofDecimal_mul_ten, ih]
    congr 1
    omega

/-- A value with a given sign in the place of its own. -/
def withSign (negative : Bool) : Binary64 → Binary64
  | nan => nan
  | infinity _ => infinity negative
  | finite _ magnitude => finite negative magnitude

theorem assemble_eq_withSign (negative : Bool) (significand scale : Nat) :
    assemble negative significand scale = (assemble false significand scale).withSign negative := by
  unfold assemble
  split <;> rfl

theorem ofUnitQuotient_eq_withSign (negative : Bool) (dividend divisor : Nat) :
    ofUnitQuotient negative dividend divisor =
      (ofUnitQuotient false dividend divisor).withSign negative := by
  simp only [ofUnitQuotient, apply_ite (withSign negative), ← assemble_eq_withSign]

/-- The sign of a decimal is the sign of the value. -/
theorem ofDecimal_eq_withSign (negative : Bool) (coefficient : Nat) (exponent : Int) :
    ofDecimal negative coefficient exponent =
      (ofDecimal false coefficient exponent).withSign negative := by
  simp only [ofDecimal, apply_ite (withSign negative), ← ofUnitQuotient_eq_withSign]
  rfl

theorem log2_unitCount {magnitude : Magnitude}
    (isNormal : 2 ^ (52 : Nat) ≤ magnitude.significand) :
    magnitude.unitCount.log2 = 52 + magnitude.scale := by
  have isShort := magnitude.significand_lt
  have isNonzero : magnitude.unitCount ≠ 0 :=
    Nat.mul_ne_zero (by omega) (Nat.ne_of_gt (Nat.two_pow_pos _))
  rw [Nat.log2_eq_iff isNonzero, Magnitude.unitCount, Nat.add_right_comm, Nat.pow_add, Nat.pow_add]
  exact ⟨Nat.mul_le_mul_right _ isNormal, Nat.mul_lt_mul_of_pos_right isShort (Nat.two_pow_pos _)⟩

/-- A magnitude stands at its own scale. -/
theorem scaleOf_unitCount (magnitude : Magnitude) :
    scaleOf magnitude.unitCount = magnitude.scale := by
  have isShort := magnitude.significand_lt
  rw [scaleOf]
  rcases Nat.eq_zero_or_pos magnitude.scale with isZero | isPositive
  · rw [if_pos, isZero]
    rw [Magnitude.unitCount, isZero, Nat.pow_zero, Nat.mul_one]
    exact isShort
  · have isNormal := magnitude.isNormal.resolve_left (Nat.ne_of_gt isPositive)
    have isLong : 2 ^ (53 : Nat) ≤ magnitude.unitCount := by
      calc 2 ^ (53 : Nat) = 2 ^ (52 : Nat) * 2 ^ (1 : Nat) := by decide
        _ ≤ magnitude.significand * 2 ^ magnitude.scale :=
          Nat.mul_le_mul isNormal (Nat.pow_le_pow_right (by decide) isPositive)
    rw [if_neg (Nat.not_lt.mpr isLong), log2_unitCount isNormal]
    omega

theorem roundQuotient_mul_self (value : Nat) {divisor : Nat} (isPositive : 0 < divisor) :
    roundQuotient (value * divisor) divisor = value := by
  simp only [roundQuotient, Nat.mul_mod_left, Nat.mul_zero, if_pos isPositive,
    Nat.mul_div_cancel _ isPositive]

/-- An exact quotient is not rounded. -/
theorem ofUnitQuotient_unitCount (negative : Bool) (magnitude : Magnitude) {divisor : Nat}
    (isPositive : 0 < divisor) :
    ofUnitQuotient negative (magnitude.unitCount * divisor) divisor =
      finite negative magnitude := by
  have exact : roundQuotient (magnitude.unitCount * divisor) (divisor * 2 ^ magnitude.scale) =
      magnitude.significand := by
    rw [Magnitude.unitCount, Nat.mul_assoc, Nat.mul_comm (2 ^ magnitude.scale)]
    exact roundQuotient_mul_self _ (Nat.mul_pos isPositive (Nat.two_pow_pos _))
  have isShort := magnitude.significand_lt
  simp only [ofUnitQuotient, Nat.mul_div_cancel _ isPositive, scaleOf_unitCount, exact]
  rw [if_neg (Nat.ne_of_lt isShort), assemble,
    dif_pos ⟨isShort, magnitude.isNormal, magnitude.scale_le⟩]

theorem digitCount_le_iff {value limit : Nat} (isNonzero : value ≠ 0) (isPositive : 0 < limit) :
    digitCount value ≤ limit ↔ value < 10 ^ limit := by
  rw [digitCount, if_neg isNonzero, Nat.length_toDigits_le_iff (by decide) isPositive]

/-- A decimal that is exactly a magnitude reads as it. -/
theorem ofDecimal_of_exact (negative : Bool) {magnitude : Magnitude} {coefficient places : Nat}
    (isNonzero : coefficient ≠ 0) (hasPlaces : 0 < places)
    (isExact : coefficient * 2 ^ (1074 : Nat) = magnitude.unitCount * 10 ^ places)
    (isLong : places ≤ digitCount coefficient + 400)
    (isShort : digitCount coefficient ≤ places + 400) :
    ofDecimal negative coefficient (-places) = finite negative magnitude := by
  have placesIs : (- -(places : Int)).toNat = places := by omega
  rw [ofDecimal, if_neg isNonzero]
  simp only [isExact, placesIs]
  rw [if_neg (by omega), if_neg (by omega), if_neg (by omega)]
  exact ofUnitQuotient_unitCount negative magnitude (Nat.pow_pos (by decide))

theorem unitCount_ne_zero {magnitude : Magnitude} (isNonzero : magnitude.significand ≠ 0) :
    magnitude.unitCount ≠ 0 :=
  Nat.mul_ne_zero isNonzero (Nat.ne_of_gt (Nat.two_pow_pos _))

theorem unitCount_lt (magnitude : Magnitude) :
    magnitude.unitCount < 2 ^ (53 : Nat) * 2 ^ (2045 : Nat) :=
  calc magnitude.significand * 2 ^ magnitude.scale < 2 ^ (53 : Nat) * 2 ^ magnitude.scale :=
        Nat.mul_lt_mul_of_pos_right magnitude.significand_lt (Nat.two_pow_pos _)
    _ ≤ 2 ^ (53 : Nat) * 2 ^ (2045 : Nat) :=
        Nat.mul_le_mul_left _ (Nat.pow_le_pow_right (by decide) magnitude.scale_le)

/-- A number that is at least one power of ten and below another has a digit count between them. -/
theorem digitCount_bounds {value low high : Nat} (hasHigh : 0 < high) (isLong : 10 ^ low ≤ value)
    (isShort : value < 10 ^ high) : low < digitCount value ∧ digitCount value ≤ high := by
  have isNonzero : value ≠ 0 := Nat.ne_of_gt (Nat.lt_of_lt_of_le (Nat.pow_pos (by decide)) isLong)
  refine ⟨?_, (digitCount_le_iff isNonzero hasHigh).mpr isShort⟩
  rcases Nat.eq_zero_or_pos low with isZero | isPositive
  · rw [isZero, digitCount, if_neg isNonzero]
    exact Nat.length_toDigits_pos
  · rw [← Nat.not_le, digitCount_le_iff isNonzero isPositive]
    exact Nat.not_lt.mpr isLong

end Binary64
namespace Decimal

/-- The digits of a magnitude written out in full. -/
theorem digitCount_exactly {magnitude : Magnitude} (isNonzero : magnitude.significand ≠ 0) :
    700 < Binary64.digitCount (exactly magnitude).coefficient ∧
      Binary64.digitCount (exactly magnitude).coefficient ≤ 1400 := by
  have fivesLarge : 10 ^ (700 : Nat) ≤ 5 ^ (1074 : Nat) := by decide +kernel
  have fivesSmall : 2 ^ (53 : Nat) * 2 ^ (2045 : Nat) * 5 ^ (1074 : Nat) ≤ 10 ^ (1400 : Nat) := by
    decide +kernel
  rw [exactly]
  -- The powers are generalized before anything tries to compute them.
  generalize 5 ^ (1074 : Nat) = fives at *
  have isPositive : 0 < fives := Nat.lt_of_lt_of_le (Nat.pow_pos (by decide)) fivesLarge
  apply Binary64.digitCount_bounds (by decide)
  · exact Nat.le_trans fivesLarge
      (Nat.le_mul_of_pos_left _ (Nat.pos_of_ne_zero (Binary64.unitCount_ne_zero isNonzero)))
  · exact Nat.lt_of_lt_of_le
      (Nat.mul_lt_mul_of_pos_right (Binary64.unitCount_lt magnitude) isPositive) fivesSmall

theorem fives_mul_twos (power : Nat) : 5 ^ power * 2 ^ power = 10 ^ power :=
  (Nat.mul_pow 5 2 power).symm

theorem ofDecimal_exactly {magnitude : Magnitude} (isNonzero : magnitude.significand ≠ 0) :
    Binary64.ofDecimal false (exactly magnitude).coefficient (exactly magnitude).exponent =
      .finite false magnitude := by
  obtain ⟨isLong, isShort⟩ := digitCount_exactly isNonzero
  have coefficientNonzero : (exactly magnitude).coefficient ≠ 0 := by
    intro isZero
    rw [isZero] at isLong
    cases isLong
  have isExact : (exactly magnitude).coefficient * 2 ^ (1074 : Nat) =
      magnitude.unitCount * 10 ^ (1074 : Nat) := by
    rw [exactly, Nat.mul_assoc, fives_mul_twos 1074]
  have reads : Binary64.ofDecimal false (exactly magnitude).coefficient (-(1074 : Nat)) =
      .finite false magnitude :=
    Binary64.ofDecimal_of_exact false coefficientNonzero (by decide) isExact (by omega) (by omega)
  exact reads

/-- The value of a decimal does not change when zeros at its end are dropped. -/
theorem ofDecimal_dropZeros (negative : Bool) (fuel : Nat) (decimal : Decimal) :
    Binary64.ofDecimal negative (dropZeros fuel decimal).coefficient
        (dropZeros fuel decimal).exponent =
      Binary64.ofDecimal negative decimal.coefficient decimal.exponent := by
  induction fuel generalizing decimal with
  | zero => rfl
  | succ fuel ih =>
    rw [dropZeros]
    split
    · next endsInZero =>
      rw [ih, ← Binary64.ofDecimal_mul_ten, Nat.div_mul_cancel (Nat.dvd_of_mod_eq_zero endsInZero)]
    · rfl

theorem eq_true_of_pick? {test : Decimal → Bool} {near : Decimal × Decimal × Bool}
    {decimal : Decimal} (picked : pick? test near = some decimal) : test decimal = true := by
  unfold pick? at picked
  grind

theorem readsAs_of_withDigits? {magnitude : Magnitude} {digits : Nat} {decimal : Decimal}
    (found : withDigits? magnitude digits = some decimal) : readsAs magnitude decimal = true :=
  eq_true_of_pick? found

/-- The shortest decimal of a magnitude reads as that magnitude. -/
theorem ofDecimal_shortest {magnitude : Magnitude} (isNonzero : magnitude.significand ≠ 0)
    (negative : Bool) :
    Binary64.ofDecimal negative (shortest magnitude).coefficient (shortest magnitude).exponent =
      .finite negative magnitude := by
  have found : ∀ decimal, ((List.range 17).findSome? fun index =>
      withDigits? magnitude (index + 1)).getD (exactly magnitude) = decimal →
      Binary64.ofDecimal false decimal.coefficient decimal.exponent = .finite false magnitude := by
    rintro _ rfl
    cases search : (List.range 17).findSome? fun index => withDigits? magnitude (index + 1) with
    | none => exact ofDecimal_exactly isNonzero
    | some decimal =>
      obtain ⟨index, -, tried⟩ := List.exists_of_findSome?_eq_some search
      exact of_decide_eq_true (readsAs_of_withDigits? tried)
  rw [shortest, ofDecimal_dropZeros, Binary64.ofDecimal_eq_withSign, found _ rfl]
  rfl

theorem coefficient_shortest_ne_zero {magnitude : Magnitude}
    (isNonzero : magnitude.significand ≠ 0) : (shortest magnitude).coefficient ≠ 0 := by
  intro isZero
  have reads := ofDecimal_shortest isNonzero false
  rw [Binary64.ofDecimal, if_pos isZero] at reads
  have isZero := congrArg Magnitude.significand (Binary64.finite.inj reads).2
  exact isNonzero isZero.symm

end Decimal
end SealedGateway
