/-!
# Binary floating point

A finite value is `significand * 2 ^ scale` in units of `2 ^ (-1074)`, the smallest positive
value, kept in canonical form: fifty-three bits, and the top one set unless the scale is zero.
Every value is made by rounding an exact quotient to the nearest representable one, ties to the
even significand.
-/

namespace SealedGateway

attribute [local instance (2000)] instPowNat

/-- A finite magnitude in canonical form. -/
structure Magnitude where
  /-- The significant bits as a number. -/
  significand : Nat
  /-- The power of two by which the significand is multiplied. -/
  scale : Nat
  significand_lt : significand < 2 ^ (53 : Nat)
  isNormal : scale = 0 ∨ 2 ^ (52 : Nat) ≤ significand
  scale_le : scale ≤ 2045
deriving DecidableEq

namespace Magnitude

/-- The magnitude zero. -/
def zero : Magnitude := ⟨0, 0, by decide, by decide, by decide⟩

/-- How many units of `2 ^ (-1074)` the magnitude has. -/
def unitCount (magnitude : Magnitude) : Nat :=
  magnitude.significand * 2 ^ magnitude.scale

end Magnitude

/-- A floating point value of sixty-four bits; all that is not a number is one value. -/
inductive Binary64
  | nan
  | infinity (negative : Bool)
  | finite (negative : Bool) (magnitude : Magnitude)
deriving DecidableEq

namespace Binary64

/-- The value with a given sign, significand and scale; infinite where that is out of range. -/
def assemble (negative : Bool) (significand scale : Nat) : Binary64 :=
  if isCanonical : significand < 2 ^ (53 : Nat) ∧
      (scale = 0 ∨ 2 ^ (52 : Nat) ≤ significand) ∧ scale ≤ 2045 then
    finite negative ⟨significand, scale, isCanonical.1, isCanonical.2.1, isCanonical.2.2⟩
  else infinity negative

/-- A quotient rounded to the nearest whole number, ties to the even one. -/
def roundQuotient (dividend divisor : Nat) : Nat :=
  let quotient := dividend / divisor
  let doubledRest := 2 * (dividend % divisor)
  if doubledRest < divisor then quotient
  else if divisor < doubledRest then quotient + 1
  else quotient + quotient % 2

/-- The power of two at which a count of units has fifty-three significant bits. -/
def scaleOf (units : Nat) : Nat :=
  if units < 2 ^ (53 : Nat) then 0 else units.log2 - 52

/-- The value nearest to `dividend / divisor` units of `2 ^ (-1074)`. -/
def ofUnitQuotient (negative : Bool) (dividend divisor : Nat) : Binary64 :=
  let scale := scaleOf (dividend / divisor)
  let rounded := roundQuotient dividend (divisor * 2 ^ scale)
  if rounded = 2 ^ (53 : Nat) then assemble negative (2 ^ (52 : Nat)) (scale + 1)
  else assemble negative rounded scale

/-- The number of decimal digits of a number, zero for zero. -/
def digitCount (value : Nat) : Nat :=
  if value = 0 then 0 else (Nat.toDigits 10 value).length

/-- The value nearest to `coefficient * 10 ^ exponent`.  Far out of range the answer needs no
arithmetic. -/
def ofDecimal (negative : Bool) (coefficient : Nat) (exponent : Int) : Binary64 :=
  if coefficient = 0 then finite negative Magnitude.zero
  else
    let leading := exponent + digitCount coefficient
    if 400 < leading then infinity negative
    else if leading < -400 then finite negative Magnitude.zero
    else if 0 ≤ exponent then
      ofUnitQuotient negative (coefficient * 10 ^ exponent.toNat * 2 ^ (1074 : Nat)) 1
    else ofUnitQuotient negative (coefficient * 2 ^ (1074 : Nat)) (10 ^ (-exponent).toNat)

/-- The value nearest to a whole number, unless that is out of range. -/
def ofInt? (value : Int) : Option Binary64 :=
  match ofDecimal (value < 0) value.natAbs 0 with
  | infinity _ => none
  | nearest => some nearest

/-- Zero, of either sign, as a value. -/
def zero (negative : Bool) : Binary64 := finite negative Magnitude.zero

/-- Whether a value is zero of either sign. -/
def isZero : Binary64 → Bool
  | finite _ magnitude => magnitude.significand == 0
  | _ => false

/-- Whether a value is a number that is at least zero. -/
def isNonnegative : Binary64 → Bool
  | nan => false
  | infinity negative => !negative
  | finite negative magnitude => !negative || magnitude.significand == 0

/-- Whether a value is a number that is at most a given whole number. -/
def isAtMost (value : Binary64) (limit : Nat) : Bool :=
  match value with
  | nan => false
  | infinity negative => negative
  | finite negative magnitude => negative || magnitude.unitCount ≤ limit * 2 ^ (1074 : Nat)

/-- The whole number next to a finite value in the direction of zero. -/
def truncate? : Binary64 → Option Int
  | finite negative magnitude =>
    let whole : Int := (magnitude.unitCount / 2 ^ (1074 : Nat) : Nat)
    some (if negative then -whole else whole)
  | _ => none

/-- Whether a finite value has a fractional part. -/
def hasFraction : Binary64 → Bool
  | finite _ magnitude => magnitude.unitCount % 2 ^ (1074 : Nat) != 0
  | _ => false

/-- The whole number that a value is, if it is one. -/
def toInt? (value : Binary64) : Option Int :=
  if value.hasFraction then none else value.truncate?

end Binary64
end SealedGateway
