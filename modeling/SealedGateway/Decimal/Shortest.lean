import SealedGateway.Decimal.Binary64

/-!
# Shortest decimal text of a floating point value

A finite value is written with the fewest digits that read back as the same value and, of those,
the nearest; of two that are equally near, the one whose last digit is even.  On the grid of
decimals with a given number of digits only the two neighbours of the value can be nearest, so
these two are tried for one digit, two digits and so on.
-/

namespace SealedGateway

attribute [local instance (2000)] instPowNat

/-- The decimal `coefficient * 10 ^ exponent`. -/
structure Decimal where
  /-- The digits as a number. -/
  coefficient : Nat
  /-- The power of ten by which the coefficient is multiplied. -/
  exponent : Int
deriving DecidableEq

namespace Decimal

/-- The same decimal without zeros at the end of its coefficient, looking at up to `fuel` digits. -/
def dropZeros : (fuel : Nat) → Decimal → Decimal
  | 0, decimal => decimal
  | fuel + 1, decimal =>
    if decimal.coefficient % 10 = 0 then
      dropZeros fuel ⟨decimal.coefficient / 10, decimal.exponent + 1⟩
    else decimal

/-- The decimal that is exactly a given magnitude. -/
def exactly (magnitude : Magnitude) : Decimal :=
  ⟨magnitude.unitCount * 5 ^ (1074 : Nat), -1074⟩

/-- Whether a decimal reads as a given magnitude. -/
def readsAs (magnitude : Magnitude) (decimal : Decimal) : Bool :=
  Binary64.ofDecimal false decimal.coefficient decimal.exponent = .finite false magnitude

/-- The decimal places kept when a magnitude is scaled to a whole number; with these the smallest
magnitude still has seventeen digits. -/
def scaledPlaces : Nat := 341

/-- The neighbours of a magnitude on the grid of decimals with a given number of digits, the lower
one first, and whether the upper one is nearer.  Halfway between them the one with an even last
digit counts as nearer. -/
def neighbours (magnitude : Magnitude) (digits : Nat) : Decimal × Decimal × Bool :=
  let scaled := magnitude.unitCount * 10 ^ scaledPlaces
  let dropped := (Nat.toDigits 10 (scaled / 2 ^ (1074 : Nat))).length - digits
  let step := 10 ^ dropped * 2 ^ (1074 : Nat)
  let lower := scaled / step
  let doubledRest := 2 * (scaled % step)
  let exponent : Int := dropped - scaledPlaces
  (⟨lower, exponent⟩, ⟨lower + 1, exponent⟩,
    step < doubledRest || (step = doubledRest && lower % 2 = 1))

/-- Of two neighbours the nearer one if it passes a test, or else the other one. -/
def pick? (test : Decimal → Bool) : Decimal × Decimal × Bool → Option Decimal
  | (lower, upper, isUpperNearer) =>
    let (first, second) := if isUpperNearer then (upper, lower) else (lower, upper)
    if test first then some first
    else if test second then some second
    else none

/-- The nearest decimal with a given number of digits that reads as a given magnitude. -/
def withDigits? (magnitude : Magnitude) (digits : Nat) : Option Decimal :=
  -- The neighbours are handed to a function: the kernel would compute ones that are matched on.
  pick? (readsAs magnitude) (neighbours magnitude digits)

/-- The shortest decimal that reads as a given magnitude. -/
def shortest (magnitude : Magnitude) : Decimal :=
  let found := (List.range 17).findSome? fun index => withDigits? magnitude (index + 1)
  dropZeros 17 (found.getD (exactly magnitude))

/-- How a decimal is laid out as text. -/
structure Layout where
  /-- The point is written out while it stands more than this many places before the digits. -/
  leastPoint : Int
  /-- The point is written out while it stands at most this many places into the digits. -/
  greatestPoint : Int
  /-- The least number of digits of a written exponent. -/
  exponentDigits : Nat
  /-- The text of the infinite value. -/
  infinityText : String
  /-- The text of the value that is not a number. -/
  nanText : String

/-- Text padded on the left with zeros. -/
def padZeros (width : Nat) (digits : List Char) : List Char :=
  List.replicate (width - digits.length) '0' ++ digits

/-- The text of a positive decimal under a layout. -/
def layOut (layout : Layout) (decimal : Decimal) : List Char :=
  let digits := Nat.toDigits 10 decimal.coefficient
  let point : Int := digits.length + decimal.exponent
  if layout.leastPoint < point ∧ point ≤ layout.greatestPoint then
    if point ≤ 0 then ['0', '.'] ++ List.replicate (-point).toNat '0' ++ digits
    else
      let before := point.toNat
      if before < digits.length then digits.take before ++ ['.'] ++ digits.drop before
      else digits ++ List.replicate (before - digits.length) '0' ++ ['.', '0']
  else
    let power := point - 1
    let sign := if power < 0 then '-' else '+'
    let fraction := if digits.length = 1 then [] else '.' :: digits.drop 1
    digits.take 1 ++ fraction ++ ['e', sign] ++
      padZeros layout.exponentDigits (Nat.toDigits 10 power.natAbs)

/-- The text of a value under a layout. -/
def print (layout : Layout) : Binary64 → List Char
  | .nan => layout.nanText.toList
  | .infinity negative => (if negative then ['-'] else []) ++ layout.infinityText.toList
  | .finite negative magnitude =>
    (if negative then ['-'] else []) ++
      (if magnitude.significand = 0 then ['0', '.', '0'] else layOut layout (shortest magnitude))

/-- Positional from `0.0001` to below `10 ^ 16`, exponents with a sign and two digits, and the
infinite value named in full: the spelling of numbers in descriptors. -/
def descriptorLayout : Layout := ⟨-4, 16, 2, "Infinity", "NaN"⟩

/-- The spelling of numbers shown to a reader: the same layout with the short names. -/
def shownLayout : Layout := { descriptorLayout with infinityText := "inf", nanText := "nan" }

end Decimal
end SealedGateway
