import SealedGateway.Decimal.Binary64
import SealedGateway.Text.Digits

/-!
# Reading numerals

A numeral is a run of digits, with a fraction and an exponent where it stands for a floating point
value.  The longest numeral that descriptors and settings may hold has `digitLimit` digits.
-/

namespace SealedGateway
namespace Numeral

/-- The greatest number of digits of a whole number in text. -/
def digitLimit : Nat := 4300

/-- The number written by ASCII digits. -/
def ofDigits (digits : List Char) : Nat :=
  digits.foldl (fun value digit => 10 * value + (digit.toNat - 48)) 0

/-- The sign at the head of a text and what follows it. -/
def splitSign : List Char → Bool × List Char
  | '-' :: rest => (true, rest)
  | '+' :: rest => (false, rest)
  | chars => (false, chars)

/-- A number with a sign. -/
def withSign (negative : Bool) (value : Nat) : Int :=
  if negative then -(value : Int) else value

/-- The exponent at the head of a text: nothing there is the exponent zero, and the whole text is
used up. -/
def readExponent? : List Char → Option Int
  | [] => some 0
  | mark :: rest =>
    if mark = 'e' ∨ mark = 'E' then
      let (negative, digits) := splitSign rest
      if digits ≠ [] ∧ digits.all Text.isAsciiDigit then
        some (withSign negative (ofDigits digits))
      else none
    else none

/-- An unsigned numeral: digits before or after the point, then perhaps an exponent. -/
def readUnsigned? (negative : Bool) (chars : List Char) : Option Binary64 :=
  let whole := chars.takeWhile Text.isAsciiDigit
  let rest := chars.dropWhile Text.isAsciiDigit
  let afterPoint := match rest with
    | '.' :: afterPoint => afterPoint
    | _ => []
  let fraction := afterPoint.takeWhile Text.isAsciiDigit
  let rest := match rest with
    | '.' :: afterPoint => afterPoint.dropWhile Text.isAsciiDigit
    | rest => rest
  if whole.isEmpty && fraction.isEmpty then none
  else (readExponent? rest).map fun exponent =>
    Binary64.ofDecimal negative (ofDigits (whole ++ fraction)) (exponent - fraction.length)

/-- The lower-case form of an ASCII letter. -/
def lowerAscii (char : Char) : Char :=
  if 65 ≤ char.toNat ∧ char.toNat ≤ 90 then Char.ofNat (char.toNat + 32) else char

/-- A numeral for a floating point value, with a sign and the names of the values that have no
digits in either case. -/
def readReal? (chars : List Char) : Option Binary64 :=
  let (negative, magnitude) := splitSign chars
  let name := magnitude.map lowerAscii
  if name = "inf".toList ∨ name = "infinity".toList then some (.infinity negative)
  else if name = "nan".toList then some .nan
  else readUnsigned? negative magnitude

end Numeral
end SealedGateway
