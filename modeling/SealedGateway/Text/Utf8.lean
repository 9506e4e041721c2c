import SealedGateway.Bytes.Basic

/-!
# UTF-8

Text is written by its shortest UTF-8 forms.  Reading splits a byte string into units: a unit is
either a code point or one maximal part that begins no code point.  The strict reader refuses any
broken part; the forgiving reader puts one replacement character in the place of each.
-/

namespace SealedGateway
namespace Utf8

/-- The UTF-8 form of a code point below `0x110000`. -/
def encodeCode (code : Nat) : Bytes :=
  if code < 0x80 then [UInt8.ofNat code]
  else if code < 0x800 then
    [UInt8.ofNat (0xC0 + code / 0x40), UInt8.ofNat (0x80 + code % 0x40)]
  else if code < 0x10000 then
    [UInt8.ofNat (0xE0 + code / 0x1000), UInt8.ofNat (0x80 + code / 0x40 % 0x40),
      UInt8.ofNat (0x80 + code % 0x40)]
  else
    [UInt8.ofNat (0xF0 + code / 0x40000), UInt8.ofNat (0x80 + code / 0x1000 % 0x40),
      UInt8.ofNat (0x80 + code / 0x40 % 0x40), UInt8.ofNat (0x80 + code % 0x40)]

/-- The UTF-8 form of a list of characters. -/
def encodeChars (chars : List Char) : Bytes :=
  chars.flatMap fun char => encodeCode char.toNat

/-- The UTF-8 form of a text. -/
def encode (text : String) : Bytes :=
  encodeChars text.toList

/-- Whether a byte lies in a closed range. -/
def isWithin (low high : Nat) (byte : UInt8) : Bool :=
  low ≤ byte.toNat && byte.toNat ≤ high

/-- Whether a byte continues a form begun before it. -/
def isContinuation (byte : UInt8) : Bool :=
  isWithin 0x80 0xBF byte

/-- The six bits that a continuation byte carries. -/
def payload (byte : UInt8) : Nat :=
  byte.toNat - 0x80

/-- The bytes that may follow the first byte of a three-byte form: no code point has two forms, and
surrogates are read only where they are asked for. -/
def isSecondOfThree (surrogates : Bool) (first second : UInt8) : Bool :=
  if first.toNat = 0xE0 then isWithin 0xA0 0xBF second
  else if first.toNat = 0xED ∧ surrogates = false then isWithin 0x80 0x9F second
  else isContinuation second

/-- The bytes that may follow the first byte of a four-byte form: no code point has two forms, and
none lies above `0x10FFFF`. -/
def isSecondOfFour (first second : UInt8) : Bool :=
  if first.toNat = 0xF0 then isWithin 0x90 0xBF second
  else if first.toNat = 0xF4 then isWithin 0x80 0x8F second
  else isContinuation second

/-- The units of a byte string in order: code points, and `none` for each maximal part that begins
no code point.  With `surrogates` the three-byte forms of surrogate code points are read too. -/
def units (surrogates : Bool) : Bytes → List (Option Nat)
  | [] => []
  | first :: rest =>
    if first.toNat < 0x80 then some first.toNat :: units surrogates rest
    else if isWithin 0xC2 0xDF first then
      match rest with
      | [] => [none]
      | second :: rest =>
        if isContinuation second then
          some ((first.toNat - 0xC0) * 0x40 + payload second) :: units surrogates rest
        else none :: units surrogates (second :: rest)
    else if isWithin 0xE0 0xEF first then
      match rest with
      | [] => [none]
      | second :: rest =>
        if isSecondOfThree surrogates first second then
          match rest with
          | [] => [none]
          | third :: rest =>
            if isContinuation third then
              some ((first.toNat - 0xE0) * 0x1000 + payload second * 0x40 + payload third) ::
                units surrogates rest
            else none :: units surrogates (third :: rest)
        else none :: units surrogates (second :: rest)
    else if isWithin 0xF0 0xF4 first then
      match rest with
      | [] => [none]
      | second :: rest =>
        if isSecondOfFour first second then
          match rest with
          | [] => [none]
          | third :: rest =>
            if isContinuation third then
              match rest with
              | [] => [none]
              | fourth :: rest =>
                if isContinuation fourth then
                  some ((first.toNat - 0xF0) * 0x40000 + payload second * 0x1000 +
                    payload third * 0x40 + payload fourth) :: units surrogates rest
                else none :: units surrogates (fourth :: rest)
            else none :: units surrogates (third :: rest)
        else none :: units surrogates (second :: rest)
    else none :: units surrogates rest

/-- The characters of a byte string that is entirely well-formed. -/
def decodeChars? (bytes : Bytes) : Option (List Char) :=
  (units false bytes).mapM fun unit => unit.map Char.ofNat

/-- The text of a byte string that is entirely well-formed. -/
def decode? (bytes : Bytes) : Option String :=
  (decodeChars? bytes).map String.ofList

/-- The text of a byte string, with one replacement character for each broken part. -/
def decodeForgiving (bytes : Bytes) : String :=
  String.ofList ((units false bytes).map fun unit => Char.ofNat (unit.getD 0xFFFD))

end Utf8
end SealedGateway
