import SealedGateway.Bytes.Hex
import SealedGateway.Text.Printable
import SealedGateway.Text.Wide

/-!
# Quoted text

Messages quote the value they refuse.  The quote is a single one, unless the text holds single
quotes and no double ones; the backslash, the chosen quote and everything that is not printable
are escaped.  Bytes are quoted the same way behind the mark `b`, and only ASCII is shown as it
is.
-/

namespace SealedGateway
namespace Text

/-- The code point of the single quote. -/
def singleQuote : Nat := 39

/-- The code point of the double quote. -/
def doubleQuote : Nat := 34

/-- The quote that stands around a text with the given code points. -/
def chooseQuote (codes : List Nat) : Nat :=
  if codes.contains singleQuote && !codes.contains doubleQuote then doubleQuote else singleQuote

/-- A number in lower-case hexadecimal digits, padded with zeros to a width. -/
def paddedHex (width value : Nat) : List Char :=
  let digits := Nat.toDigits 16 value
  List.replicate (width - digits.length) '0' ++ digits

/-- The escape of a code point by its number. -/
def numberEscape (code : Nat) : List Char :=
  if code < 0x100 then '\\' :: 'x' :: paddedHex 2 code
  else if code < 0x10000 then '\\' :: 'u' :: paddedHex 4 code
  else '\\' :: 'U' :: paddedHex 8 code

/-- A code point inside quotes, shown as it is if it satisfies a test. -/
def quoteCode (isShown : Nat → Bool) (quote code : Nat) : List Char :=
  if code = quote ∨ code = 92 then ['\\', Char.ofNat code]
  else if code = 9 then ['\\', 't']
  else if code = 10 then ['\\', 'n']
  else if code = 13 then ['\\', 'r']
  else if isShown code then [Char.ofNat code]
  else numberEscape code

/-- Code points between quotes. -/
def quoteCodes (isShown : Nat → Bool) (codes : List Nat) : List Char :=
  let quote := chooseQuote codes
  Char.ofNat quote :: codes.flatMap (quoteCode isShown quote) ++ [Char.ofNat quote]

/-- The quoted form of a wide text. -/
def quoteWide (text : WideText) : String :=
  String.ofList (quoteCodes isPrintable (text.map Symbol.code))

/-- The quoted form of a text. -/
def quote (text : String) : String :=
  quoteWide (WideText.ofString text)

/-- The quoted form of a byte string. -/
def quoteBytes (bytes : Bytes) : String :=
  String.ofList ('b' :: quoteCodes (fun code => 32 ≤ code && code < 127) (bytes.map UInt8.toNat))

end Text
end SealedGateway
