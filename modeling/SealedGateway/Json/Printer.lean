import SealedGateway.Json.Basic

/-!
# Writing JSON

The compact form: no blanks, names in the order of the object, every character as it is except
quotes, backslashes and control characters.  Numbers longer than the digit limit are not written.
-/

namespace SealedGateway
namespace Json

/-- A symbol inside quotes. -/
def printSymbol (symbol : Symbol) : List Symbol :=
  let code := symbol.code
  if code = 34 then WideText.ofChars ['\\', Char.ofNat 34]
  else if code = 92 then WideText.ofChars ['\\', '\\']
  else if code = 8 then WideText.ofChars ['\\', 'b']
  else if code = 9 then WideText.ofChars ['\\', 't']
  else if code = 10 then WideText.ofChars ['\\', 'n']
  else if code = 12 then WideText.ofChars ['\\', 'f']
  else if code = 13 then WideText.ofChars ['\\', 'r']
  else if code < 32 then WideText.ofChars ('\\' :: 'u' :: Text.paddedHex 4 code)
  else [symbol]

/-- The quote around text. -/
def quoteSymbol : Symbol := .char (Char.ofNat 34)

/-- Text between quotes. -/
def printText (text : WideText) : WideText :=
  quoteSymbol :: text.flatMap printSymbol ++ [quoteSymbol]

/-- A whole number in decimal digits. -/
def printWhole (value : Int) : Except ValueFault WideText :=
  let digits := Nat.toDigits 10 value.natAbs
  if Numeral.digitLimit < digits.length then .error .numberTooLongToShow
  else .ok (WideText.ofChars ((if value < 0 then ['-'] else []) ++ digits))

/-- Written parts with a comma between neighbours. -/
def joinCommas : List WideText → WideText
  | [] => []
  | [last] => last
  | first :: rest => first ++ .char ',' :: joinCommas rest

mutual

/-- The compact form of a value. -/
def print : Json → Except ValueFault WideText
  | null => .ok (WideText.ofString "null")
  | flag value => .ok (WideText.ofString (if value then "true" else "false"))
  | whole value => printWhole value
  | real value => .ok (WideText.ofChars (Decimal.print Decimal.descriptorLayout value))
  | text value => .ok (printText value)
  | list items =>
    match printItems items with
    | .ok parts => .ok (.char '[' :: joinCommas parts ++ [.char ']'])
    | .error fault => .error fault
  | object entries =>
    match printEntries entries with
    | .ok parts => .ok (.char '\x7b' :: joinCommas parts ++ [.char '\x7d'])
    | .error fault => .error fault

/-- The compact forms of the elements of a list. -/
def printItems : List Json → Except ValueFault (List WideText)
  | [] => .ok []
  | item :: rest =>
    match print item, printItems rest with
    | .ok part, .ok parts => .ok (part :: parts)
    | .error fault, _ => .error fault
    | _, .error fault => .error fault

/-- The compact forms of the entries of an object. -/
def printEntries : List (WideText × Json) → Except ValueFault (List WideText)
  | [] => .ok []
  | (name, value) :: rest =>
    match print value, printEntries rest with
    | .ok part, .ok parts => .ok ((printText name ++ .char ':' :: part) :: parts)
    | .error fault, _ => .error fault
    | _, .error fault => .error fault

end

end Json
end SealedGateway
