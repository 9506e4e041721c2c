import SealedGateway.Json.Basic

/-!
# Reading JSON

The reader takes one value with blanks around it.  Beyond the standard grammar it takes `NaN`
and the two infinities; it refuses control characters inside text, whole numbers longer than the
digit limit, and brackets nested deeper than a limit.  Each scanner returns what it read and
what is left.
-/

namespace SealedGateway
namespace Json

/-- Why a text is not read. -/
inductive ReadFault
  | malformed
  | tooDeep
deriving DecidableEq

/-- What a scanner read and the text behind it. -/
abbrev Scan (α : Type) := Except ReadFault (α × WideText)

/-- Whether a symbol is a blank between tokens. -/
def isSpace (symbol : Symbol) : Bool :=
  symbol = .char ' ' || symbol = .char '\t' || symbol = .char '\n' || symbol = .char '\r'

/-- The text without the blanks at its head. -/
def skipSpace (input : WideText) : WideText :=
  input.dropWhile isSpace

/-- The text behind a literal that stands at its head. -/
def literal? (word : String) (input : WideText) : Option WideText :=
  let symbols := WideText.ofString word
  if symbols.isPrefixOf input then some (input.drop symbols.length) else none

/-- The value of a symbol that is a hexadecimal digit. -/
def hexValue? (symbol : Symbol) : Option Nat :=
  symbol.toChar?.bind Hex.digitValue?

/-- The code point of four hexadecimal digits and the text behind them. -/
def scanCode? : WideText → Option (Nat × WideText)
  | a :: b :: c :: d :: rest =>
    match hexValue? a, hexValue? b, hexValue? c, hexValue? d with
    | some a, some b, some c, some d => some (a * 0x1000 + b * 0x100 + c * 0x10 + d, rest)
    | _, _, _, _ => none
  | _ => none

/-- Whether a code point is the first half of a pair. -/
def isHighSurrogate (code : Nat) : Bool := 0xD800 ≤ code && code < 0xDC00

/-- Whether a code point is the second half of a pair. -/
def isLowSurrogate (code : Nat) : Bool := 0xDC00 ≤ code && code < 0xE000

/-- The symbol of a code point, with the replacement character for numbers that are none. -/
def symbolOf (code : Nat) : Symbol :=
  (Symbol.ofCode? code).getD (.char (Char.ofNat 0xFFFD))

/-- The symbol that an escape by number stands for, with the text behind it: two escapes in a row
whose code points form a pair stand for one character. -/
def scanNumberEscape? (input : WideText) : Option (Symbol × WideText) :=
  match scanCode? input with
  | none => none
  | some (high, rest) =>
    if isHighSurrogate high then
      match rest with
      | .char '\\' :: .char 'u' :: afterMark =>
        match scanCode? afterMark with
        | none => none
        | some (low, afterLow) =>
          if isLowSurrogate low then
            some (symbolOf (0x10000 + (high - 0xD800) * 0x400 + (low - 0xDC00)), afterLow)
          else some (symbolOf high, rest)
      | _ => some (symbolOf high, rest)
    else some (symbolOf high, rest)

/-- The symbol that a one-letter escape stands for. -/
def simpleEscape? (symbol : Symbol) : Option Symbol :=
  match symbol with
  | .char letter =>
    if letter.toNat = 34 then some (.char letter)
    else if letter = '\\' then some (.char '\\')
    else if letter = '/' then some (.char '/')
    else if letter = 'b' then some (.char (Char.ofNat 8))
    else if letter = 'f' then some (.char (Char.ofNat 12))
    else if letter = 'n' then some (.char '\n')
    else if letter = 'r' then some (.char '\r')
    else if letter = 't' then some (.char '\t')
    else none
  | .surrogate _ => none

/-- Reads the rest of a text up to the closing quote, looking at up to `fuel` symbols. -/
def scanText : (fuel : Nat) → WideText → Scan WideText
  | 0, _ => .error .malformed
  | _ + 1, [] => .error .malformed
  | fuel + 1, symbol :: rest =>
    if symbol.code = 34 then .ok ([], rest)
    else if symbol.code < 32 then .error .malformed
    else if symbol = .char '\\' then
      match rest with
      | [] => .error .malformed
      | escape :: afterEscape =>
        let scanned :=
          if escape = .char 'u' then scanNumberEscape? afterEscape
          else (simpleEscape? escape).map fun symbol => (symbol, afterEscape)
        match scanned with
        | none => .error .malformed
        | some (symbol, remaining) =>
          match scanText fuel remaining with
          | .ok (symbols, rest) => .ok (symbol :: symbols, rest)
          | .error fault => .error fault
    else
      match scanText fuel rest with
      | .ok (symbols, remaining) => .ok (symbol :: symbols, remaining)
      | .error fault => .error fault

/-- The ASCII digits at the head of a text and the text behind them. -/
def takeDigits : WideText → List Char × WideText
  | .char digit :: rest =>
    if Text.isAsciiDigit digit then
      let (digits, remaining) := takeDigits rest
      (digit :: digits, remaining)
    else ([], .char digit :: rest)
  | input => ([], input)

/-- The digits behind a point at the head of a text; no digits is no fraction. -/
def takeFraction : WideText → List Char × WideText
  | .char '.' :: rest =>
    match takeDigits rest with
    | ([], _) => ([], .char '.' :: rest)
    | (digits, remaining) => (digits, remaining)
  | input => ([], input)

/-- The exponent at the head of a text, if a complete one stands there. -/
def takeExponent (input : WideText) : Option Int × WideText :=
  match input with
  | .char mark :: rest =>
    if mark = 'e' ∨ mark = 'E' then
      let (negative, unsigned) := match rest with
        | .char '-' :: unsigned => (true, unsigned)
        | .char '+' :: unsigned => (false, unsigned)
        | unsigned => (false, unsigned)
      match takeDigits unsigned with
      | ([], _) => (none, input)
      | (digits, remaining) =>
        (some (Numeral.withSign negative (Numeral.ofDigits digits)), remaining)
    else (none, input)
  | _ => (none, input)

/-- The digits of the whole part of a number: a zero stands alone. -/
def takeWholePart (input : WideText) : List Char × WideText :=
  match input with
  | .char '0' :: rest => (['0'], rest)
  | _ => takeDigits input

/-- Reads a number whose sign has been read. -/
def scanNumber (negative : Bool) (input : WideText) : Scan Json :=
  let (wholePart, afterWhole) := takeWholePart input
  let (fraction, afterFraction) := takeFraction afterWhole
  let (exponent?, rest) := takeExponent afterFraction
  if wholePart.isEmpty then .error .malformed
  else if fraction.isEmpty && exponent?.isNone then
    if Numeral.digitLimit < wholePart.length then .error .malformed
    else .ok (.whole (Numeral.withSign negative (Numeral.ofDigits wholePart)), rest)
  else
    .ok (.real (Binary64.ofDecimal negative (Numeral.ofDigits (wholePart ++ fraction))
      (exponent?.getD 0 - fraction.length)), rest)

/-- Reads a value that is neither text nor in brackets. -/
def scanScalar (input : WideText) : Scan Json :=
  match literal? "null" input with
  | some rest => .ok (.null, rest)
  | none =>
  match literal? "true" input with
  | some rest => .ok (.flag true, rest)
  | none =>
  match literal? "false" input with
  | some rest => .ok (.flag false, rest)
  | none =>
  match literal? "NaN" input with
  | some rest => .ok (.real .nan, rest)
  | none =>
  match literal? "Infinity" input with
  | some rest => .ok (.real (.infinity false), rest)
  | none =>
  match literal? "-Infinity" input with
  | some rest => .ok (.real (.infinity true), rest)
  | none =>
  match input with
  | .char '-' :: unsigned => scanNumber true unsigned
  | _ => scanNumber false input

/-- Reads the elements of a list from the first one up to the closing bracket. -/
def scanItems (scanElement : WideText → Scan Json) : (fuel : Nat) → WideText → Scan (List Json)
  | 0, _ => .error .malformed
  | fuel + 1, input =>
    match scanElement input with
    | .error fault => .error fault
    | .ok (item, afterItem) =>
      match skipSpace afterItem with
      | .char ']' :: rest => .ok ([item], rest)
      | .char ',' :: rest =>
        match scanItems scanElement fuel (skipSpace rest) with
        | .error fault => .error fault
        | .ok (items, remaining) => .ok (item :: items, remaining)
      | _ => .error .malformed

/-- Reads the name of an entry and the colon behind it. -/
def scanName : WideText → Scan WideText
  | symbol :: rest =>
    if symbol.code = 34 then
      match scanText (rest.length + 1) rest with
      | .error fault => .error fault
      | .ok (name, afterName) =>
        match skipSpace afterName with
        | .char ':' :: remaining => .ok (name, skipSpace remaining)
        | _ => .error .malformed
    else .error .malformed
  | [] => .error .malformed

/-- Reads the entries of an object from the first one up to the closing bracket. -/
def scanEntries (scanElement : WideText → Scan Json) :
    (fuel : Nat) → WideText → Scan (List (WideText × Json))
  | 0, _ => .error .malformed
  | fuel + 1, input =>
    match scanName input with
    | .error fault => .error fault
    | .ok (name, afterName) =>
      match scanElement afterName with
      | .error fault => .error fault
      | .ok (value, afterValue) =>
        match skipSpace afterValue with
        | .char '\x7d' :: rest => .ok ([(name, value)], rest)
        | .char ',' :: rest =>
          match scanEntries scanElement fuel (skipSpace rest) with
          | .error fault => .error fault
          | .ok (entries, remaining) => .ok ((name, value) :: entries, remaining)
        | _ => .error .malformed

/-- Reads a value at the head of a text, with at most `depth` brackets around anything in it. -/
def scanValue : (depth : Nat) → WideText → Scan Json
  | _, [] => .error .malformed
  | depth, symbol :: rest =>
    if symbol.code = 34 then
      match scanText (rest.length + 1) rest with
      | .error fault => .error fault
      | .ok (input, remaining) => .ok (.text input, remaining)
    else if symbol = .char '[' then
      match depth with
      | 0 => .error .tooDeep
      | depth + 1 =>
        match skipSpace rest with
        | .char ']' :: remaining => .ok (.list [], remaining)
        | input =>
          match scanItems (scanValue depth) (input.length + 1) input with
          | .error fault => .error fault
          | .ok (items, remaining) => .ok (.list items, remaining)
    else if symbol = .char '\x7b' then
      match depth with
      | 0 => .error .tooDeep
      | depth + 1 =>
        match skipSpace rest with
        | .char '\x7d' :: remaining => .ok (.object [], remaining)
        | input =>
          match scanEntries (scanValue depth) (input.length + 1) input with
          | .error fault => .error fault
          | .ok (entries, remaining) => .ok (.object entries, remaining)
    else scanScalar (symbol :: rest)

/-- Reads a text that is one value with blanks around it and brackets no deeper than a limit. -/
def parseWithin (limit : Nat) (input : WideText) : Except ReadFault Json :=
  match scanValue limit (skipSpace input) with
  | .error fault => .error fault
  | .ok (value, rest) => if (skipSpace rest).isEmpty then .ok value else .error .malformed

/-- How deep brackets may be nested.  The reader recurses on a bounded stack and goes as deep as its
callers leave it room for; the number is what they leave in a program that calls it directly. -/
def nestingLimit : Nat := 990

/-- Reads a text that is one value with blanks around it. -/
def parse (input : WideText) : Except ReadFault Json :=
  parseWithin nestingLimit input

end Json
end SealedGateway
