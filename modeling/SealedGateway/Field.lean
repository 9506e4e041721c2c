import SealedGateway.Value

/-!
# Reading fields leniently

Fields of records accept a value of their own kind and some spellings of it in other kinds: a
number may be written as text, a flag as a word or a number, text as its bytes.  Each reader
says why it refuses what it refuses.
-/

namespace SealedGateway

attribute [local instance (2000)] instPowNat

namespace Field

/-- The text that a value spells, if it is text or well-formed bytes; the fault is the one for bytes
that are not well-formed. -/
def spelling? (broken : FieldFault) : Value → Option (Except FieldFault (List Char))
  | .text text =>
    match text.toChars? with
    | some chars => some (.ok chars)
    | none => some (.error .brokenText)
  | .octets bytes =>
    match Utf8.decodeChars? bytes with
    | some chars => some (.ok chars)
    | none => some (.error broken)
  | _ => none

/-- The words for "false". -/
def falseWords : List String := ["0", "f", "n", "no", "off", "false"]

/-- The words for "true". -/
def trueWords : List String := ["1", "t", "y", "on", "yes", "true"]

/-- The flag that a word stands for, in either case. -/
def readFlagWord (chars : List Char) : Except FieldFault Bool :=
  let word := String.ofList (chars.map Numeral.lowerAscii)
  if falseWords.contains word then .ok false
  else if trueWords.contains word then .ok true
  else .error .unreadableFlag

/-- The flag that a number stands for. -/
def readFlagNumber (number : Int) : Except FieldFault Bool :=
  if number = 0 then .ok false else if number = 1 then .ok true else .error .unreadableFlag

/-- The whole number that a floating point value is, within the range of a signed word. -/
def readWholeReal (value : Binary64) : Except FieldFault Int :=
  match value with
  | .nan | .infinity _ => .error .notFinite
  | .finite _ _ =>
    match value.toInt? with
    | none => .error .fractional
    | some number =>
      if -(2 ^ (63 : Nat) : Int) < number ∧ number < 2 ^ (63 : Nat) then .ok number
      else .error .wholeTooLong

/-- Reads a flag. -/
def readFlag (value : Value) : Except FieldFault Bool :=
  match spelling? .unreadableFlag value with
  | some (.error fault) => .error fault
  | some (.ok chars) => readFlagWord chars
  | none =>
    match value with
    | .flag flag => .ok flag
    | .real real =>
      match readWholeReal real with
      | .ok number => readFlagNumber number
      | .error _ => .error .notFlag
    | value =>
      match value.index? with
      | some number =>
        if -(2 ^ (63 : Nat) : Int) ≤ number ∧ number < 2 ^ (63 : Nat) then readFlagNumber number
        else .error .notFlag
      | none => .error .notFlag

/-- What stands behind the zeros at the head of a numeral: a digit, or a minus sign.  A zero stays
before a point and at the end, and low lines among the zeros are passed over. -/
def dropLeadingZeros? (previous : Char) : List Char → Option (List Char)
  | [] => some [previous]
  | char :: rest =>
    if char = '0' ∨ char = '_' then dropLeadingZeros? char rest
    else if Text.isAsciiDigit char ∨ char = '-' then some (char :: rest)
    else if char = '.' then some (previous :: char :: rest)
    else none

/-- A numeral, which must begin with a digit, without zeros at its head. -/
def withoutLeadingZeros? : List Char → Option (List Char)
  | [] => none
  | char :: rest =>
    if char = '0' then dropLeadingZeros? char rest
    else if Text.isAsciiDigit char then some (char :: rest)
    else none

/-- A numeral without a fraction of zeros.  A point alone is no fraction. -/
def withoutZeroFraction (chars : List Char) : List Char :=
  let whole := chars.takeWhile (· != '.')
  match chars.dropWhile (· != '.') with
  | _ :: fraction => if !fraction.isEmpty && fraction.all (· == '0') then whole else chars
  | [] => chars

/-- Whether two low lines stand side by side. -/
def hasDoubleLowLine : List Char → Bool
  | '_' :: '_' :: _ => true
  | _ :: rest => hasDoubleLowLine rest
  | [] => false

/-- A numeral without low lines, unless they stand at an end or side by side. -/
def withoutLowLines? (chars : List Char) : Option (List Char) :=
  if chars.head? = some '_' ∨ chars.getLast? = some '_' ∨ hasDoubleLowLine chars ∨
      ¬ chars.contains '_' then none
  else some (chars.filter (· != '_'))

/-- A spelled whole number in plain form: no blanks, no plus sign, no zeros at its head, no fraction
and no low lines. -/
def plainWhole? (chars : List Char) : Option (List Char) :=
  let (negative, unsigned) := Numeral.splitSign (Text.trim Text.isWhiteSpace chars)
  match withoutLeadingZeros? unsigned with
  | none => none
  | some digits =>
    let whole := withoutZeroFraction digits
    let plain := (withoutLowLines? whole).getD whole
    some (if negative then '-' :: plain else plain)

/-- The whole number written in plain form. -/
def readPlainWhole (chars : List Char) : Except FieldFault Int :=
  let (negative, unsigned) := match chars with
    | '-' :: rest => (true, rest)
    | chars => (false, chars)
  let digits := unsigned.takeWhile Text.isAsciiDigit
  match digits with
  | [] => .error .unreadableWhole
  | first :: others =>
    if first = '0' then
      if unsigned.length = 1 then .ok 0 else .error .unreadableWhole
    else if Numeral.digitLimit < others.length + 1 + (if negative then 1 else 0) then
      .error .wholeTooLong
    else if digits.length = unsigned.length then
      .ok (Numeral.withSign negative (Numeral.ofDigits digits))
    else .error .unreadableWhole

/-- The whole number that a text spells. -/
def readWholeText (chars : List Char) : Except FieldFault Int :=
  match plainWhole? chars with
  | none => .error .unreadableWhole
  | some plain => readPlainWhole plain

/-- Reads a whole number. -/
def readWhole (value : Value) : Except FieldFault Int :=
  match spelling? .unreadableWhole value with
  | some (.error fault) => .error fault
  | some (.ok chars) => readWholeText chars
  | none =>
    match value with
    | .real real => readWholeReal real
    | value =>
      match value.index? with
      | some number => .ok number
      | none => .error .notWhole

/-- Reads a whole number that is not negative. -/
def readCount (value : Value) : Except FieldFault Nat :=
  match readWhole value with
  | .error fault => .error fault
  | .ok number => if 0 ≤ number then .ok number.toNat else .error .belowZero

/-- The greatest size of a file in bytes. -/
def sizeLimit : Nat := 0xFFFFFFFF

/-- Reads the size of a file. -/
def readSize (value : Value) : Except FieldFault Nat :=
  match readCount value with
  | .error fault => .error fault
  | .ok size => if size ≤ sizeLimit then .ok size else .error .aboveSizeLimit

/-- The floating point value that a text spells: with blanks around it, or else with low lines in
it. -/
def readRealText (chars : List Char) : Except FieldFault Binary64 :=
  match Numeral.readReal? (Text.trim Text.isWhiteSpace chars) with
  | some value => .ok value
  | none =>
    match (withoutLowLines? chars).bind Numeral.readReal? with
    | some value => .ok value
    | none => .error .unreadableReal

/-- Reads a floating point value. -/
def readReal (value : Value) : Except FieldFault Binary64 :=
  match spelling? .unreadableReal value with
  | some (.error fault) => .error fault
  | some (.ok chars) => readRealText chars
  | none =>
    match value with
    | .real real => .ok real
    | value =>
      match value.index?.bind Binary64.ofInt? with
      | some real => .ok real
      | none => .error .notReal

/-- Reads a length of time. -/
def readDuration (value : Value) : Except FieldFault Duration :=
  match readReal value with
  | .error fault => .error fault
  | .ok real =>
    if isNonnegative : real.isNonnegative = true then .ok ⟨real, isNonnegative⟩
    else .error .belowZero

/-- Reads text.  The members of enumerations are spelled by their numbers. -/
def readText : Value → Except FieldFault WideText
  | .text text => .ok text
  | .octets bytes | .buffer bytes =>
    match Utf8.decodeChars? bytes with
    | some chars => .ok (WideText.ofChars chars)
    | none => .error .brokenText
  | .rendering rendering => .ok (WideText.ofString (decimalText rendering.code))
  | .receiptStatus status => .ok (WideText.ofString (decimalText status.code))
  | .messageKind kind => .ok (WideText.ofString (decimalText kind.code))
  | _ => .error .notText

/-- Reads bytes; text stands for its UTF-8 form. -/
def readOctets : Value → Except FieldFault Bytes
  | .octets bytes | .buffer bytes => .ok bytes
  | .text text =>
    match text.encode? with
    | some bytes => .ok bytes
    | none => .error .brokenText
  | _ => .error .notOctets

/-- Reads a field that may be left out or null. -/
def readOptional {α : Type} (read : Value → Except FieldFault α) :
    Option Value → Except FieldFault (Option α)
  | none | some .null => .ok none
  | some value => (read value).map some

/-- Reads a field that must be there. -/
def readRequired {α : Type} (read : Value → Except FieldFault α) :
    Option Value → Except FieldFault α
  | none => .error .required
  | some value => read value

/-- The entries of a dictionary whose names are ordinary text. -/
def namedEntries (entries : List (WideText × Value)) : List (String × Value) :=
  entries.filterMap fun (name, value) => name.toString?.map fun name => (name, value)

/-- The value of a field by its name. -/
def find? (name : String) (fields : List (String × Value)) : Option Value :=
  (fields.find? fun field => field.1 = name).map Prod.snd

/-- The fault of a reading, if it has one. -/
def fault? {α : Type} : Except FieldFault α → Option FieldFault
  | .ok _ => none
  | .error fault => some fault

/-- The faults of a record, each with the place where it stands. -/
def faultsAt (readings : List (String × Option FieldFault)) : List (String × FieldFault) :=
  readings.filterMap fun (place, fault?) => fault?.map fun fault => (place, fault)

end Field
end SealedGateway
