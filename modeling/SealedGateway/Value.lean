import SealedGateway.Decimal.Numeral
import SealedGateway.Descriptor.Metadata
import SealedGateway.Failure
import SealedGateway.Identifier
import SealedGateway.Message.Kind
import SealedGateway.Text.Blank

/-!
# Loosely typed values

Callers hand over keys, payloads and fields in several forms.  A value is one such argument; the
operations say which kinds they take and what they make of each.
-/

namespace SealedGateway

attribute [local instance (2000)] instPowNat

/-- An argument as a caller hands it over. -/
inductive Value
  | null
  | flag (value : Bool)
  | whole (value : Int)
  | real (value : Binary64)
  | text (value : WideText)
  | octets (bytes : Bytes)
  /-- Bytes that their owner may still change. -/
  | buffer (bytes : Bytes)
  | list (items : List Value)
  | dict (entries : List (WideText × Value))
  | blobId (blobId : BlobId)
  | symmetricKey (key : SymmetricKey)
  | recipientKey (key : RecipientKey)
  | publicKey (key : PublicKey)
  | privateKey (key : PrivateKey)
  | rendering (rendering : Rendering)
  | receiptStatus (status : ReceiptStatus)
  | messageKind (kind : MessageKind)
  | metadata (metadata : Metadata)
  /-- A value of a kind that no operation takes apart. -/
  | foreign

namespace Value

/-- Ordinary text as a value. -/
def ofString (text : String) : Value := .text (WideText.ofString text)

/-- The whole number that a value of a counting kind is. -/
def index? : Value → Option Int
  | flag value => some (if value then 1 else 0)
  | whole value => some value
  | rendering value => some value.code
  | receiptStatus value => some value.code
  | messageKind value => some value.code
  | _ => none

/-- The whole number that a value equals. -/
def equalInt? : Value → Option Int
  | real value => value.toInt?
  | value => value.index?

/-- The number of elements of a value that has elements. -/
def length? : Value → Option Nat
  | text value => some value.length
  | octets bytes => some bytes.length
  | buffer bytes => some bytes.length
  | list items => some items.length
  | dict entries => some entries.length
  | _ => none

/-- The number of elements of a value, which must have elements. -/
def length (value : Value) : Except Failure Nat :=
  match value.length? with
  | some length => .ok length
  | none => .error .wrongKind

/-- Whether a value counts as true: numbers other than zero, and whatever is not empty. -/
def isTrue : Value → Bool
  | null => false
  | real value => !value.isZero
  | value =>
    match value.index?, value.length? with
    | some number, _ => number != 0
    | _, some length => length != 0
    | none, none => true

/-- The bytes of a value that is a byte string. -/
def byteString? : Value → Option Bytes
  | octets bytes => some bytes
  | buffer bytes => some bytes
  | _ => none

/-- The bytes of a value that represents a key or an identifier by itself. -/
def ownBytes? : Value → Option Bytes
  | blobId id => some id.octets.toList
  | recipientKey key => some key.octets.toList
  | symmetricKey key => some key.octets.toList
  | _ => none

/-- A value as one byte. -/
def toByte (value : Value) : Except Failure UInt8 :=
  match value.index? with
  | none => .error .wrongKind
  | some number =>
    if 0 ≤ number ∧ number < 256 then .ok (UInt8.ofNat number.toNat)
    else .error (.badValue .byteRange)

/-- The bytes that a value is converted to: byte strings and identifiers as they are, lists byte by
byte, and a count as that many zeros. -/
def toBytes : Value → Except Failure Bytes
  | octets bytes => .ok bytes
  | buffer bytes => .ok bytes
  | blobId id => .ok id.octets.toList
  | publicKey key => .ok key.octets.toList
  | privateKey key => .ok key.octets.toList
  | list items => items.mapM toByte
  | dict [] => .ok []
  | value =>
    match value.index? with
    | none => .error .wrongKind
    | some count =>
      if count < 0 then .error (.badValue .negativeCount)
      else if 2 ^ (63 : Nat) ≤ count then .error .overflow
      else .ok (List.replicate count.toNat 0)

section ByteString

variable {value : Value} {bytes : Bytes}

theorem length_of_byteString? (isBytes : value.byteString? = some bytes) :
    value.length = .ok bytes.length := by
  cases value <;> cases isBytes <;> rfl

theorem toBytes_of_byteString? (isBytes : value.byteString? = some bytes) :
    value.toBytes = .ok bytes := by
  cases value <;> cases isBytes <;> rfl

end ByteString

/-- The spelling of a flag. -/
def flagText (value : Bool) : String :=
  if value then "True" else "False"

/-- The spelling of a member of an enumeration. -/
def memberText (enumeration name : String) (code : Nat) : String :=
  "<" ++ enumeration ++ "." ++ name ++ ": " ++ decimalText code ++ ">"

/-- The spelling of a hint that may be absent. -/
def optionText {α : Type} (spell : α → String) : Option α → String
  | none => "None"
  | some value => spell value

/-- The spelling of a floating point value. -/
def realText (value : Binary64) : String :=
  String.ofList (Decimal.print Decimal.shownLayout value)

/-- The spelling of rendering hints. -/
def metadataText (metadata : Metadata) : String :=
  "FileMetadata(animated=" ++ optionText flagText metadata.animated ++
    ", height=" ++ optionText decimalText metadata.height ++
    ", width=" ++ optionText decimalText metadata.width ++
    ", duration_seconds=" ++ optionText (fun duration => realText duration.seconds)
      metadata.duration ++ ")"

mutual

/-- The spelling of a value in messages that refuse it. -/
def shown : Value → String
  | null => "None"
  | flag value => flagText value
  | whole value => wholeText value
  | real value => realText value
  | text value => Text.quoteWide value
  | octets bytes => Text.quoteBytes bytes
  | buffer bytes => "bytearray(" ++ Text.quoteBytes bytes ++ ")"
  | list items => "[" ++ joinTexts ", " (shownItems items) ++ "]"
  | dict entries => "\x7b" ++ joinTexts ", " (shownEntries entries) ++ "\x7d"
  | blobId id => "BlobId('" ++ id.text ++ "')"
  | symmetricKey _ => "SymmetricKey(<oculta>)"
  | recipientKey key => "RecipientKey('" ++ key.text ++ "')"
  | rendering value => memberText "RenderingType" value.name value.code
  | receiptStatus value => memberText "DeliveryReceiptStatus" value.name value.code
  | messageKind value => memberText "MessageType" value.name value.code
  | metadata value => metadataText value
  | publicKey _ | privateKey _ | foreign => "<object>"

/-- The spellings of the elements of a list. -/
def shownItems : List Value → List String
  | [] => []
  | item :: rest => shown item :: shownItems rest

/-- The spellings of the entries of a dictionary. -/
def shownEntries : List (WideText × Value) → List String
  | [] => []
  | (name, value) :: rest => (Text.quoteWide name ++ ": " ++ shown value) :: shownEntries rest

end

/-- Splits the digits at the head of a numeral from what follows: digits may be parted by single low
lines.  The flag says whether a digit must come next. -/
def splitDigits (value? : Char → Option Nat) :
    (needsDigit : Bool) → List Char → List Nat × Bool × List Char
  | needsDigit, [] => ([], !needsDigit, [])
  | needsDigit, char :: rest =>
    match value? char with
    | some digit =>
      let (digits, isComplete, remaining) := splitDigits value? false rest
      (digit :: digits, isComplete, remaining)
    | none =>
      if char = '_' ∧ needsDigit = false then splitDigits value? true rest
      else ([], !needsDigit, char :: rest)

/-- Reads a whole number from text: blanks around it, a sign, and digits of any script that may be
parted by single low lines. -/
def readNumber (value? : Char → Option Nat) (isBlank : Char → Bool) (shown : String)
    (chars : List Char) : Except ValueFault Int :=
  let refusal := ValueFault.unreadableNumber (String.ofList (shown.toList.take 200))
  let (negative, unsigned) := Numeral.splitSign (chars.dropWhile isBlank)
  let (digits, isComplete, rest) := splitDigits value? true unsigned
  if isComplete && Numeral.digitLimit < digits.length then .error (.numberTooLong digits.length)
  else if isComplete && rest.all isBlank then
    .ok (Numeral.withSign negative (digits.foldl (fun value digit => 10 * value + digit) 0))
  else .error refusal

/-- The characters that single bytes stand for. -/
def byteChars (bytes : Bytes) : List Char :=
  bytes.map fun byte => Char.ofNat byte.toNat

/-- A value as a whole number: counts as they are, floating point values without their fraction, and
text and bytes that spell a number. -/
def toNumber (value : Value) : Except Failure Int :=
  let ofText := fun (result : Except ValueFault Int) =>
    match result with
    | .ok number => .ok number
    | .error fault => .error (.badValue fault)
  match value with
  | real .nan => .error (.badValue .nanAsNumber)
  | real value =>
    match value.truncate? with
    | some number => .ok number
    | none => .error .overflow
  | text value =>
    match value.toChars? with
    | some chars =>
      ofText (readNumber Text.decimalValue? Text.isWhiteSpace (Text.quoteWide value) chars)
    | none => .error (.badValue (.unreadableNumber (Text.quoteWide value)))
  | octets bytes | buffer bytes =>
    ofText (readNumber Text.asciiDigit? Hex.isSpacing (Text.quoteBytes bytes) (byteChars bytes))
  | value =>
    match value.index? with
    | some number => .ok number
    | none => .error .wrongKind

/-- The member of an enumeration that a value equals. -/
def toMember {α : Type} (enumeration : String) (ofCode? : Int → Option α) (value : Value) :
    Except Failure α :=
  match value.equalInt?.bind ofCode? with
  | some member => .ok member
  | none => .error (.badValue (.notMember enumeration value.shown))

/-- The kind of message that a value names. -/
def toMessageKind : Value → Except Failure MessageKind :=
  toMember "MessageType" MessageKind.ofCode?

/-- The rendering that a value names. -/
def toRendering : Value → Except Failure Rendering :=
  toMember "RenderingType" Rendering.ofCode?

/-- The status that a value names. -/
def toReceiptStatus : Value → Except Failure ReceiptStatus :=
  toMember "DeliveryReceiptStatus" ReceiptStatus.ofCode?

end Value
end SealedGateway
