import SealedGateway.Text.Quoted

/-!
# Failures

Every way in which an operation can fail, as a cause, and the text shown for each cause.  The
texts name the kind of fault only: none of them holds key material or says why an authentication
failed.
-/

namespace SealedGateway

/-- A number in decimal digits. -/
def decimalText (value : Nat) : String :=
  String.ofList (Nat.toDigits 10 value)

/-- A whole number in decimal digits, behind a minus sign if it is negative. -/
def wholeText (value : Int) : String :=
  (if value < 0 then "-" else "") ++ decimalText value.natAbs

/-- Texts with a separator between neighbours. -/
def joinTexts (separator : String) : List String → String
  | [] => ""
  | [last] => last
  | first :: rest => first ++ separator ++ joinTexts separator rest

/-- Why a field or a body on the wire cannot be read. -/
inductive ParseFault
  | notHex
  | wrongByteCount (expected : Int) (actual : Nat)
  | blobIdLength
  | malformedDescriptor
  | malformedForm
  | duplicateField (name : WideText)
  | macMissing
  | fieldsMissing (names : List String)
  | malformedIncoming
deriving DecidableEq

/-- The text of a parse fault. -/
def ParseFault.message : ParseFault → WideText
  | notHex => "Cadena hexadecimal inválida"
  | wrongByteCount expected actual =>
    WideText.ofString
      ("Se esperaban " ++ wholeText expected ++ " bytes, hay " ++ decimalText actual)
  | blobIdLength => "Un BlobId debe tener 16 bytes"
  | malformedDescriptor => "Mensaje de archivo mal formado"
  | malformedForm => "Cuerpo url-encoded mal formado"
  | duplicateField name => WideText.ofString "Campo duplicado: " ++ name
  | macMissing => "Falta el campo mac o no tiene 64 caracteres hex"
  | fieldsMissing names => WideText.ofString ("Faltan campos: " ++ joinTexts ", " names)
  | malformedIncoming => "Campos del mensaje entrante mal formados"

/-- Why a key is refused. -/
inductive KeyFault
  | publicLength
  | publicHex
  | privateHex
  | privateUnusable
  | privateUnset
  | symmetricLength
  | symmetricHex
deriving DecidableEq

/-- The text of a key fault. -/
def KeyFault.message : KeyFault → String
  | publicLength => "La clave pública debe tener 32 bytes"
  | publicHex => "No se pudo decodificar la clave pública hex"
  | privateHex => "No se pudo decodificar la clave privada hex"
  | privateUnusable => "Clave privada libsodium inválida"
  | privateUnset => "GATEWAY_PRIVATE_KEY no está configurada"
  | symmetricLength => "La clave simétrica debe tener 32 bytes"
  | symmetricHex => "No se pudo decodificar la clave simétrica hex"

/-- Which nonce has a wrong length. -/
inductive NonceFault
  | ofMessage
  | ofImage
deriving DecidableEq

/-- The text of a nonce fault. -/
def NonceFault.message : NonceFault → String
  | ofMessage => "El nonce debe tener 24 bytes"
  | ofImage => "El nonce de la imagen debe tener 24 bytes"

/-- Why padding is refused. -/
inductive PaddingFault
  | empty
  | badLength
  | inconsistent
deriving DecidableEq

/-- The text of a padding fault. -/
def PaddingFault.message : PaddingFault → String
  | empty => "Buffer vacío"
  | badLength => "Longitud de relleno inválida"
  | inconsistent => "Bytes de relleno inconsistentes"

/-- What could not be opened. -/
inductive OpeningFault
  | unusableKeys
  | envelope
  | file
  | thumbnail
deriving DecidableEq

/-- The text for keys whose shared secret is refused. -/
def unusableKeysMessage : String :=
  "No se pudo preparar la caja con estas claves"

/-- The text of an opening fault. -/
def OpeningFault.message : OpeningFault → String
  | unusableKeys => unusableKeysMessage
  | envelope => "No se pudo descifrar el mensaje"
  | file => "No se pudo descifrar el archivo"
  | thumbnail => "No se pudo descifrar la miniatura"

/-- Why a value is refused by a rule of this library. -/
inductive FieldRule
  | blobKeyLength
  | badMediaType (shown : String)
  | thumbnailIncomplete
  | metadataUnderFile
  | durationOnSticker
  | nonceLength
  | dateDigits
deriving DecidableEq

/-- The text of a rule. -/
def FieldRule.message : FieldRule → String
  | blobKeyLength => "La clave del blob debe tener 32 bytes"
  | badMediaType shown => "Tipo MIME inválido: " ++ shown
  | thumbnailIncomplete => "La miniatura necesita id de blob y tipo MIME a la vez"
  | metadataUnderFile => "Los metadatos solo se admiten en Media o Sticker"
  | durationOnSticker => "Un sticker no puede tener duración"
  | nonceLength => "El nonce debe tener 24 bytes"
  | dateDigits => "La fecha debe contener solo dígitos decimales"

/-- Why a loosely typed value does not fit a field. -/
inductive FieldFault
  | required
  | notFlag
  | unreadableFlag
  | notWhole
  | unreadableWhole
  | wholeTooLong
  | fractional
  | notFinite
  | belowZero
  | aboveSizeLimit
  | notReal
  | unreadableReal
  | notText
  | brokenText
  | notOctets
  | notBlobId
  | notRendering
  | notMetadata
  | malformed (fault : ParseFault)
  | broken (rule : FieldRule)
deriving DecidableEq

/-- The text of a field fault. -/
def FieldFault.message : FieldFault → WideText
  | required => "Field required"
  | notFlag => "Input should be a valid boolean"
  | unreadableFlag => "Input should be a valid boolean, unable to interpret input"
  | notWhole => "Input should be a valid integer"
  | unreadableWhole => "Input should be a valid integer, unable to parse string as an integer"
  | wholeTooLong => "Unable to parse input string as an integer, exceeded maximum size"
  | fractional => "Input should be a valid integer, got a number with a fractional part"
  | notFinite => "Input should be a finite number"
  | belowZero => "Input should be greater than or equal to 0"
  | aboveSizeLimit => "Input should be less than or equal to 4294967295"
  | notReal => "Input should be a valid number"
  | unreadableReal => "Input should be a valid number, unable to parse string as a number"
  | notText => "Input should be a valid string"
  | brokenText => "Input should be a valid string, unable to parse raw data as a unicode string"
  | notOctets => "Input should be a valid bytes"
  | notBlobId => "Input should be an instance of BlobId"
  | notRendering => "Input should be 0, 1 or 2"
  | notMetadata => "Input should be a valid dictionary or instance of FileMetadata"
  | malformed fault => WideText.ofString "Value error, " ++ fault.message
  | broken rule => WideText.ofString ("Value error, " ++ rule.message)

/-- Why an argument has a value that the operation does not take. -/
inductive ValueFault
  | kindTooWide
  | imageSize
  | receiptIdLength
  | noReceiptIds
  | notMember (enumeration shown : String)
  | unreadableNumber (shown : String)
  | numberTooLong (digits : Nat)
  | numberTooLongToShow
  | nanAsNumber
  | negativeCount
  | byteRange
  | unknownLevel (shown : String)
  | settingsMissing
  | spacedHex (place : Nat)
  | unbalancedHost
  | badFutureAddress
  | dottedAddress
  | unreadableAddress (shown : String)
  | disguisedHost (host : String)
  | raised (text : String)
deriving DecidableEq

/-- The text of a value fault. -/
def ValueFault.message : ValueFault → String
  | kindTooWide => "El tipo de mensaje debe caber en un byte"
  | imageSize => "El tamaño de la imagen no cabe en 32 bits"
  | receiptIdLength => "Un id de mensaje debe tener 8 bytes"
  | noReceiptIds => "Se necesita al menos un id de mensaje"
  | notMember enumeration shown => shown ++ " is not a valid " ++ enumeration
  | unreadableNumber shown => "invalid literal for int() with base 10: " ++ shown
  | numberTooLong digits =>
    "Exceeds the limit (4300 digits) for integer string conversion: value has " ++
      decimalText digits ++ " digits; use sys.set_int_max_str_digits() to increase the limit"
  | numberTooLongToShow =>
    "Exceeds the limit (4300 digits) for integer string conversion; " ++
      "use sys.set_int_max_str_digits() to increase the limit"
  | nanAsNumber => "cannot convert float NaN to integer"
  | negativeCount => "negative count"
  | byteRange => "bytes must be in range(0, 256)"
  | unknownLevel shown => "Unknown level: " ++ shown
  | settingsMissing => "GATEWAY_ID y GATEWAY_SECRET son obligatorios"
  | spacedHex place =>
    "non-hexadecimal number found in fromhex() arg at position " ++ decimalText place
  | unbalancedHost => "Invalid IPv6 URL"
  | badFutureAddress => "IPvFuture address is invalid"
  | dottedAddress => "An IPv4 address cannot be in brackets"
  | unreadableAddress shown => shown ++ " does not appear to be an IPv4 or IPv6 address"
  | disguisedHost host =>
    "netloc '" ++ host ++ "' contains invalid characters under NFKC normalization"
  | raised text => text

/-- Every way in which an operation can fail. -/
inductive Failure
  | badKey (fault : KeyFault)
  | badNonce (fault : NonceFault)
  | badPadding (fault : PaddingFault)
  | unusableKeys
  | cannotOpen (fault : OpeningFault)
  | invalidMac
  | malformed (fault : ParseFault)
  | invalidDescriptor (faults : List FieldFault)
  | invalidFields (faults : List (String × FieldFault))
  | badValue (fault : ValueFault)
  | missing (name : String)
  | entropyExhausted
  /-- A value of a kind that the operation does not take. -/
  | wrongKind
  /-- A value that lacks the operation asked of it. -/
  | lacksOperation
  /-- Brackets nested deeper than the reader goes. -/
  | tooDeep
  /-- A number too large for the operation. -/
  | overflow
  /-- Text that has no UTF-8 form. -/
  | unencodable
  /-- A value that has no place in a binary record. -/
  | unpackable
  /-- A key of a length that the box does not take. -/
  | unfitKey
  /-- An empty byte string where a first byte is needed. -/
  | noFirstByte
deriving DecidableEq

namespace Failure

/-- The text of a failure, for those that have one. -/
def message? : Failure → Option WideText
  | badKey fault => some fault.message
  | badNonce fault => some fault.message
  | badPadding fault => some fault.message
  | unusableKeys => some unusableKeysMessage
  | cannotOpen fault => some fault.message
  | invalidMac => some "MAC inválido"
  | malformed fault => some fault.message
  | invalidDescriptor faults =>
    some (List.intercalate (WideText.ofString "; ") (faults.map FieldFault.message))
  | invalidFields faults =>
    some (List.intercalate (WideText.ofString "; ")
      (faults.map fun (place, fault) => WideText.ofString (place ++ ": ") ++ fault.message))
  | badValue fault => some fault.message
  | missing name => some (Text.quote name)
  | entropyExhausted => some "random stream exhausted"
  | _ => none

/-- Whether a failure is one of the documented errors of the library, which its callers report. -/
def isReported : Failure → Bool
  | badKey _ | badNonce _ | badPadding _ | unusableKeys | cannotOpen _ | invalidMac
  | malformed _ | invalidDescriptor _ => true
  | _ => false

/-- Whether a failure says that a value is out of range or badly written. -/
def isBadValue : Failure → Bool
  | malformed _ | invalidDescriptor _ | invalidFields _ | badValue _ | unencodable
  | unfitKey => true
  | _ => false

end Failure
end SealedGateway
