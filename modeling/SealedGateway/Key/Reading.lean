import SealedGateway.Crypto.Curve25519
import SealedGateway.Value

/-!
# Reading keys and identifiers

Keys and identifiers are handed over as bytes, as hexadecimal text or as ready values.  Each
reader takes the forms of its kind and names its own fault for everything else.
-/

namespace SealedGateway
namespace Value

/-- The bytes that a value spells in strict hexadecimal. -/
def hexBytes : Value → Except ParseFault Bytes
  | text value =>
    match value.toChars?.bind Hex.decode? with
    | some bytes => .ok bytes
    | none => .error .notHex
  | _ => .error .notHex

/-- The bytes that a value spells in strict hexadecimal, as many as are expected if a number is
given. -/
def hexBytesOf (expected? : Option Int) (value : Value) : Except ParseFault Bytes :=
  match value.hexBytes, expected? with
  | .error fault, _ => .error fault
  | .ok bytes, none => .ok bytes
  | .ok bytes, some expected =>
    if (bytes.length : Int) = expected then .ok bytes
    else .error (.wrongByteCount expected bytes.length)

/-- The byte string of a given length that a value spells in strict hexadecimal. -/
def hexOctets (size : Nat) (value : Value) : Except ParseFault (Octets size) :=
  match value.hexBytes with
  | .error fault => .error fault
  | .ok bytes =>
    match Octets.ofList? size bytes with
    | some fixed => .ok fixed
    | none => .error (.wrongByteCount size bytes.length)

/-- The byte string of a given length that a value is. -/
def octets? (size : Nat) (value : Value) : Option (Octets size) :=
  value.byteString?.bind (Octets.ofList? size)

end Value

/-- The blob identifier made of the sixteen bytes of a value. -/
def BlobId.ofBytes (value : Value) : Except ParseFault BlobId :=
  match value.octets? 16 with
  | some octets => .ok ⟨octets⟩
  | none => .error .blobIdLength

/-- The blob identifier that a value spells. -/
def BlobId.ofText (value : Value) : Except ParseFault BlobId :=
  (value.hexOctets 16).map BlobId.mk

/-- The recipient key made of the thirty-two bytes of a value. -/
def RecipientKey.ofBytes (value : Value) : Except KeyFault RecipientKey :=
  match value.octets? 32 with
  | some octets => .ok ⟨octets⟩
  | none => .error .publicLength

/-- The recipient key that a value spells. -/
def RecipientKey.ofText (value : Value) : Except KeyFault RecipientKey :=
  match value.hexOctets 32 with
  | .ok octets => .ok ⟨octets⟩
  | .error _ => .error .publicHex

/-- The recipient key as the box takes it. -/
def RecipientKey.publicKey (key : RecipientKey) : PublicKey := ⟨key.octets⟩

/-- The public key that a value of any accepted form represents. -/
def PublicKey.ofValue : Value → Except KeyFault PublicKey
  | .publicKey key => .ok key
  | .recipientKey key => .ok key.publicKey
  | value => (RecipientKey.ofBytes value).map RecipientKey.publicKey

/-- The private key that a value of any accepted form represents. -/
def PrivateKey.ofValue : Value → Except KeyFault PrivateKey
  | .privateKey key => .ok key
  | .text text =>
    match (Value.text text).hexOctets 32 with
    | .ok octets => .ok ⟨octets⟩
    | .error _ => .error .privateHex
  | value =>
    match value.octets? 32 with
    | some octets => .ok ⟨octets⟩
    | none => .error .privateUnusable

/-- The public half of a private key. -/
def PrivateKey.publicKey (key : PrivateKey) : PublicKey :=
  ⟨Curve25519.publicKeyOf key.octets⟩

/-- The symmetric key made of the thirty-two bytes of a value. -/
def SymmetricKey.ofBytes (value : Value) : Except KeyFault SymmetricKey :=
  match value.octets? 32 with
  | some octets => .ok ⟨octets⟩
  | none => .error .symmetricLength

/-- The symmetric key that a value spells. -/
def SymmetricKey.ofText (value : Value) : Except KeyFault SymmetricKey :=
  match value.hexOctets 32 with
  | .ok octets => .ok ⟨octets⟩
  | .error _ => .error .symmetricHex

end SealedGateway
