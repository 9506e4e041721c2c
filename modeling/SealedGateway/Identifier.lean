import SealedGateway.Bytes.Hex

/-!
# Keys and identifiers

Values of fixed length that messages refer to: identifiers of blobs, the keys of a box, the key
of a recipient as it is shown and compared, and the key under which a file is locked.
-/

namespace SealedGateway

/-- The identifier of a blob on the blob server. -/
structure BlobId where
  /-- The sixteen bytes of the identifier. -/
  octets : Octets 16
deriving DecidableEq

/-- The identifier in lower-case hexadecimal. -/
def BlobId.text (blobId : BlobId) : String := Hex.text blobId.octets.toList

/-- A public key as the box takes it. -/
structure PublicKey where
  /-- The coordinate of the key. -/
  octets : Octets 32
deriving DecidableEq

/-- A private key as the box takes it. -/
structure PrivateKey where
  /-- The scalar of the key, before clamping. -/
  octets : Octets 32
deriving DecidableEq

/-- The public key of a recipient, immutable and comparable. -/
structure RecipientKey where
  /-- The bytes of the key. -/
  octets : Octets 32
deriving DecidableEq

/-- The key in lower-case hexadecimal. -/
def RecipientKey.text (key : RecipientKey) : String := Hex.text key.octets.toList

/-- The key for one file and its thumbnail. -/
structure SymmetricKey where
  /-- The bytes of the key. -/
  octets : Octets 32
deriving DecidableEq

/-- The key in lower-case hexadecimal. -/
def SymmetricKey.text (key : SymmetricKey) : String := Hex.text key.octets.toList

/-- The key with its bytes overwritten by zeros one after the other. -/
def SymmetricKey.wiped (key : SymmetricKey) : SymmetricKey :=
  ⟨⟨key.octets.toList.overwritten, by simp⟩⟩

end SealedGateway
