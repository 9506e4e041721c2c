import SealedGateway.Key.Pair
import SealedGateway.Message.Padding

/-!
# Opening messages

A box opens with the keys and the nonce under which it was locked, and with nothing else.  What is
inside is still padded.
-/

namespace SealedGateway
namespace Opening

section Anywhere

open MonadExcept (ofExcept)

variable {m : Type → Type} [Monad m] [MonadExceptOf Failure m]

/-- Opens a box wherever an operation can fail.  The length of the nonce is checked first, then the
keys. -/
def openBoxIn (box nonce publicKey privateKey : Value) : m Bytes := do
  let nonceLength ← ofExcept nonce.length
  if nonceLength ≠ 24 then throw (.badNonce .ofMessage)
  else
    let sharedKey ← ofExcept (PublicBox.prepare (.cannotOpen .unusableKeys) publicKey privateKey)
    let boxBytes ← ofExcept box.toBytes
    let nonceBytes ← ofExcept nonce.toBytes
    match Octets.ofList? 24 nonceBytes with
    | none => throw (.badNonce .ofMessage)
    | some nonce =>
      match SecretBox.unlock? sharedKey nonce boxBytes with
      | some content => return content
      | none => throw (.cannotOpen .envelope)

/-- Opens the padded message in a box wherever an operation can fail, with the full check of the
padding. -/
def openMessageIn (box nonce publicKey privateKey : Value) : m (UInt8 × Bytes) := do
  let content ← openBoxIn box nonce publicKey privateKey
  match Padding.unwrap content with
  | .ok message => return message
  | .error fault => throw (.badPadding fault)

end Anywhere

/-- The content of a box. -/
def openBox (box nonce publicKey privateKey : Value) : Except Failure Bytes :=
  openBoxIn box nonce publicKey privateKey

/-- The kind and the payload of the padded message in a box. -/
def openMessage (box nonce publicKey privateKey : Value) : Except Failure (UInt8 × Bytes) :=
  openMessageIn box nonce publicKey privateKey

end Opening
end SealedGateway
