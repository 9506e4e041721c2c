import SealedGateway.Crypto.SecretBox
import SealedGateway.Key.Reading
import SealedGateway.Work.Basic

/-!
# Key pairs

Two parties prepare a box from the private key of one and the public key of the other.  The
private key is looked at first.  Keys whose shared secret is zero make no box; the caller says
which failure that is.
-/

namespace SealedGateway

/-- A private key and its public key. -/
structure KeyPair where
  privateKey : PrivateKey
  publicKey : PublicKey
deriving DecidableEq

namespace KeyPair

/-- The key pair of a private key. -/
def ofPrivate (key : PrivateKey) : KeyPair := ⟨key, key.publicKey⟩

/-- Draws a new key pair. -/
def generate : Work KeyPair := do
  let octets ← Work.draw 32
  return ofPrivate ⟨octets⟩

end KeyPair

namespace PublicBox

/-- The key of the box between the holder of a private key and the owner of a public key. -/
def prepare (refusal : Failure) (publicKey privateKey : Value) : Except Failure (Octets 32) :=
  match PrivateKey.ofValue privateKey with
  | .error fault => .error (.badKey fault)
  | .ok ownKey =>
    match PublicKey.ofValue publicKey with
    | .error fault => .error (.badKey fault)
    -- The key is handed to a function: the kernel would compute one that is matched on.
    | .ok peerKey => (sharedKey? ownKey.octets peerKey.octets).elim (.error refusal) .ok

end PublicBox
end SealedGateway
