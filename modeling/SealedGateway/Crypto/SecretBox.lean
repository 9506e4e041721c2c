import SealedGateway.Crypto.Curve25519
import SealedGateway.Crypto.Poly1305
import SealedGateway.Crypto.Salsa20

/-!
# Authenticated boxes

A secret box is the message under the XSalsa20 key stream, behind the Poly1305 tag of that
ciphertext; the first thirty-two bytes of the key stream are the key of the tag.  A public key
box is a secret box under the key derived from the secret that the two parties share.
-/

namespace SealedGateway
namespace SecretBox

/-- The length of the tag in front of a box. -/
def tagSize : Nat := 16

/-- The key of the tag for a key and a nonce. -/
def tagKey (key : Octets 32) (nonce : Octets 24) : Octets 32 :=
  Octets.ofPadded 32 (Salsa20.extendedStream key nonce 32)

/-- The part of the key stream that covers a message. -/
def messageStream (key : Octets 32) (nonce : Octets 24) (size : Nat) : Bytes :=
  (Salsa20.extendedStream key nonce (32 + size)).drop 32

@[simp] theorem length_messageStream (key : Octets 32) (nonce : Octets 24) (size : Nat) :
    (messageStream key nonce size).length = size := by
  simp [messageStream]

/-- The box of a message. -/
def lock (key : Octets 32) (nonce : Octets 24) (message : Bytes) : Bytes :=
  let ciphertext := Bytes.xor message (messageStream key nonce message.length)
  (Poly1305.tag (tagKey key nonce) ciphertext).toList ++ ciphertext

/-- A box is longer than its message by the tag. -/
@[simp] theorem length_lock (key : Octets 32) (nonce : Octets 24) (message : Bytes) :
    (lock key nonce message).length = message.length + tagSize := by
  simp [lock, Bytes.length_xor, tagSize, Nat.add_comm]

/-- The message of a box whose tag is right. -/
def unlock? (key : Octets 32) (nonce : Octets 24) (box : Bytes) : Option Bytes :=
  let ciphertext := box.drop tagSize
  if box.take tagSize = (Poly1305.tag (tagKey key nonce) ciphertext).toList then
    some (Bytes.xor ciphertext (messageStream key nonce ciphertext.length))
  else none

/-- A box opens to its message and to nothing else. -/
theorem unlock?_eq_some_iff {key : Octets 32} {nonce : Octets 24} {box message : Bytes} :
    unlock? key nonce box = some message ↔ box = lock key nonce message := by
  constructor
  · intro opened
    simp only [unlock?] at opened
    split at opened
    · next tagIsRight =>
      have opened := Option.some.inj opened
      subst opened
      simp only [lock, Bytes.length_xor, length_messageStream, Nat.min_self]
      rw [Bytes.xor_xor_cancel _ _ (by simp), ← tagIsRight, List.take_append_drop]
    · cases opened
  · rintro rfl
    simp [unlock?, lock, tagSize, Bytes.length_xor, Bytes.xor_xor_cancel]

/-- What does not open is the box of no message. -/
theorem unlock?_eq_none_iff {key : Octets 32} {nonce : Octets 24} {box : Bytes} :
    unlock? key nonce box = none ↔ ¬ ∃ message, box = lock key nonce message := by
  simp only [Option.eq_none_iff_forall_ne_some, ne_eq, unlock?_eq_some_iff, not_exists]

end SecretBox

namespace PublicBox

/-- The key that two parties share, unless their shared secret is the zero one. -/
def sharedKey? (privateKey publicKey : Octets 32) : Option (Octets 32) :=
  let secret := Curve25519.sharedSecret privateKey publicKey
  if secret = Octets.zero 32 then none else some (Salsa20.deriveKey secret (Octets.zero 16))

end PublicBox
end SealedGateway
