import SealedGateway.Bytes.Basic

/-!
# Poly1305

The one-time authenticator: the blocks of a message are the coefficients of a polynomial over the
prime `2 ^ 130 - 5`, evaluated at the clamped first half of the key; the second half is added.
-/

namespace SealedGateway

attribute [local instance (2000)] instPowNat

namespace Poly1305

/-- The modulus of the polynomial. -/
def modulus : Nat := 2 ^ (130 : Nat) - 5

/-- The point of evaluation: twenty-two bits of the first half of the key are cleared. -/
def clamp (point : Nat) : Nat :=
  point &&& 0x0ffffffc0ffffffc0ffffffc0fffffff

/-- A block as a number, with one bit set above its last byte. -/
def coefficient (block : Bytes) : Nat :=
  Bytes.toNatLE block + 256 ^ block.length

/-- The polynomial of a message by Horner's rule, in blocks of sixteen bytes. -/
def evaluate (point : Nat) (message : Bytes) : Nat :=
  (Bytes.blocks 16 message).foldl
    (fun accumulator block => (accumulator + coefficient block) * point % modulus) 0

/-- The tag of a message under a one-time key. -/
def tag (key : Octets 32) (message : Bytes) : Octets 16 :=
  let point := clamp (Bytes.toNatLE (key.toList.take 16))
  let pad := Bytes.toNatLE (key.toList.drop 16)
  ⟨Bytes.ofNatLE 16 (evaluate point message + pad), by simp⟩

end Poly1305
end SealedGateway
