import SealedGateway.Bytes.Basic

/-!
# Curve25519

Scalar multiplication on the Montgomery curve over the prime `2 ^ 255 - 19`, by the ladder on
first coordinates.  Scalars are clamped; the top bit of a coordinate is ignored.
-/

namespace SealedGateway

attribute [local instance (2000)] instPowNat

namespace Curve25519

/-- The prime of the field. -/
def prime : Nat := 2 ^ (255 : Nat) - 19

/-- The difference of two field elements. -/
def subtract (left right : Nat) : Nat :=
  (left + (prime - right % prime)) % prime

/-- A power of a field element whose exponent has at most 255 bits, from the top bit down. -/
def power (base exponent : Nat) : Nat :=
  (List.range 255).reverse.foldl
    (fun root index =>
      let square := root * root % prime
      if exponent.testBit index then square * base % prime else square) 1

/-- The scalar of a private key: a multiple of eight with bit 254 as its top bit. -/
def clampScalar (key : Octets 32) : Nat :=
  let value := Bytes.toNatLE key.toList % 2 ^ (254 : Nat)
  value - value % 8 + 2 ^ (254 : Nat)

/-- The coordinate that a public key stands for. -/
def coordinate (key : Octets 32) : Nat :=
  Bytes.toNatLE key.toList % 2 ^ (255 : Nat) % prime

/-- The two projective points that the ladder keeps, and whether they stand exchanged. -/
structure Rungs where
  lowX : Nat
  lowZ : Nat
  highX : Nat
  highZ : Nat
  exchanged : Bool

/-- The two points exchanged if a flag is set. -/
def Rungs.exchangeIf (rungs : Rungs) (flag : Bool) : Rungs :=
  if flag then ⟨rungs.highX, rungs.highZ, rungs.lowX, rungs.lowZ, rungs.exchanged⟩ else rungs

/-- One step of the ladder: double the low point and add the two points. -/
def Rungs.climb (base : Nat) (bit : Bool) (rungs : Rungs) : Rungs :=
  let rungs := rungs.exchangeIf (rungs.exchanged != bit)
  let a := (rungs.lowX + rungs.lowZ) % prime
  let aa := a * a % prime
  let b := subtract rungs.lowX rungs.lowZ
  let bb := b * b % prime
  let e := subtract aa bb
  let c := (rungs.highX + rungs.highZ) % prime
  let d := subtract rungs.highX rungs.highZ
  let da := d * a % prime
  let cb := c * b % prime
  let sum := (da + cb) % prime
  let difference := subtract da cb
  ⟨aa * bb % prime, e * (aa + 121665 * e) % prime, sum * sum % prime,
    base * (difference * difference % prime) % prime, bit⟩

/-- The coordinate of a multiple of a point. -/
def multiply (scalar base : Nat) : Nat :=
  let start : Rungs := ⟨1, 0, base, 1, false⟩
  let climbed := (List.range 255).reverse.foldl
    (fun rungs index => rungs.climb base (scalar.testBit index)) start
  let final := climbed.exchangeIf climbed.exchanged
  final.lowX * power final.lowZ (prime - 2) % prime

/-- The secret that a private key shares with a public key. -/
def sharedSecret (privateKey publicKey : Octets 32) : Octets 32 :=
  ⟨Bytes.ofNatLE 32 (multiply (clampScalar privateKey) (coordinate publicKey)), by simp⟩

/-- The public key of a private key. -/
def publicKeyOf (privateKey : Octets 32) : Octets 32 :=
  ⟨Bytes.ofNatLE 32 (multiply (clampScalar privateKey) 9), by simp⟩

end Curve25519
end SealedGateway
