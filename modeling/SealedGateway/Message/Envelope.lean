import SealedGateway.Field

/-!
# Envelopes

An encrypted message travels as its box and the nonce under which the box was locked.  The gateway
takes both in hexadecimal.
-/

namespace SealedGateway

/-- An encrypted message. -/
structure Envelope where
  /-- The box: the tag and the ciphertext. -/
  box : Bytes
  /-- The nonce under which the box was locked. -/
  nonce : Octets 24
deriving DecidableEq

namespace Envelope

/-- The form fields that the gateway expects. -/
def formFields (envelope : Envelope) : List (String × String) :=
  [("nonce", Hex.text envelope.nonce.toList), ("box", Hex.text envelope.box)]

/-- Reads a nonce: the bytes of a value, if there are twenty-four of them. -/
def readNonce (value : Value) : Except FieldFault (Octets 24) :=
  match Field.readOctets value with
  | .error fault => .error fault
  | .ok bytes =>
    match Octets.ofList? 24 bytes with
    | some nonce => .ok nonce
    | none => .error (.broken .nonceLength)

/-- The envelope made from loosely typed fields. -/
def ofFields (fields : List (String × Value)) : Except Failure Envelope :=
  let box := Field.readRequired Field.readOctets (Field.find? "ciphertext" fields)
  let nonce := Field.readRequired readNonce (Field.find? "nonce" fields)
  match box, nonce with
  | .ok box, .ok nonce => .ok ⟨box, nonce⟩
  | box, nonce =>
    .error (.invalidFields (Field.faultsAt
      [("ciphertext", Field.fault? box), ("nonce", Field.fault? nonce)]))

end Envelope
end SealedGateway
