import SealedGateway.Value
import SealedGateway.Work.Basic

/-!
# Padding

A padded message is one byte for its kind, the payload, and one to 255 copies of a byte that
says how many there are.  The amount is drawn so that each is equally likely: a byte below 255
stands for the amount one above it, and 255 is drawn again.  The full check looks at every
padding byte; the check for messages from outside looks at the length only.
-/

namespace SealedGateway
namespace Padding

/-- The padded form of a payload. -/
def padded (kind : UInt8) (payload : Bytes) (amount : Nat) : Bytes :=
  kind :: payload ++ List.replicate amount (UInt8.ofNat amount)

@[simp] theorem length_padded (kind : UInt8) (payload : Bytes) (amount : Nat) :
    (padded kind payload amount).length = payload.length + amount + 1 := by
  simp [padded]

/-- The amount that the front of a stream gives and how many bytes decide it; nothing if the stream
ends first. -/
def amountOf? : Bytes → Option (Nat × Nat)
  | [] => none
  | byte :: rest =>
    if byte.toNat < 255 then some (byte.toNat + 1, 1)
    else (amountOf? rest).map fun (amount, used) => (amount, used + 1)

/-- Draws an amount of padding; a stream that ends first is used up. -/
def drawAmount : Work Nat := fun context =>
  match amountOf? context.entropy.remaining with
  | some (amount, used) => (.ok amount, { context with entropy := context.entropy.skip used })
  | none =>
    let size := context.entropy.remaining.length
    (.error .entropyExhausted, { context with entropy := context.entropy.skip size })

/-- Pads a payload with a drawn amount.  The kind is checked before the draw, and the payload is
looked at after it. -/
def wrap (payload kind : Value) : Work Bytes := do
  let number ← Work.ofExcept kind.toNumber
  if 0 ≤ number ∧ number ≤ 0xFF then
    let amount ← drawAmount
    let bytes ← Work.ofExcept payload.toBytes
    return padded (UInt8.ofNat number.toNat) bytes amount
  else Work.ofExcept (.error (.badValue .kindTooWide))

/-- The kind and the payload of a padded message, after the full check. -/
def unwrap (buffer : Bytes) : Except PaddingFault (UInt8 × Bytes) :=
  match buffer, buffer.getLast? with
  | kind :: rest, some last =>
    let amount := last.toNat
    if amount = 0 ∨ rest.length < amount then .error .badLength
    else
      let payloadLength := rest.length - amount
      if (rest.drop payloadLength).all (· == last) then .ok (kind, rest.take payloadLength)
      else .error .inconsistent
  | _, _ => .error .empty

/-- The kind and the payload of a padded message as one byte string, after the check of the length
only. -/
def strip (buffer : Bytes) : Except PaddingFault Bytes :=
  match buffer.getLast? with
  | none => .error .empty
  | some last =>
    let amount := last.toNat
    if amount = 0 ∨ buffer.length ≤ amount then .error .badLength
    else .ok (buffer.take (buffer.length - amount))

/-- The bytes of a value that is to be stripped of its padding: a byte string, or a list of bytes.
What is empty counts as an empty byte string. -/
def readBuffer (buffer : Value) : Except Failure Bytes :=
  match buffer with
  | .list items => if items.isEmpty then .ok [] else buffer.toBytes
  | buffer =>
    match buffer.byteString? with
    | some bytes => .ok bytes
    | none => if buffer.isTrue then .error .wrongKind else .ok []

/-- The full check of a loosely typed buffer. -/
def unwrapValue (buffer : Value) : Except Failure (UInt8 × Bytes) := do
  match unwrap (← readBuffer buffer) with
  | .ok message => .ok message
  | .error fault => .error (.badPadding fault)

/-- The check of the length of a loosely typed buffer. -/
def stripValue (buffer : Value) : Except Failure Bytes := do
  match strip (← readBuffer buffer) with
  | .ok stripped => .ok stripped
  | .error fault => .error (.badPadding fault)

end Padding
end SealedGateway
