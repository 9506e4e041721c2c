import SealedGateway.Bytes.Basic

/-!
# SHA-256 and its keyed form

The message is padded to whole blocks of sixty-four bytes; each block is expanded to sixty-four
words and mixed into a state of eight words.  The keyed form hashes the message behind one mask
of the key and the result behind another.
-/

namespace SealedGateway
namespace Sha256

/-- A word rotated to the right by less than its width. -/
def rotateRight (word amount : UInt32) : UInt32 :=
  (word >>> amount) ||| (word <<< (32 - amount))

/-- The words added in the sixty-four rounds. -/
def roundConstants : List UInt32 :=
  [0x428a2f98, 0x71374491, 0xb5c0fbcf, 0xe9b5dba5, 0x3956c25b, 0x59f111f1, 0x923f82a4, 0xab1c5ed5,
    0xd807aa98, 0x12835b01, 0x243185be, 0x550c7dc3, 0x72be5d74, 0x80deb1fe, 0x9bdc06a7, 0xc19bf174,
    0xe49b69c1, 0xefbe4786, 0x0fc19dc6, 0x240ca1cc, 0x2de92c6f, 0x4a7484aa, 0x5cb0a9dc, 0x76f988da,
    0x983e5152, 0xa831c66d, 0xb00327c8, 0xbf597fc7, 0xc6e00bf3, 0xd5a79147, 0x06ca6351, 0x14292967,
    0x27b70a85, 0x2e1b2138, 0x4d2c6dfc, 0x53380d13, 0x650a7354, 0x766a0abb, 0x81c2c92e, 0x92722c85,
    0xa2bfe8a1, 0xa81a664b, 0xc24b8b70, 0xc76c51a3, 0xd192e819, 0xd6990624, 0xf40e3585, 0x106aa070,
    0x19a4c116, 0x1e376c08, 0x2748774c, 0x34b0bcb5, 0x391c0cb3, 0x4ed8aa4a, 0x5b9cca4f, 0x682e6ff3,
    0x748f82ee, 0x78a5636f, 0x84c87814, 0x8cc70208, 0x90befffa, 0xa4506ceb, 0xbef9a3f7, 0xc67178f2]

/-- The eight words of the state. -/
structure State where
  a : UInt32
  b : UInt32
  c : UInt32
  d : UInt32
  e : UInt32
  f : UInt32
  g : UInt32
  h : UInt32

/-- The state before the first block. -/
def State.initial : State :=
  ⟨0x6a09e667, 0xbb67ae85, 0x3c6ef372, 0xa54ff53a, 0x510e527f, 0x9b05688c, 0x1f83d9ab, 0x5be0cd19⟩

/-- The words of a state in order. -/
def State.words (state : State) : List UInt32 :=
  [state.a, state.b, state.c, state.d, state.e, state.f, state.g, state.h]

/-- Two states added word by word. -/
def State.add (left right : State) : State :=
  ⟨left.a + right.a, left.b + right.b, left.c + right.c, left.d + right.d,
    left.e + right.e, left.f + right.f, left.g + right.g, left.h + right.h⟩

/-- One round with its constant and its word of the schedule. -/
def State.round (state : State) (constant word : UInt32) : State :=
  let mixedE := rotateRight state.e 6 ^^^ rotateRight state.e 11 ^^^ rotateRight state.e 25
  let choice := (state.e &&& state.f) ^^^ (~~~state.e &&& state.g)
  let first := state.h + mixedE + choice + constant + word
  let mixedA := rotateRight state.a 2 ^^^ rotateRight state.a 13 ^^^ rotateRight state.a 22
  let majority := (state.a &&& state.b) ^^^ (state.a &&& state.c) ^^^ (state.b &&& state.c)
  ⟨first + (mixedA + majority), state.a, state.b, state.c, state.d + first, state.e, state.f,
    state.g⟩

/-- The words of a block, each of four bytes, the heaviest first. -/
def blockWords : Bytes → List UInt32
  | a :: b :: c :: d :: rest =>
    ((a.toUInt32 <<< 24) ||| (b.toUInt32 <<< 16) ||| (c.toUInt32 <<< 8) ||| d.toUInt32) ::
      blockWords rest
  | _ => []

/-- The schedule of a block with `count` words added to the sixteen given ones. -/
def extendSchedule : (count : Nat) → Array UInt32 → Array UInt32
  | 0, schedule => schedule
  | count + 1, schedule =>
    let wordBack := fun distance => schedule.getD (schedule.size - distance) 0
    let near := wordBack 2
    let far := wordBack 15
    let nearMixed := rotateRight near 17 ^^^ rotateRight near 19 ^^^ (near >>> 10)
    let farMixed := rotateRight far 7 ^^^ rotateRight far 18 ^^^ (far >>> 3)
    extendSchedule count (schedule.push (nearMixed + wordBack 7 + farMixed + wordBack 16))

/-- Mixes a block into the state. -/
def compress (state : State) (block : Bytes) : State :=
  let schedule := (extendSchedule 48 (blockWords block).toArray).toList
  let mixed := (List.zip roundConstants schedule).foldl
    (fun state (constant, word) => state.round constant word) state
  state.add mixed

/-- A message, the mark of its end, zeros, and its length in bits, in whole blocks. -/
def pad (message : Bytes) : Bytes :=
  let zeros := (119 - message.length % 64) % 64
  message ++ 0x80 :: List.replicate zeros 0 ++ Bytes.ofNatBE 8 (8 * message.length)

/-- The digest of a message. -/
def digest (message : Bytes) : Octets 32 :=
  let final := (Bytes.blocks 64 (pad message)).foldl compress State.initial
  ⟨final.words.flatMap fun word => Bytes.ofNatBE 4 word.toNat, by simp [State.words]⟩

/-- The block of sixty-four bytes that a key of any length stands for. -/
def keyBlock (key : Bytes) : Bytes :=
  let short := if key.length ≤ 64 then key else (digest key).toList
  short ++ List.replicate (64 - short.length) 0

/-- The keyed digest of a message. -/
def authenticate (key message : Bytes) : Octets 32 :=
  let block := keyBlock key
  let inner := digest (block.map (· ^^^ 0x36) ++ message)
  digest (block.map (· ^^^ 0x5c) ++ inner.toList)

end Sha256
end SealedGateway
