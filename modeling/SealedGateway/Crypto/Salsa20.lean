import SealedGateway.Bytes.Basic

/-!
# Salsa20 and XSalsa20

The Salsa20 core mixes a block of sixteen words in twenty rounds.  HSalsa20 turns a key and
sixteen bytes into a new key; XSalsa20 uses the key that HSalsa20 makes from the first sixteen
bytes of its nonce and runs Salsa20 with the other eight.
-/

namespace SealedGateway
namespace Salsa20

/-- The sixteen words of a block. -/
abbrev Block := Vector UInt32 16

/-- A word rotated to the left by less than its width. -/
def rotateLeft (word amount : UInt32) : UInt32 :=
  (word <<< amount) ||| (word >>> (32 - amount))

/-- Mixes four words of a block. -/
def quarterRound (block : Block) (a b c d : Fin 16) : Block :=
  let block := block.set b (block[b] ^^^ rotateLeft (block[a] + block[d]) 7)
  let block := block.set c (block[c] ^^^ rotateLeft (block[b] + block[a]) 9)
  let block := block.set d (block[d] ^^^ rotateLeft (block[c] + block[b]) 13)
  block.set a (block[a] ^^^ rotateLeft (block[d] + block[c]) 18)

/-- Mixes the columns, then the rows. -/
def doubleRound (block : Block) : Block :=
  let block := quarterRound block 0 4 8 12
  let block := quarterRound block 5 9 13 1
  let block := quarterRound block 10 14 2 6
  let block := quarterRound block 15 3 7 11
  let block := quarterRound block 0 1 2 3
  let block := quarterRound block 5 6 7 4
  let block := quarterRound block 10 11 8 9
  quarterRound block 15 12 13 14

/-- Ten double rounds. -/
def rounds (block : Block) : Block :=
  (List.range 10).foldl (fun block _ => doubleRound block) block

/-- The word written by four bytes of a list, starting at a place. -/
def wordAt (bytes : Bytes) (place : Nat) : UInt32 :=
  UInt32.ofNat (Bytes.toNatLE ((bytes.drop place).take 4))

/-- A word as four bytes. -/
def wordBytes (word : UInt32) : Bytes :=
  Bytes.ofNatLE 4 word.toNat

@[simp] theorem length_wordBytes (word : UInt32) : (wordBytes word).length = 4 := by
  simp [wordBytes]

/-- The first block of the core: the constant words, the key and sixteen bytes of input. -/
def initialBlock (key : Octets 32) (input : Octets 16) : Block :=
  let keyWord := fun index => wordAt key.toList (4 * index)
  let inputWord := fun index => wordAt input.toList (4 * index)
  #v[0x61707865, keyWord 0, keyWord 1, keyWord 2,
    keyWord 3, 0x3320646e, inputWord 0, inputWord 1,
    inputWord 2, inputWord 3, 0x79622d32, keyWord 4,
    keyWord 5, keyWord 6, keyWord 7, 0x6b206574]

/-- The key that HSalsa20 derives from a key and sixteen bytes. -/
def deriveKey (key : Octets 32) (input : Octets 16) : Octets 32 :=
  let mixed := rounds (initialBlock key input)
  let words := [mixed[0], mixed[5], mixed[10], mixed[15], mixed[6], mixed[7], mixed[8], mixed[9]]
  Octets.ofPadded 32 (words.flatMap wordBytes)

/-- One block of the key stream. -/
def streamBlock (key : Octets 32) (nonce : Octets 8) (counter : Nat) : Bytes :=
  let block := initialBlock key (Octets.ofPadded 16 (nonce.toList ++ Bytes.ofNatLE 8 counter))
  (Vector.zipWith (· + ·) block (rounds block)).toList.flatMap wordBytes

theorem length_flatMap_wordBytes (words : List UInt32) :
    (words.flatMap wordBytes).length = 4 * words.length := by
  induction words with
  | nil => rfl
  | cons word rest ih =>
    rw [List.flatMap_cons, List.length_append, ih, length_wordBytes, List.length_cons]
    omega

@[simp] theorem length_streamBlock (key : Octets 32) (nonce : Octets 8) (counter : Nat) :
    (streamBlock key nonce counter).length = 64 := by
  rw [streamBlock, length_flatMap_wordBytes, Vector.length_toList]

/-- The first bytes of the key stream. -/
def stream (key : Octets 32) (nonce : Octets 8) (size : Nat) : Bytes :=
  let blocks := (List.range ((size + 63) / 64)).flatMap (streamBlock key nonce)
  blocks.take size

@[simp] theorem length_stream (key : Octets 32) (nonce : Octets 8) (size : Nat) :
    (stream key nonce size).length = size := by
  have sum (count : Nat) :
      ((List.range count).flatMap (streamBlock key nonce)).length = 64 * count := by
    induction count with
    | zero => rfl
    | succ count ih => simp [List.range_succ, ih, Nat.mul_succ]
  rw [stream, List.length_take, sum]
  omega

/-- The first bytes of the XSalsa20 key stream. -/
def extendedStream (key : Octets 32) (nonce : Octets 24) (size : Nat) : Bytes :=
  let subkey := deriveKey key (Octets.ofPadded 16 nonce.toList)
  stream subkey (Octets.ofPadded 8 (nonce.toList.drop 16)) size

@[simp] theorem length_extendedStream (key : Octets 32) (nonce : Octets 24) (size : Nat) :
    (extendedStream key nonce size).length = size := by
  simp [extendedStream]

end Salsa20
end SealedGateway
