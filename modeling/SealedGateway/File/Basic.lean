import SealedGateway.Crypto.SecretBox
import SealedGateway.Field
import SealedGateway.Key.Reading
import SealedGateway.Work.Basic

/-!
# Locked files

A file and its thumbnail are locked under one key that is drawn for them alone.  Their nonces are
fixed and differ from each other, which is safe only because no key is used twice.
-/

namespace SealedGateway

/-- The nonce that ends in a given byte behind twenty-three zeros. -/
def fixedNonce (last : UInt8) : Octets 24 :=
  ⟨List.replicate 23 0 ++ [last], by simp⟩

/-- The nonce of a file. -/
def fileNonce : Octets 24 := fixedNonce 1

/-- The nonce of a thumbnail. -/
def thumbnailNonce : Octets 24 := fixedNonce 2

/-- A file in the clear, with its thumbnail. -/
structure PlainFile where
  file : Bytes
  thumbnail : Option Bytes
deriving DecidableEq

/-- A locked file, with its thumbnail locked under the same key. -/
structure LockedFile where
  file : Bytes
  thumbnail : Option Bytes
deriving DecidableEq

namespace PlainFile

/-- The file and its thumbnail locked under a key. -/
def lock (plain : PlainFile) (key : Octets 32) : LockedFile :=
  ⟨SecretBox.lock key fileNonce plain.file,
    plain.thumbnail.map (SecretBox.lock key thumbnailNonce)⟩

/-- The record of a file that has been locked. -/
def lockedRecord (length : Nat) (hasThumbnail : Bool) : String :=
  "Archivo cifrado (" ++ decimalText length ++ " bytes, miniatura=" ++
    Value.flagText hasThumbnail ++ ")"

/-- The bytes of a thumbnail that may be left out. -/
def readThumbnail : Value → Except Failure (Option Bytes)
  | .null => .ok none
  | value => value.toBytes.map some

/-- Locks a file and its thumbnail under a key that is drawn for them. -/
def lockValues (file thumbnail : Value) : Work (LockedFile × SymmetricKey) := do
  let key ← Work.draw 32
  let fileBytes ← Work.ofExcept file.toBytes
  let thumbnailBytes ← Work.ofExcept (readThumbnail thumbnail)
  let length ← Work.ofExcept file.length
  Work.record .debug .fileBox (lockedRecord length thumbnailBytes.isSome)
  return (PlainFile.lock ⟨fileBytes, thumbnailBytes⟩ key, ⟨key⟩)

end PlainFile

namespace LockedFile

/-- The locked file made from loosely typed fields. -/
def ofFields (fields : List (String × Value)) : Except Failure LockedFile :=
  let file := Field.readRequired Field.readOctets (Field.find? "file" fields)
  let thumbnail := Field.readOptional Field.readOctets (Field.find? "thumbnail" fields)
  match file, thumbnail with
  | .ok file, .ok thumbnail => .ok ⟨file, thumbnail⟩
  | file, thumbnail =>
    .error (.invalidFields (Field.faultsAt
      [("file", Field.fault? file), ("thumbnail", Field.fault? thumbnail)]))

/-- The file and its thumbnail in the clear.  Both open or nothing is given; the file is tried
first. -/
def unlock (locked : LockedFile) (key : Octets 32) : Except OpeningFault PlainFile :=
  match SecretBox.unlock? key fileNonce locked.file with
  | none => .error .file
  | some file =>
    match locked.thumbnail with
    | none => .ok ⟨file, none⟩
    | some box =>
      match SecretBox.unlock? key thumbnailNonce box with
      | none => .error .thumbnail
      | some thumbnail => .ok ⟨file, some thumbnail⟩

/-- The bytes of a key for files: of any value that represents thirty-two bytes by itself. -/
def readKey (key : Value) : Except Failure (Octets 32) :=
  match key.ownBytes? with
  | none => .error .lacksOperation
  | some bytes =>
    match Octets.ofList? 32 bytes with
    | some octets => .ok octets
    | none => .error .unfitKey

/-- Opens a locked file with a loosely typed key wherever an operation can fail. -/
def unlockIn {m : Type → Type} [Monad m] [MonadExceptOf Failure m] (locked : LockedFile)
    (key : Value) : m PlainFile := do
  let octets ← MonadExcept.ofExcept (readKey key)
  match locked.unlock octets with
  | .ok plain => return plain
  | .error fault => throw (.cannotOpen fault)

/-- The file and its thumbnail in the clear, with a loosely typed key. -/
def unlockWith (locked : LockedFile) (key : Value) : Except Failure PlainFile :=
  locked.unlockIn key

end LockedFile
end SealedGateway
