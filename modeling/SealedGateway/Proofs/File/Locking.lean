import SealedGateway.File.Basic

/-!
# Locked files open again

A file is locked with its thumbnail under the key that is given back with it, and that key opens
both; a thumbnail that is empty and one that is absent stay what they are.
-/

namespace SealedGateway

namespace PlainFile

/-- The work on a file once its key is there. -/
def lockUnder (file thumbnail : Value) (key : Octets 32) : Work (LockedFile × SymmetricKey) := do
  let fileBytes ← Work.ofExcept file.toBytes
  let thumbnailBytes ← Work.ofExcept (readThumbnail thumbnail)
  let length ← Work.ofExcept file.length
  Work.record .debug .fileBox (lockedRecord length thumbnailBytes.isSome)
  return (lock ⟨fileBytes, thumbnailBytes⟩ key, ⟨key⟩)

theorem lockValues_eq (file thumbnail : Value) :
    lockValues file thumbnail = Work.draw 32 >>= lockUnder file thumbnail := rfl

theorem lockUnder_eq_ok {file thumbnail : Value} {key : Octets 32} {context after : Context}
    {locked : LockedFile} {given : SymmetricKey}
    (performed : (lockUnder file thumbnail key).perform context = (.ok (locked, given), after)) :
    ∃ fileBytes thumbnailBytes, file.toBytes = .ok fileBytes ∧
      readThumbnail thumbnail = .ok thumbnailBytes ∧
      locked = lock ⟨fileBytes, thumbnailBytes⟩ key ∧ given = ⟨key⟩ := by
  obtain ⟨fileBytes, _, isFile, performed⟩ := Work.perform_bind_eq_ok_iff.mp performed
  obtain ⟨thumbnailBytes, _, isThumbnail, performed⟩ := Work.perform_bind_eq_ok_iff.mp performed
  obtain ⟨_, _, _, performed⟩ := Work.perform_bind_eq_ok_iff.mp performed
  obtain ⟨_, _, _, performed⟩ := Work.perform_bind_eq_ok_iff.mp performed
  refine ⟨fileBytes, thumbnailBytes, congrArg Prod.fst isFile, congrArg Prod.fst isThumbnail, ?_⟩
  cases performed
  exact ⟨rfl, rfl⟩

/-- A file that has been locked is given back with its key, under which it and its thumbnail are
locked. -/
theorem exists_plain_of_lockValues {file thumbnail : Value} {context after : Context}
    {locked : LockedFile} {key : SymmetricKey}
    (performed : (lockValues file thumbnail).perform context = (.ok (locked, key), after)) :
    ∃ fileBytes thumbnailBytes, file.toBytes = .ok fileBytes ∧
      readThumbnail thumbnail = .ok thumbnailBytes ∧
      locked = lock ⟨fileBytes, thumbnailBytes⟩ key.octets := by
  rw [lockValues_eq] at performed
  obtain ⟨octets, _, _, finished⟩ := Work.perform_bind_eq_ok_iff.mp performed
  obtain ⟨fileBytes, thumbnailBytes, isFile, isThumbnail, rfl, rfl⟩ := lockUnder_eq_ok finished
  exact ⟨fileBytes, thumbnailBytes, isFile, isThumbnail, rfl⟩

/-- A file is locked under the key that the entropy gives. -/
theorem perform_lockValues_of_draw? {file thumbnail : Value} {fileBytes : Bytes}
    {thumbnailBytes : Option Bytes} {length : Nat} (isFile : file.toBytes = .ok fileBytes)
    (isThumbnail : readThumbnail thumbnail = .ok thumbnailBytes)
    (lengthIs : file.length = .ok length) {context : Context} {key : Octets 32} {entropy : Entropy}
    (drawn : context.entropy.draw? 32 = some (key, entropy)) :
    ∃ after, (lockValues file thumbnail).perform context =
      (.ok (lock ⟨fileBytes, thumbnailBytes⟩ key, ⟨key⟩), after) := by
  rw [lockValues_eq, Work.perform_bind, Work.perform_draw_of_draw? drawn]
  simp only [lockUnder, isFile, isThumbnail, lengthIs, Work.perform_bind, Work.perform_ofExcept,
    Work.perform_record, Work.perform_pure]
  exact ⟨_, rfl⟩

/-- A file is locked whenever the entropy gives a key. -/
theorem exists_locked_of_draw? {file thumbnail : Value} {fileBytes : Bytes}
    {thumbnailBytes : Option Bytes} {length : Nat} (isFile : file.toBytes = .ok fileBytes)
    (isThumbnail : readThumbnail thumbnail = .ok thumbnailBytes)
    (lengthIs : file.length = .ok length) {context : Context} {key : Octets 32} {entropy : Entropy}
    (drawn : context.entropy.draw? 32 = some (key, entropy)) :
    ∃ locked after, (lockValues file thumbnail).perform context = (.ok (locked, ⟨key⟩), after) := by
  obtain ⟨after, performed⟩ := perform_lockValues_of_draw? isFile isThumbnail lengthIs drawn
  exact ⟨_, after, performed⟩

end PlainFile

namespace LockedFile

/-- A locked file opens if both of its boxes do.  The boxes are variables: the kernel would compute
those that are matched on. -/
theorem unlock_eq_ok {locked : LockedFile} {key : Octets 32} {file : Bytes}
    {thumbnail : Option Bytes}
    (opensFile : SecretBox.unlock? key fileNonce locked.file = some file)
    (opensThumbnail : locked.thumbnail.map (SecretBox.unlock? key thumbnailNonce) =
      thumbnail.map some) :
    locked.unlock key = .ok ⟨file, thumbnail⟩ := by
  obtain ⟨fileBox, thumbnailBox⟩ := locked
  unfold unlock
  rw [opensFile]
  cases thumbnailBox with
  | none =>
    cases thumbnail with
    | none => rfl
    | some content => cases opensThumbnail
  | some box =>
    cases thumbnail with
    | none => cases opensThumbnail
    | some content =>
      have opens : SecretBox.unlock? key thumbnailNonce box = some content :=
        Option.some.inj opensThumbnail
      simp only [opens]

theorem unlock_lock (plain : PlainFile) (key : Octets 32) :
    (plain.lock key).unlock key = .ok plain := by
  have opens (nonce : Octets 24) (content : Bytes) :
      SecretBox.unlock? key nonce (SecretBox.lock key nonce content) = some content :=
    SecretBox.unlock?_eq_some_iff.mpr rfl
  apply unlock_eq_ok
  · exact opens fileNonce plain.file
  · simp only [PlainFile.lock, Option.map_map, Function.comp_def, opens]

theorem unlockWith_symmetricKey (locked : LockedFile) (key : SymmetricKey) :
    locked.unlockWith (.symmetricKey key) = (locked.unlock key.octets).mapError .cannotOpen := by
  have isKey : readKey (.symmetricKey key) = .ok key.octets := by
    simp only [readKey, Value.ownBytes?, Octets.ofList?_toList]
  rw [unlockWith, unlockIn, isKey]
  simp only [MonadExcept.ofExcept, pure_bind]
  cases locked.unlock key.octets <;> rfl

theorem unlockWith_of_unlock {locked : LockedFile} {key : SymmetricKey} {plain : PlainFile}
    (opened : locked.unlock key.octets = .ok plain) :
    locked.unlockWith (.symmetricKey key) = .ok plain := by
  rw [unlockWith_symmetricKey, opened]
  rfl

/-- A locked file opens with its key to the file and its thumbnail. -/
theorem unlockWith_lock (plain : PlainFile) (key : SymmetricKey) :
    (plain.lock key.octets).unlockWith (.symmetricKey key) = .ok plain :=
  unlockWith_of_unlock (unlock_lock plain key.octets)

end LockedFile
end SealedGateway
