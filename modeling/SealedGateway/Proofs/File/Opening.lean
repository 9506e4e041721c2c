import SealedGateway.Proofs.File.Locking
import SealedGateway.Proofs.Work.Outcomes

/-!
# Which locked files open

A locked file opens with a key to a file and a thumbnail exactly if locking these under the key
makes it.  When it does not open, the failure names the part that stands in the way, the file before
the thumbnail, and nothing of either part is given.
-/

namespace SealedGateway

namespace PlainFile

/-- The thumbnail as it is handed over. -/
def thumbnailValue (plain : PlainFile) : Value :=
  plain.thumbnail.elim .null .octets

theorem readThumbnail_thumbnailValue (plain : PlainFile) :
    readThumbnail plain.thumbnailValue = .ok plain.thumbnail := by
  rw [thumbnailValue]
  cases plain.thumbnail <;> rfl

/-- A file and its thumbnail are locked under the key that is drawn. -/
theorem lockValues_of_draw? (plain : PlainFile) {context : Context} {key : SymmetricKey}
    {entropy : Entropy} (drawn : context.entropy.draw? 32 = some (key.octets, entropy)) :
    ((lockValues (.octets plain.file) plain.thumbnailValue).perform context).1 =
      .ok (plain.lock key.octets, key) := by
  have isFile : (Value.octets plain.file).toBytes = .ok plain.file := rfl
  have lengthIs : (Value.octets plain.file).length = .ok plain.file.length := rfl
  obtain ⟨after, performed⟩ := perform_lockValues_of_draw? isFile
    plain.readThumbnail_thumbnailValue lengthIs drawn
  rw [performed]

end PlainFile

namespace LockedFile

variable {locked : LockedFile} {key : SymmetricKey}

/-- The file is the box of some content under the nonce of files. -/
def FileOpens (locked : LockedFile) (key : SymmetricKey) : Prop :=
  ∃ content, locked.file = SecretBox.lock key.octets fileNonce content

/-- There is a thumbnail, possibly of no bytes, that is the box of no content under the nonce of
thumbnails. -/
def ThumbnailFails (locked : LockedFile) (key : SymmetricKey) : Prop :=
  ∃ box, locked.thumbnail = some box ∧
    ¬ ∃ content, box = SecretBox.lock key.octets thumbnailNonce content

theorem eq_lock_iff {key : Octets 32} {plain : PlainFile} :
    locked = plain.lock key ↔ locked.file = SecretBox.lock key fileNonce plain.file ∧
      locked.thumbnail = plain.thumbnail.map (SecretBox.lock key thumbnailNonce) := by
  obtain ⟨fileBox, thumbnailBox⟩ := locked
  rw [PlainFile.lock, mk.injEq]

/-- A locked file opens to what is locked in it and to nothing else. -/
theorem unlock_eq_ok_iff {key : Octets 32} {plain : PlainFile} :
    locked.unlock key = .ok plain ↔ locked = plain.lock key := by
  constructor
  · intro opened
    rw [eq_lock_iff]
    unfold unlock at opened
    split at opened
    · cases opened
    next file fileOpens =>
    rw [SecretBox.unlock?_eq_some_iff] at fileOpens
    split at opened
    · next isAbsent =>
      cases opened
      exact ⟨fileOpens, isAbsent⟩
    next box isThumbnail =>
    split at opened
    · cases opened
    next thumbnail thumbnailOpens =>
    rw [SecretBox.unlock?_eq_some_iff] at thumbnailOpens
    cases opened
    refine ⟨fileOpens, ?_⟩
    rw [isThumbnail, thumbnailOpens, Option.map_some]
  · rintro rfl
    exact unlock_lock plain key

theorem unlockWith_eq_ok_iff {plain : PlainFile} :
    locked.unlockWith (.symmetricKey key) = .ok plain ↔ locked.unlock key.octets = .ok plain := by
  rw [unlockWith_symmetricKey, Outcome.mapError_eq_ok_iff]

theorem unlockWith_eq_error_iff {fault : OpeningFault} :
    locked.unlockWith (.symmetricKey key) = .error (.cannotOpen fault) ↔
      locked.unlock key.octets = .error fault := by
  rw [unlockWith_symmetricKey, Outcome.mapError_eq_error_iff]
  simp only [Failure.cannotOpen.injEq, exists_eq_right]

/-- The file is in the way whatever the thumbnail is. -/
theorem unlock_of_not_fileOpens (isBroken : ¬ locked.FileOpens key) :
    locked.unlock key.octets = .error .file := by
  rw [unlock, SecretBox.unlock?_eq_none_iff.mpr isBroken]

/-- The thumbnail is in the way of a file that opens. -/
theorem unlock_of_thumbnailFails (opens : locked.FileOpens key)
    (fails : locked.ThumbnailFails key) : locked.unlock key.octets = .error .thumbnail := by
  obtain ⟨content, isFile⟩ := opens
  obtain ⟨box, isThumbnail, isBroken⟩ := fails
  rw [unlock, SecretBox.unlock?_eq_some_iff.mpr isFile, isThumbnail]
  simp only [SecretBox.unlock?_eq_none_iff.mpr isBroken]

/-- Nothing else is in the way. -/
theorem exists_plain_of_opens (opens : locked.FileOpens key)
    (opensThumbnail : ¬ locked.ThumbnailFails key) :
    ∃ plain, locked.unlock key.octets = .ok plain := by
  obtain ⟨content, isFile⟩ := opens
  simp only [unlock_eq_ok_iff, eq_lock_iff]
  cases isThumbnail : locked.thumbnail with
  | none => exact ⟨⟨content, none⟩, isFile, rfl⟩
  | some box =>
    obtain ⟨thumbnail, isBox⟩ : ∃ thumbnail,
        box = SecretBox.lock key.octets thumbnailNonce thumbnail := by
      apply Classical.byContradiction
      intro isBroken
      exact opensThumbnail ⟨box, isThumbnail, isBroken⟩
    refine ⟨⟨content, some thumbnail⟩, isFile, ?_⟩
    rw [isBox, Option.map_some]

/-- Each outcome has its own reason. -/
theorem unlock_cases (locked : LockedFile) (key : SymmetricKey) :
    (¬ locked.FileOpens key ∧ locked.unlock key.octets = .error .file) ∨
    (locked.FileOpens key ∧ locked.ThumbnailFails key ∧
      locked.unlock key.octets = .error .thumbnail) ∨
    (locked.FileOpens key ∧ ¬ locked.ThumbnailFails key ∧
      ∃ plain, locked.unlock key.octets = .ok plain) := by
  by_cases opens : locked.FileOpens key
  · by_cases fails : locked.ThumbnailFails key
    · exact .inr (.inl ⟨opens, fails, unlock_of_thumbnailFails opens fails⟩)
    · exact .inr (.inr ⟨opens, fails, exists_plain_of_opens opens fails⟩)
  · exact .inl ⟨opens, unlock_of_not_fileOpens opens⟩

theorem unlock_eq_error_file_iff :
    locked.unlock key.octets = .error .file ↔ ¬ locked.FileOpens key := by
  rcases locked.unlock_cases key with
    ⟨isBroken, refused⟩ | ⟨opens, -, refused⟩ | ⟨opens, -, plain, unlocked⟩
  · simp [isBroken, refused]
  · simp [opens, refused]
  · simp [opens, unlocked]

theorem unlock_eq_error_thumbnail_iff :
    locked.unlock key.octets = .error .thumbnail ↔
      locked.FileOpens key ∧ locked.ThumbnailFails key := by
  rcases locked.unlock_cases key with
    ⟨isBroken, refused⟩ | ⟨opens, fails, refused⟩ | ⟨opens, isSound, plain, unlocked⟩
  · simp [isBroken, refused]
  · simp [opens, fails, refused]
  · simp [isSound, unlocked]

/-- With the key that is drawn for it, a locked file opens exactly to the file and the thumbnail
whose locking makes it, and a thumbnail is there exactly if a locked one is.  Otherwise one of two
failures is given and nothing else: that of the file exactly if the file does not open, whatever the
thumbnail is, and that of the thumbnail exactly if the file opens and a thumbnail, which may have no
bytes, does not. -/
theorem unlockWith_inverts_lockValues (locked : LockedFile) (key : SymmetricKey)
    {context : Context} {entropy : Entropy}
    (drawn : context.entropy.draw? 32 = some (key.octets, entropy)) :
    let locks (plain : PlainFile) :=
      ((PlainFile.lockValues (.octets plain.file) plain.thumbnailValue).perform context).1
    let opened := locked.unlockWith (.symmetricKey key)
    (∀ plain, opened = .ok plain ↔ locks plain = .ok (locked, key)) ∧
    (∀ plain, opened = .ok plain → (plain.thumbnail = none ↔ locked.thumbnail = none)) ∧
    (opened = .error (.cannotOpen .file) ↔ ¬ locked.FileOpens key) ∧
    (opened = .error (.cannotOpen .thumbnail) ↔
      locked.FileOpens key ∧ locked.ThumbnailFails key) ∧
    ((¬ ∃ plain, locks plain = .ok (locked, key)) →
      opened = .error (.cannotOpen .file) ∨ opened = .error (.cannotOpen .thumbnail)) := by
  intro locks opened
  have opened_iff (plain : PlainFile) : opened = .ok plain ↔ locked = plain.lock key.octets := by
    rw [← unlock_eq_ok_iff, unlockWith_eq_ok_iff]
  have locks_iff (plain : PlainFile) :
      locks plain = .ok (locked, key) ↔ locked = plain.lock key.octets := by
    have isLocked : locks plain = .ok (plain.lock key.octets, key) :=
      plain.lockValues_of_draw? drawn
    rw [isLocked]
    simp [eq_comm]
  refine ⟨?_, ?_, ?_, ?_, ?_⟩
  · intro plain
    rw [opened_iff, locks_iff]
  · intro plain isOpen
    obtain ⟨-, thumbnailIs⟩ := eq_lock_iff.mp ((opened_iff plain).mp isOpen)
    rw [thumbnailIs, Option.map_eq_none_iff]
  · rw [unlockWith_eq_error_iff, unlock_eq_error_file_iff]
  · rw [unlockWith_eq_error_iff, unlock_eq_error_thumbnail_iff]
  · intro isNotLocked
    rw [unlockWith_eq_error_iff, unlockWith_eq_error_iff]
    rcases locked.unlock_cases key with
      ⟨-, refused⟩ | ⟨-, -, refused⟩ | ⟨-, -, plain, unlocked⟩
    · exact .inl refused
    · exact .inr refused
    · exact absurd ⟨plain, (locks_iff plain).mpr (unlock_eq_ok_iff.mp unlocked)⟩ isNotLocked

/-- A key of thirty-two equal bytes. -/
def evenKey : SymmetricKey := ⟨Octets.ofPadded 32 (List.replicate 32 7)⟩

/-- A file with a thumbnail of no bytes. -/
def plainWithoutPixels : PlainFile := ⟨[37, 80, 68, 70], some []⟩

/-- A locked file with a thumbnail of no bytes where a box should be. -/
def lockedWithoutTag (key : SymmetricKey) : LockedFile :=
  ⟨SecretBox.lock key.octets fileNonce [37, 80, 68, 70], some []⟩

theorem not_isLocked_nil (key : Octets 32) (nonce : Octets 24) :
    ¬ ∃ content, [] = SecretBox.lock key nonce content := by
  rintro ⟨content, isLocked⟩
  have lengths := congrArg List.length isLocked
  rw [SecretBox.length_lock, SecretBox.tagSize, List.length_nil] at lengths
  omega

/-- A thumbnail of no bytes is locked and opened as such, and a box of no bytes does not open: the
thumbnail fails behind a file that opens, and the file fails before it. -/
theorem unlockWith_inverts_lockValues_of_evenKey :
    (Context.initial (List.replicate 32 7)).entropy.draw? 32 =
        some (evenKey.octets, ⟨[], 32⟩) ∧
      (plainWithoutPixels.lock evenKey.octets).unlockWith (.symmetricKey evenKey) =
        .ok plainWithoutPixels ∧
      (lockedWithoutTag evenKey).unlockWith (.symmetricKey evenKey) =
        .error (.cannotOpen .thumbnail) ∧
      LockedFile.unlockWith ⟨[], some []⟩ (.symmetricKey evenKey) =
        .error (.cannotOpen .file) := by
  have drawn : (Context.initial (List.replicate 32 7)).entropy.draw? 32 =
      some (evenKey.octets, ⟨[], 32⟩) := by
    decide
  refine ⟨drawn, ?_, ?_, ?_⟩
  · have inverts := (unlockWith_inverts_lockValues (plainWithoutPixels.lock evenKey.octets) evenKey
      drawn).1
    exact (inverts plainWithoutPixels).mpr (plainWithoutPixels.lockValues_of_draw? drawn)
  · have isThumbnail := (unlockWith_inverts_lockValues (lockedWithoutTag evenKey) evenKey
      drawn).2.2.2.1
    exact isThumbnail.mpr ⟨⟨_, rfl⟩, [], rfl, not_isLocked_nil evenKey.octets thumbnailNonce⟩
  · have isFile := (unlockWith_inverts_lockValues ⟨[], some []⟩ evenKey drawn).2.2.1
    exact isFile.mpr (not_isLocked_nil evenKey.octets fileNonce)

end LockedFile
end SealedGateway
