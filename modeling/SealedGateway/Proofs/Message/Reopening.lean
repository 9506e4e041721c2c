import Mathlib.Logic.ExistsUnique
import SealedGateway.Proofs.Message.Boxes

/-!
# Sending and opening are inverse

With keys that share a secret and a fixed nonce, opening takes exactly the boxes that sending makes.
Each content has one box, which is longer by the tag, and every other byte string is refused in the
same way, those too short for a tag among them.
-/

namespace SealedGateway

/-- The two keys can be read, and their shared secret is not the zero one. -/
def PublicBox.CanPrepare (publicKey privateKey : Value) : Prop :=
  ∃ own peer key, PrivateKey.ofValue privateKey = .ok own ∧ PublicKey.ofValue publicKey = .ok peer ∧
    sharedKey? own.octets peer.octets = some key

/-- Keys whose box can be prepared give one key, whatever the refusal would have been. -/
theorem PublicBox.CanPrepare.exists_key {publicKey privateKey : Value}
    (canPrepare : CanPrepare publicKey privateKey) :
    ∃ key, ∀ refusal, prepare refusal publicKey privateKey = .ok key := by
  obtain ⟨own, peer, key, isOwn, isPeer, isShared⟩ := canPrepare
  refine ⟨key, fun refusal => ?_⟩
  exact prepare_eq_ok_iff.mpr ⟨own, peer, isOwn, isPeer, isShared⟩

namespace Opening

section Prepared

variable {publicKey privateKey : Value} {key : Octets 32}
  (prepared : PublicBox.prepare (.cannotOpen .unusableKeys) publicKey privateKey = .ok key)
  (nonce : Octets 24)

include prepared

/-- A box holds the data exactly if it is the one that the data is locked in. -/
theorem openBox_eq_ok_iff {box data : Bytes} :
    openBox (.octets box) (.octets nonce.toList) publicKey privateKey = .ok data ↔
      box = SecretBox.lock key nonce data := by
  rw [openBox_octets, prepared, Except.bind, ← SecretBox.unlock?_eq_some_iff]
  cases SecretBox.unlock? key nonce box <;> simp

/-- What is locked nowhere does not open. -/
theorem openBox_of_not_locked {box : Bytes}
    (isNoBox : ¬ ∃ data, box = SecretBox.lock key nonce data) :
    openBox (.octets box) (.octets nonce.toList) publicKey privateKey =
      .error (.cannotOpen .envelope) := by
  rw [openBox_octets, prepared, Except.bind, SecretBox.unlock?_eq_none_iff.mpr isNoBox]
  rfl

end Prepared

/-- With keys whose box can be prepared, a byte string opens to some data exactly if it is the box
that sending this data makes when the nonce is drawn for it.  So every data has one box, longer by
the sixteen bytes of the tag, which its sender can open again; everything else, and whatever is
shorter than a tag, cannot be opened. -/
theorem openBox_inverts_sendRaw {publicKey privateKey : Value}
    (canPrepare : PublicBox.CanPrepare publicKey privateKey) {context : Context}
    {nonce : Octets 24} {entropy : Entropy}
    (drawn : context.entropy.draw? 24 = some (nonce, entropy)) :
    let sent (data : Bytes) :=
      ((Sending.sendRaw (.octets data) publicKey privateKey).perform context).1
    let opened (box : Bytes) :=
      openBox (.octets box) (.octets nonce.toList) publicKey privateKey
    (∀ box data, opened box = .ok data ↔ sent data = .ok ⟨box, nonce⟩) ∧
    (∀ box, (¬ ∃ data, sent data = .ok ⟨box, nonce⟩) →
      opened box = .error (.cannotOpen .envelope)) ∧
    (∀ box, box.length < 16 → opened box = .error (.cannotOpen .envelope)) ∧
    (∀ data, ∃! box, opened box = .ok data) ∧
    (∀ box data, opened box = .ok data → box.length = data.length + 16) ∧
    (∀ data envelope, sent data = .ok envelope →
      openBox (.octets envelope.box) (.octets envelope.nonce.toList) publicKey privateKey =
        .ok data) := by
  obtain ⟨key, prepared⟩ := canPrepare.exists_key
  intro sent opened
  have sent_eq (data : Bytes) : sent data = .ok ⟨SecretBox.lock key nonce data, nonce⟩ :=
    congrArg Prod.fst (Sending.perform_sendRaw_of_draw? (prepared _) drawn data)
  have opened_iff (box data : Bytes) :
      opened box = .ok data ↔ box = SecretBox.lock key nonce data :=
    openBox_eq_ok_iff (prepared _) nonce
  have opened_iff_sent (box data : Bytes) :
      opened box = .ok data ↔ sent data = .ok ⟨box, nonce⟩ := by
    rw [opened_iff, sent_eq]
    simp [eq_comm]
  have isRefused {box : Bytes} (isNoBox : ¬ ∃ data, box = SecretBox.lock key nonce data) :
      opened box = .error (.cannotOpen .envelope) :=
    openBox_of_not_locked (prepared _) nonce isNoBox
  refine ⟨opened_iff_sent, ?_, ?_, ?_, ?_, ?_⟩
  · intro box isNotSent
    apply isRefused
    rintro ⟨data, isLocked⟩
    exact isNotSent ⟨data, (opened_iff_sent box data).mp ((opened_iff box data).mpr isLocked)⟩
  · intro box isShort
    apply isRefused
    rintro ⟨data, rfl⟩
    rw [SecretBox.length_lock, SecretBox.tagSize] at isShort
    omega
  · intro data
    simp only [opened_iff]
    exact ⟨_, rfl, fun _ isLocked => isLocked⟩
  · intro box data isOpen
    rw [(opened_iff box data).mp isOpen]
    exact SecretBox.length_lock key nonce data
  · intro data envelope isSent
    rw [sent_eq] at isSent
    cases isSent
    exact openBox_lock (prepared _) nonce data

/-- The base point of the curve as a public key. -/
def basePoint : PublicKey := ⟨Octets.ofPadded 32 [9]⟩

/-- A private key as bytes. -/
def plainKey : Bytes := List.replicate 32 7

theorem canPrepare_plainKey : PublicBox.CanPrepare (.publicKey basePoint) (.octets plainKey) := by
  have isShared : PublicBox.sharedKey? (Octets.ofPadded 32 plainKey) basePoint.octets ≠ none := by
    decide +kernel
  obtain ⟨key, shared⟩ := Option.ne_none_iff_exists'.mp isShared
  exact ⟨⟨Octets.ofPadded 32 plainKey⟩, basePoint, key, rfl, rfl, shared⟩

/-- Empty data has one box, of sixteen bytes, and fifteen bytes are none. -/
theorem openBox_inverts_sendRaw_of_plainKey :
    PublicBox.CanPrepare (.publicKey basePoint) (.octets plainKey) ∧
      (Context.initial (List.replicate 24 5)).entropy.draw? 24 =
        some (Octets.ofPadded 24 (List.replicate 24 5), ⟨[], 24⟩) ∧
      (∃ box, box.length = 16 ∧
        openBox (.octets box) (.octets (Octets.ofPadded 24 (List.replicate 24 5)).toList)
          (.publicKey basePoint) (.octets plainKey) = .ok []) ∧
      openBox (.octets (List.replicate 15 0))
        (.octets (Octets.ofPadded 24 (List.replicate 24 5)).toList) (.publicKey basePoint)
        (.octets plainKey) = .error (.cannotOpen .envelope) := by
  have drawn : (Context.initial (List.replicate 24 5)).entropy.draw? 24 =
      some (Octets.ofPadded 24 (List.replicate 24 5), ⟨[], 24⟩) := by
    decide
  obtain ⟨-, -, isShort, isUnique, lengthIs, -⟩ :=
    openBox_inverts_sendRaw canPrepare_plainKey drawn
  obtain ⟨box, isOpen, -⟩ := isUnique []
  exact ⟨canPrepare_plainKey, drawn, ⟨box, lengthIs box [] isOpen, isOpen⟩,
    isShort (List.replicate 15 0) (by decide)⟩

end Opening
end SealedGateway
