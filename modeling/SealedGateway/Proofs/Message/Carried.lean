import SealedGateway.Proofs.Message.Refusals
import SealedGateway.Proofs.Message.Reopening

/-!
# What a sent message carries

A message whose payload is made beforehand is sent whenever its keys share a key and the entropy
suffices, and it opens, under whichever keys share that key, to its kind and its payload.  If the
payload cannot be made, nothing is drawn and nothing is recorded.
-/

namespace SealedGateway

/-- Whether two keys can be read and share a key. -/
def PublicBox.Shares (publicKey privateKey : Value) (key : Octets 32) : Prop :=
  ∃ own peer, PrivateKey.ofValue privateKey = .ok own ∧ PublicKey.ofValue publicKey = .ok peer ∧
    sharedKey? own.octets peer.octets = some key

theorem PublicBox.Shares.prepare_eq {publicKey privateKey : Value} {key : Octets 32}
    (shares : Shares publicKey privateKey key) (refusal : Failure) :
    prepare refusal publicKey privateKey = .ok key :=
  prepare_eq_ok_iff.mpr shares

/-- The box of two keys can be prepared exactly if they share a key. -/
theorem PublicBox.canPrepare_iff {publicKey privateKey : Value} :
    CanPrepare publicKey privateKey ↔ ∃ key, Shares publicKey privateKey key := by
  constructor
  · rintro ⟨own, peer, key, shares⟩
    exact ⟨key, own, peer, shares⟩
  · rintro ⟨key, own, peer, shares⟩
    exact ⟨own, peer, key, shares⟩

/-- Whether a stream gives an amount of padding and a nonce behind it: there may be bytes that
decide nothing, then comes one that decides the amount, and at least twenty-four follow. -/
def Entropy.SufficesForMessage (entropy : Entropy) : Prop :=
  ∃ rejected byte rest, entropy.remaining = List.replicate rejected 255 ++ byte :: rest ∧
    byte ≠ 255 ∧ 24 ≤ rest.length

namespace Padding

/-- A byte decides an amount exactly if it is not 255. -/
theorem toNat_lt_iff {byte : UInt8} : byte.toNat < 255 ↔ byte ≠ 255 := by
  have isByte := byte.toNat_lt
  have greatest : (255 : UInt8).toNat = 255 := rfl
  rw [ne_eq, ← UInt8.toNat_inj, greatest]
  omega

/-- The first byte other than 255 decides the amount. -/
theorem amountOf?_behind_rejected (rejected : Nat) {byte : UInt8} (decides : byte ≠ 255)
    (rest : Bytes) :
    amountOf? (List.replicate rejected 255 ++ byte :: rest) =
      some (byte.toNat + 1, rejected + 1) := by
  induction rejected with
  | zero =>
    rw [List.replicate_zero, List.nil_append, amountOf?, if_pos (toNat_lt_iff.mpr decides)]
  | succ rejected ih =>
    have isRejected : ¬ (255 : UInt8).toNat < 255 := by decide
    rw [List.replicate_succ, List.cons_append, amountOf?, if_neg isRejected, ih, Option.map_some]

end Padding

/-- Whether an envelope opens to a kind and a payload under whichever keys share a given key. -/
def Envelope.Carries (envelope : Envelope) (key : Octets 32) (kind : MessageKind)
    (payload : Bytes) : Prop :=
  ∀ publicKey privateKey, PublicBox.Shares publicKey privateKey key →
    Opening.openMessage (.octets envelope.box) (.octets envelope.nonce.toList) publicKey
      privateKey = .ok (UInt8.ofNat kind.code, payload)

namespace Sending

/-- Whether a payload comes out of an operation that sends with two keys: it has made a message, and
the message opens to the payload with keys that share the key of those two. -/
inductive ComesOut (operation : (publicKey privateKey : Value) → Work Envelope) (payload : Bytes) :
    Prop
  | opened {publicKey privateKey otherPublic otherPrivate : Value} {key : Octets 32}
      {context after : Context} {envelope : Envelope} {kind : UInt8}
      (shares : PublicBox.Shares publicKey privateKey key)
      (sent : (operation publicKey privateKey).perform context = (.ok envelope, after))
      (alsoShares : PublicBox.Shares otherPublic otherPrivate key)
      (opens : Opening.openMessage (.octets envelope.box) (.octets envelope.nonce.toList)
        otherPublic otherPrivate = .ok (kind, payload)) :
      ComesOut operation payload

/-- Sends a payload of a kind, if the payload can be made. -/
def sendMade (made : Except Failure Bytes) (kind : MessageKind) (publicKey privateKey : Value) :
    Work Envelope := do
  let payload ← Work.ofExcept made
  send (.octets payload) (.messageKind kind) publicKey privateKey

variable {kind : MessageKind} {publicKey privateKey : Value}

/-- What cannot be made is refused before the keys are looked at. -/
theorem perform_sendMade_of_error {made : Except Failure Bytes} {failure : Failure}
    (refused : made = .error failure) (context : Context) :
    (sendMade made kind publicKey privateKey).perform context = (.error failure, context) := by
  rw [sendMade, refused, Work.perform_bind, Work.perform_ofExcept]

theorem perform_sendMade_of_ok {made : Except Failure Bytes} {payload : Bytes}
    (isMade : made = .ok payload) (context : Context) :
    (sendMade made kind publicKey privateKey).perform context =
      (send (.octets payload) (.messageKind kind) publicKey privateKey).perform context := by
  rw [sendMade, isMade, Work.perform_bind, Work.perform_ofExcept]

variable {made : Except Failure Bytes} {payload : Bytes} {key : Octets 32}

/-- A payload is sent if the keys share a key and the entropy suffices. -/
theorem exists_envelope_of_sendMade (isMade : made = .ok payload)
    (shares : PublicBox.Shares publicKey privateKey key) {context : Context}
    (hasEnough : context.entropy.SufficesForMessage) :
    ∃ envelope after,
      (sendMade made kind publicKey privateKey).perform context = (.ok envelope, after) := by
  obtain ⟨rejected, byte, rest, streamIs, decides, isLong⟩ := hasEnough
  have given := Padding.amountOf?_behind_rejected rejected decides rest
  rw [← streamIs] at given
  rw [perform_sendMade_of_ok isMade]
  apply exists_envelope_of_send kind.toNumber_eq rfl rfl (shares.prepare_eq _) given
  rw [streamIs, List.length_append, List.length_replicate, List.length_cons]
  omega

/-- A payload that has been sent is carried. -/
theorem carries_of_sendMade (isMade : made = .ok payload)
    (shares : PublicBox.Shares publicKey privateKey key) {context after : Context}
    {envelope : Envelope}
    (sent : (sendMade made kind publicKey privateKey).perform context = (.ok envelope, after)) :
    envelope.Carries key kind payload := by
  rw [perform_sendMade_of_ok isMade] at sent
  obtain ⟨_, amount, prepared, bounds, boxIs⟩ := exists_key_of_send kind.toNumber_eq rfl sent
  obtain rfl := Except.ok.inj ((shares.prepare_eq _).symm.trans prepared)
  intro otherPublic otherPrivate alsoShares
  rw [boxIs]
  exact Opening.openMessage_lock (alsoShares.prepare_eq _) envelope.nonce _ payload bounds

/-- Nothing but the payload that has been made comes out. -/
theorem ComesOut.made_eq (comesOut : ComesOut (sendMade made kind) payload) :
    made = .ok payload := by
  obtain ⟨shares, sent, alsoShares, opens⟩ := comesOut
  cases isMade : made with
  | error failure =>
    rw [perform_sendMade_of_error isMade] at sent
    cases congrArg Prod.fst sent
  | ok carried =>
    have carries := carries_of_sendMade isMade shares sent _ _ alsoShares
    injection opens.symm.trans carries with samePair
    exact congrArg Except.ok (congrArg Prod.snd samePair).symm

end Sending
end SealedGateway
