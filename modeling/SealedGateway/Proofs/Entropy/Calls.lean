import Mathlib.Data.List.Forall2
import SealedGateway.Proofs.Entropy.Operations

/-!
# No byte is drawn twice

Calls are made one after the other on one stream of entropy, whether or not those before them fail.
Each takes the stretches that its outcome calls for, and all stretches together follow one another
from the front of the stream, so that no byte lies in two of them.
-/

namespace SealedGateway

/-- A message as a caller asks for it: a payload of a given kind, or one of the messages that make
their own payload. -/
inductive Message
  | plain (payload kind : Value)
  | text (text : Value)
  | image (blobId size nonce : Value)
  | descriptor (descriptor : Descriptor)
  | receipt (status : Value) (ids : List Value)

namespace Message

/-- Sends a message. -/
def send (message : Message) (publicKey privateKey : Value) : Work Envelope :=
  match message with
  | plain payload kind => Sending.send payload kind publicKey privateKey
  | text written => Sending.sendText written publicKey privateKey
  | image blobId size nonce => Sending.sendImage blobId size nonce publicKey privateKey
  | descriptor described => Sending.sendDescriptor described publicKey privateKey
  | receipt status ids => Sending.sendReceipt status ids publicKey privateKey

/-- The payload of a message and its kind. -/
def letter : Message → Except Failure (Value × Value)
  | plain payload kind => .ok (payload, kind)
  | text (.text written) =>
    match written.encode? with
    | some bytes => .ok (.octets bytes, .messageKind .text)
    | none => .error .unencodable
  | text _ => .error .lacksOperation
  | image blobId size nonce => do
    return (.octets (← Sending.imageRecord blobId size nonce), .messageKind .image)
  | descriptor described => do return (.octets (← described.toJson), .messageKind .file)
  | receipt status ids => do
    return (.octets (← Sending.receiptRecord status ids), .messageKind .deliveryReceipt)

/-- A message is sent by making its payload and sending it with its kind. -/
theorem send_eq (message : Message) (publicKey privateKey : Value) :
    message.send publicKey privateKey =
      Work.ofExcept message.letter >>= fun (payload, kind) =>
        Sending.send payload kind publicKey privateKey := by
  -- A failure to make the payload is a failure of both sides.
  have madeFirst (made : Except Failure Bytes) (kind : MessageKind) :
      (do
        let payload ← Work.ofExcept made
        Sending.send (.octets payload) (.messageKind kind) publicKey privateKey : Work Envelope) =
      Work.ofExcept (do return (.octets (← made), .messageKind kind)) >>= fun (payload, kind) =>
        Sending.send payload kind publicKey privateKey := by
    cases made <;> rfl
  match message with
  | plain payload kind => rfl
  | text value =>
    cases value with
    | text written =>
      simp only [send, Sending.sendText, letter]
      cases written.encode? <;> rfl
    | _ => rfl
  | image blobId size nonce => exact madeFirst _ .image
  | descriptor described => exact madeFirst _ .file
  | receipt status ids => exact madeFirst _ .deliveryReceipt

/-- The draws that go with an attempt to send a message: none if its payload cannot be made, and
otherwise those of the payload with its kind. -/
def IsAccounted (message : Message) (publicKey privateKey : Value) (stretches : List Stretch)
    (outcome : Except Failure Envelope) : Prop :=
  match message.letter with
  | .error failure => outcome = .error failure ∧ stretches = []
  | .ok (payload, kind) =>
    Sending.MessageDraws payload kind publicKey privateKey stretches outcome

theorem draws_send (message : Message) (publicKey privateKey : Value) (context : Context) :
    ∃ stretches result, (message.send publicKey privateKey).Draws context stretches result ∧
      message.IsAccounted publicKey privateKey stretches result.1 := by
  rw [send_eq]
  unfold IsAccounted
  cases message.letter with
  | error failure => exact ⟨[], _, .ofExcept_error failure context, rfl, rfl⟩
  | ok letter =>
    obtain ⟨stretches, result, draws, accounted⟩ :=
      Sending.draws_send letter.1 letter.2 publicKey privateKey context
    exact ⟨stretches, result, .ofExcept_ok draws, accounted⟩

end Message

/-- The calls that draw entropy. -/
inductive Call
  | keyPair
  | fileKey
  | file (file thumbnail : Value)
  | raw (data publicKey privateKey : Value)
  | message (message : Message) (publicKey privateKey : Value)

namespace Call

/-- What a call gives if it succeeds. -/
def Yield : Call → Type
  | keyPair => KeyPair
  | fileKey => SymmetricKey
  | file _ _ => LockedFile × SymmetricKey
  | raw _ _ _ => Envelope
  | message _ _ _ => Envelope

/-- The work of a call. -/
def work : (call : Call) → Work call.Yield
  | keyPair => KeyPair.generate
  | fileKey => SymmetricKey.generate
  | file content thumbnail => PlainFile.lockValues content thumbnail
  | raw data publicKey privateKey => Sending.sendRaw data publicKey privateKey
  | message sent publicKey privateKey => sent.send publicKey privateKey

/-- The draws that go with an outcome of a call. -/
def IsAccounted : (call : Call) → List Stretch → Except Failure call.Yield → Prop
  | keyPair => KeyPair.GenerateDraws
  | fileKey => SymmetricKey.GenerateDraws
  | file content thumbnail => PlainFile.LockDraws content thumbnail
  | raw data publicKey privateKey => Sending.RawDraws data publicKey privateKey
  | message sent publicKey privateKey => sent.IsAccounted publicKey privateKey

/-- Every call draws what its outcome calls for. -/
theorem draws_work (call : Call) (context : Context) :
    ∃ stretches result, call.work.Draws context stretches result ∧
      call.IsAccounted stretches result.1 := by
  cases call with
  | keyPair => exact KeyPair.draws_generate context
  | fileKey => exact SymmetricKey.draws_generate context
  | file content thumbnail => exact PlainFile.draws_lockValues content thumbnail context
  | raw data publicKey privateKey => exact Sending.draws_sendRaw data publicKey privateKey context
  | message sent publicKey privateKey => exact sent.draws_send publicKey privateKey context

end Call

/-- A call that has been made. -/
structure Attempt where
  call : Call
  /-- The context in which it was made. -/
  before : Context
  outcome : Except Failure call.Yield
  /-- The context that it left. -/
  after : Context

namespace Attempt

/-- Makes a call. -/
def make (call : Call) (context : Context) : Attempt :=
  let (outcome, after) := call.work.perform context
  ⟨call, context, outcome, after⟩

/-- Makes calls one after the other, whether or not those before them fail, and gives the context in
the end. -/
def makeAll (context : Context) : List Call → List Attempt × Context
  | [] => ([], context)
  | call :: rest =>
    let first := make call context
    let (attempts, last) := makeAll first.after rest
    (first :: attempts, last)

/-- Whether stretches are what an attempt drew, and are accounted for by its outcome. -/
def Drew (attempt : Attempt) (stretches : List Stretch) : Prop :=
  attempt.call.work.Draws attempt.before stretches (attempt.outcome, attempt.after) ∧
    attempt.call.IsAccounted stretches attempt.outcome

theorem exists_drew_make (call : Call) (context : Context) :
    ∃ stretches, (make call context).Drew stretches ∧
      context.entropy.Takes stretches (make call context).after.entropy := by
  obtain ⟨stretches, result, draws, accounted⟩ := call.draws_work context
  have made : make call context = ⟨call, context, result.1, result.2⟩ := by
    rw [make, draws.perform_eq]
  rw [made]
  exact ⟨stretches, ⟨draws, accounted⟩, draws.takes⟩

/-- Calls in a row take their stretches one after the other. -/
theorem exists_drew_makeAll (calls : List Call) (context : Context) :
    ∃ stretches, List.Forall₂ Drew (makeAll context calls).1 stretches ∧
      context.entropy.Takes stretches.flatten (makeAll context calls).2.entropy := by
  induction calls generalizing context with
  | nil => exact ⟨[], .nil, .nothing _⟩
  | cons call rest ih =>
    obtain ⟨first, drewFirst, takesFirst⟩ := exists_drew_make call context
    obtain ⟨stretches, drewRest, takesRest⟩ := ih (make call context).after
    exact ⟨first :: stretches, .cons drewFirst drewRest, takesFirst.append takesRest⟩

theorem map_call_makeAll (calls : List Call) (context : Context) :
    (makeAll context calls).1.map call = calls := by
  induction calls generalizing context with
  | nil => rfl
  | cons first rest ih => exact congrArg (first :: ·) (ih (make first context).after)

/-- However calls are made in a row, the stretches that they draw follow one another from the front
of the stream up to what is left of it, so that none begins before those in front of it end; each
call draws what its outcome calls for. -/
theorem stretches_disjoint (stream : Bytes) (thresholds : Thresholds) (log : List LogRecord)
    (calls : List Call) :
    ∃ attempts after stretches,
      makeAll ⟨Entropy.ofBytes stream, thresholds, log⟩ calls = (attempts, after) ∧
      attempts.map call = calls ∧
      List.Forall₂ Drew attempts stretches ∧
      Stretch.Consecutive 0 stretches.flatten after.entropy.used ∧
      stretches.flatten.Pairwise (fun earlier later => earlier.stop ≤ later.start) ∧
      ∀ stretch ∈ stretches.flatten,
        stretch.bytes = (stream.drop stretch.start).take stretch.bytes.length := by
  obtain ⟨stretches, drew, takes⟩ :=
    exists_drew_makeAll calls ⟨Entropy.ofBytes stream, thresholds, log⟩
  exact ⟨_, _, stretches, rfl, map_call_makeAll calls _, drew, takes.consecutive,
    takes.consecutive.pairwise, takes.bytes_eq⟩

/-- A key that finds too little entropy leaves it to the calls behind it. -/
example : (makeAll (Context.initial (List.replicate 40 7)) [.fileKey, .fileKey]).2.entropy =
    ⟨List.replicate 8 7, 32⟩ :=
  rfl

end Attempt
end SealedGateway
