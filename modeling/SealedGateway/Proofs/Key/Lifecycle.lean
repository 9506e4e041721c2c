import SealedGateway.Key.Holder
import SealedGateway.Proofs.Key.Reading

/-!
# The life of a file key

A step either makes a key, which is then the held one, or fails and leaves the held key as it is, or
ends the use of the held key, or only looks at it.  The end of the use overwrites all bytes of the
key by zeros, whichever way a block ends, and nothing but a new key takes their place.
-/

namespace SealedGateway

/-- The key whose bytes are all zero. -/
def SymmetricKey.zeroed : SymmetricKey := ⟨Octets.zero 32⟩

/-- Wiping overwrites every byte. -/
theorem SymmetricKey.wiped_eq_zeroed (key : SymmetricKey) : key.wiped = zeroed := by
  have bytesAre : key.octets.toList.overwritten = (Octets.zero 32).toList := by
    rw [Bytes.overwritten_eq, key.octets.length_toList]
    rfl
  exact congrArg SymmetricKey.mk (Octets.ext bytesAre)

namespace KeyStep

/-- Whether a step asks for a new key. -/
inductive IsCreation : KeyStep → Prop
  | generate : IsCreation .generate
  | readBytes (value : Value) : IsCreation (.readBytes value)
  | readText (value : Value) : IsCreation (.readText value)

/-- Whether a step ends the use of the held key: it wipes the key, or it is a block, which may end
with a failure of its own. -/
inductive EndsUse : KeyStep → Prop
  | wipe : EndsUse .wipe
  | block (raised : Option Failure) : EndsUse (.block raised)

end KeyStep

namespace KeyHolder

/-- Whether a step makes a key: the bytes are drawn, or they are given, or their digits are. -/
inductive Makes (holder : KeyHolder) (key : SymmetricKey) : KeyStep → Prop
  | drawn {entropy : Entropy}
      (drawn : holder.context.entropy.draw? 32 = some (key.octets, entropy)) :
      Makes holder key .generate
  | bytes {value : Value} (isBytes : value.byteString? = some key.octets.toList) :
      Makes holder key (.readBytes value)
  | digits {spelled : WideText} (isSpelled : spelled.Spells key.octets.toList) :
      Makes holder key (.readText (.text spelled))

/-- Whether none of some steps makes a key, each in the holder that the steps before it leave. -/
def MakesNone (holder : KeyHolder) : List KeyStep → Prop
  | [] => True
  | first :: rest => (∀ key, ¬ holder.Makes key first) ∧ (holder.step first).2.MakesNone rest

variable {holder : KeyHolder} {key : SymmetricKey} {step : KeyStep}

/-! ## Single steps -/

/-- A key that is made is the held one from then on. -/
theorem step_of_makes (makes : holder.Makes key step) :
    (holder.step step).1 = [.held (some key)] ∧ (holder.step step).2.key = some key := by
  cases makes with
  | @drawn entropy drawn =>
    have made : SymmetricKey.generate.perform holder.context =
        (.ok key, { holder.context with entropy }) := by
      rw [SymmetricKey.generate, Work.perform_bind, Work.perform_draw_of_draw? drawn]
      rfl
    rw [KeyHolder.step, made]
    exact ⟨rfl, rfl⟩
  | bytes isBytes =>
    rw [KeyHolder.step, SymmetricKey.ofBytes_eq_ok_iff.mpr isBytes]
    exact ⟨rfl, rfl⟩
  | digits isSpelled =>
    rw [KeyHolder.step, SymmetricKey.ofText_eq_ok_iff.mpr ⟨_, rfl, isSpelled⟩]
    exact ⟨rfl, rfl⟩

/-- A step that makes no key although it is asked for one fails and changes nothing. -/
theorem step_of_not_makes (isCreation : step.IsCreation)
    (makesNone : ∀ key, ¬ holder.Makes key step) :
    ∃ failure, holder.step step = ([.failed failure holder.key], holder) := by
  cases isCreation with
  | generate =>
    cases drawn : holder.context.entropy.draw? 32 with
    | some found => exact absurd (.drawn drawn) (makesNone ⟨found.1⟩)
    | none =>
      have isShort := (Entropy.draw?_eq_none_iff _ _).mp drawn
      have refused : SymmetricKey.generate.perform holder.context =
          (.error .entropyExhausted, holder.context) := by
        rw [SymmetricKey.generate, Work.perform_bind, Work.perform_draw_of_short isShort]
      rw [KeyHolder.step, refused]
      exact ⟨_, rfl⟩
  | readBytes value =>
    cases made : SymmetricKey.ofBytes value with
    | ok key => exact absurd (.bytes (SymmetricKey.ofBytes_eq_ok_iff.mp made)) (makesNone key)
    | error fault =>
      rw [KeyHolder.step, made]
      exact ⟨_, rfl⟩
  | readText value =>
    cases made : SymmetricKey.ofText value with
    | ok key =>
      obtain ⟨spelled, rfl, isSpelled⟩ := SymmetricKey.ofText_eq_ok_iff.mp made
      exact absurd (.digits isSpelled) (makesNone key)
    | error fault =>
      rw [KeyHolder.step, made]
      exact ⟨_, rfl⟩

/-- At the end of its use the held key is overwritten.  A block shows the key, and then the failure
with which it ends, if there is one. -/
theorem step_of_endsUse (isHeld : holder.key = some key) (endsUse : step.EndsUse) :
    (holder.step step).2 = { holder with key := some .zeroed } ∧
      ∀ failure, step = .block (some failure) →
        (holder.step step).1 = [.inside key, .failed failure (some .zeroed)] := by
  have wiped_eq : holder.wiped = { holder with key := some .zeroed } := by
    rw [wiped, isHeld, Option.map_some, SymmetricKey.wiped_eq_zeroed]
  cases endsUse with
  | wipe =>
    simp only [KeyHolder.step, isHeld, wiped_eq]
    exact ⟨trivial, nofun⟩
  | block raised =>
    cases raised with
    | none =>
      simp only [KeyHolder.step, isHeld, wiped_eq]
      exact ⟨trivial, nofun⟩
    | some failure =>
      simp only [KeyHolder.step, isHeld, wiped_eq]
      refine ⟨trivial, ?_⟩
      rintro _ ⟨⟩
      rfl

/-! ## Runs -/

/-- Steps in a row are the first ones and then the others. -/
theorem run_append (holder : KeyHolder) (steps later : List KeyStep) :
    (holder.run (steps ++ later)).2 = ((holder.run steps).2.run later).2 := by
  induction steps generalizing holder with
  | nil => rfl
  | cons first rest ih => exact ih (holder.step first).2

/-- Only a new key takes the place of zeros. -/
theorem step_of_zeroed (isZeroed : holder.key = some .zeroed)
    (makesNone : ∀ key, ¬ holder.Makes key step) :
    (holder.step step).2.key = some .zeroed := by
  have keeps (isCreation : step.IsCreation) : (holder.step step).2.key = some .zeroed := by
    obtain ⟨failure, refused⟩ := step_of_not_makes isCreation makesNone
    rw [refused, isZeroed]
  have overwrites (endsUse : step.EndsUse) : (holder.step step).2.key = some .zeroed := by
    rw [(step_of_endsUse isZeroed endsUse).1]
  cases step with
  | generate => exact keeps .generate
  | readBytes value => exact keeps (.readBytes value)
  | readText value => exact keeps (.readText value)
  | wipe => exact overwrites .wipe
  | block raised => exact overwrites (.block raised)
  | compare value =>
    simp only [KeyHolder.step, isZeroed]

/-- Zeros stay as long as no key is made. -/
theorem run_of_zeroed {steps : List KeyStep} (isZeroed : holder.key = some .zeroed)
    (makesNone : holder.MakesNone steps) : (holder.run steps).2.key = some .zeroed := by
  -- The holder changes although the zeros stay, so the induction is over all holders.
  induction steps generalizing holder with
  | nil => exact isZeroed
  | cons first rest ih => exact ih (step_of_zeroed isZeroed makesNone.1) makesNone.2

/-- The end of its use leaves zeros in place of a key until another key is made. -/
theorem run_of_endsUse {later : List KeyStep} (isHeld : holder.key = some key)
    (endsUse : step.EndsUse) (makesNone : (holder.step step).2.MakesNone later) :
    (holder.run (step :: later)).2.key = some .zeroed := by
  have isZeroed : (holder.step step).2.key = some .zeroed := by
    rw [(step_of_endsUse isHeld endsUse).1]
  change ((holder.step step).2.run later).2.key = _
  exact run_of_zeroed isZeroed makesNone

/-- After any steps from any start: a held key has thirty-two bytes, and it is read back from its
text and from its bytes.  A step that makes a key puts it in place, and one that fails to make one
leaves everything as it is.  When its use ends, all bytes of the key are zero, and they are zero
after all further steps that make no key; the failure with which a block ends is the one that is
shown. -/
theorem key_lifecycle (start : KeyHolder) (before : List KeyStep) :
    let holder := (start.run before).2
    (∀ key, holder.key = some key →
      key.octets.toList.length = 32 ∧
      SymmetricKey.ofText (Value.ofString key.text) = .ok key ∧
      SymmetricKey.ofBytes (.octets key.octets.toList) = .ok key) ∧
    (∀ step key, holder.Makes key step →
      (holder.step step).1 = [.held (some key)] ∧ (holder.step step).2.key = some key) ∧
    (∀ step : KeyStep, step.IsCreation → (∀ key, ¬ holder.Makes key step) →
      ∃ failure, holder.step step = ([.failed failure holder.key], holder)) ∧
    (∀ step later key, step.EndsUse → holder.key = some key →
      (holder.step step).2.MakesNone later →
      ∃ left, (start.run (before ++ step :: later)).2.key = some left ∧
        left.octets.toList = List.replicate 32 0) ∧
    (∀ failure key, holder.key = some key →
      ∃ left, (holder.step (.block (some failure))).1 =
          [.inside key, .failed failure (some left)] ∧
        left.octets.toList = List.replicate 32 0) := by
  intro holder
  refine ⟨?_, ?_, ?_, ?_, ?_⟩
  · intro key _
    exact ⟨key.octets.length_toList, key.ofText_text, key.ofBytes_toList⟩
  · intro step key makes
    exact step_of_makes makes
  · intro step isCreation makesNone
    exact step_of_not_makes isCreation makesNone
  · intro step later key endsUse isHeld makesNone
    refine ⟨.zeroed, ?_, rfl⟩
    rw [run_append]
    exact run_of_endsUse isHeld endsUse makesNone
  · intro failure key isHeld
    exact ⟨.zeroed, (step_of_endsUse isHeld (.block _)).2 failure rfl, rfl⟩

/-- A holder without a key, and entropy for one. -/
def emptyHolder : KeyHolder := ⟨none, Context.initial (List.replicate 32 9)⟩

/-- A key is drawn between two that cannot be read. -/
def drawingSteps : List KeyStep :=
  [.readText (Value.ofString "0g"), .generate, .readBytes (.octets [1])]

/-- The drawn key is still held after the second failure, a block that fails overwrites it, and the
zeros outlast a draw for which no entropy is left, a second block and a comparison. -/
theorem key_lifecycle_of_failingBlock :
    (emptyHolder.run drawingSteps).2.key = some ⟨⟨List.replicate 32 9, rfl⟩⟩ ∧
    (∃ left, ((emptyHolder.run drawingSteps).2.step (.block (some .lacksOperation))).1 =
        [.inside ⟨⟨List.replicate 32 9, rfl⟩⟩, .failed .lacksOperation (some left)] ∧
      left.octets.toList = List.replicate 32 0) ∧
    ∃ left, (emptyHolder.run (drawingSteps ++
        [.block (some .lacksOperation), .generate, .block none, .compare .null])).2.key =
          some left ∧
      left.octets.toList = List.replicate 32 0 := by
  obtain ⟨-, -, -, leavesZeros, showsFailure⟩ := key_lifecycle emptyHolder drawingSteps
  have isHeld : (emptyHolder.run drawingSteps).2.key = some ⟨⟨List.replicate 32 9, rfl⟩⟩ := rfl
  refine ⟨isHeld, showsFailure .lacksOperation _ isHeld, ?_⟩
  apply leavesZeros _ _ _ (.block (some .lacksOperation)) isHeld
  refine ⟨?_, ?_, ?_, trivial⟩
  · rintro key ⟨drawn⟩
    cases drawn
  · nofun
  · nofun

end KeyHolder
end SealedGateway
