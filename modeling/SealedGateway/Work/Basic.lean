import SealedGateway.Failure
import SealedGateway.Work.Entropy
import SealedGateway.Work.Log

/-!
# Work that draws entropy and leaves records

An operation runs in a context: the entropy that is left, the thresholds of the log and the
records kept so far.  What an operation has used and written stays in the context when it fails.
-/

namespace SealedGateway

/-- What operations share. -/
structure Context where
  /-- The entropy that is left. -/
  entropy : Entropy
  /-- Which records are kept. -/
  thresholds : Thresholds
  /-- The records kept so far, in order. -/
  log : List LogRecord
deriving DecidableEq

/-- The context before any work, with a given stream of entropy. -/
def Context.initial (stream : Bytes) : Context :=
  ⟨Entropy.ofBytes stream, Thresholds.initial, []⟩

/-- An operation that can fail and that keeps its context when it does. -/
abbrev Work := ExceptT Failure (StateM Context)

namespace Work

/-- Runs an operation: its outcome and the context afterwards. -/
def perform {α : Type} (work : Work α) (context : Context) : Except Failure α × Context :=
  work context

/-- The operation with a given outcome and no effect. -/
def ofExcept {α : Type} (outcome : Except Failure α) : Work α :=
  fun context => (outcome, context)

@[simp] theorem perform_pure {α : Type} (value : α) (context : Context) :
    perform (pure value) context = (.ok value, context) := rfl

@[simp] theorem perform_ofExcept {α : Type} (outcome : Except Failure α) (context : Context) :
    perform (ofExcept outcome) context = (outcome, context) := rfl

/-- What comes after an operation runs in the context that the operation leaves; after a failure
nothing runs. -/
theorem perform_bind {α β : Type} (work : Work α) (next : α → Work β) (context : Context) :
    perform (work >>= next) context =
      match work.perform context with
      | (.ok value, after) => (next value).perform after
      | (.error failure, after) => (.error failure, after) := by
  change StateT.bind work (ExceptT.bindCont next) context = _
  rw [StateT.bind, perform]
  rcases work context with ⟨_ | value, after⟩ <;> rfl

/-- Behind a step that can be taken wherever an operation can fail, a run goes on without an effect
if what comes next does. -/
theorem perform_step_bind {α β : Type} {outcome : Except Failure α} {next : α → Work β}
    {pureNext : α → Except Failure β} {context : Context}
    (isNext : ∀ value, (next value).perform context = (pureNext value, context)) :
    perform (MonadExcept.ofExcept outcome >>= next) context =
      (MonadExcept.ofExcept outcome >>= pureNext, context) := by
  rw [perform_bind]
  cases outcome with
  | error failure => rfl
  | ok value => exact isNext value

/-- Two operations succeed one after the other exactly when both succeed, the second in the context
that the first leaves. -/
theorem perform_bind_eq_ok_iff {α β : Type} {work : Work α} {next : α → Work β}
    {context after : Context} {result : β} :
    perform (work >>= next) context = (.ok result, after) ↔
      ∃ value between, work.perform context = (.ok value, between) ∧
        (next value).perform between = (.ok result, after) := by
  rw [perform_bind]
  rcases work.perform context with ⟨_ | value, between⟩
  · simp
  · constructor
    · intro performed
      exact ⟨value, between, rfl, performed⟩
    · rintro ⟨_, _, ⟨⟩, performed⟩
      exact performed

/-- The operation that fails unless a value is there. -/
def orFail {α : Type} (failure : Failure) : Option α → Work α
  | some value => ofExcept (.ok value)
  | none => ofExcept (.error failure)

@[simp] theorem perform_orFail_some {α : Type} (failure : Failure) (value : α)
    (context : Context) :
    perform (orFail failure (some value)) context = (.ok value, context) := rfl

@[simp] theorem perform_orFail_none {α : Type} (failure : Failure) (context : Context) :
    perform (orFail failure (none : Option α)) context = (.error failure, context) := rfl

theorem perform_orFail_eq_ok_iff {α : Type} {failure : Failure} {value? : Option α}
    {context : Context} {value : α} :
    ((orFail failure value?).perform context).1 = .ok value ↔ value? = some value := by
  cases value? with
  | none =>
    rw [perform_orFail_none]
    exact iff_of_false nofun nofun
  | some given => rw [perform_orFail_some, Except.ok.injEq, Option.some.injEq]

theorem eq_of_perform_orFail_eq_error {α : Type} {failure other : Failure} {value? : Option α}
    {context : Context} (refused : ((orFail failure value?).perform context).1 = .error other) :
    other = failure := by
  cases value? with
  | none =>
    rw [perform_orFail_none] at refused
    exact (Except.error.inj refused).symm
  | some given => cases refused

/-- Draws random bytes. -/
def draw (size : Nat) : Work (Octets size) := fun context =>
  match context.entropy.draw? size with
  | some (octets, entropy) => (.ok octets, { context with entropy })
  | none => (.error .entropyExhausted, context)

theorem perform_draw_of_draw? {size : Nat} {context : Context} {octets : Octets size}
    {entropy : Entropy} (drawn : context.entropy.draw? size = some (octets, entropy)) :
    (draw size).perform context = (.ok octets, { context with entropy }) := by
  simp only [perform, draw, drawn]

theorem perform_draw_of_short {size : Nat} {context : Context}
    (isShort : context.entropy.remaining.length < size) :
    (draw size).perform context = (.error .entropyExhausted, context) := by
  simp only [perform, draw, (Entropy.draw?_eq_none_iff context.entropy size).mpr isShort]

/-- Writes a record. -/
def record (level : LogLevel) (source : LogSource) (message : WideText) : Work Unit :=
  fun context =>
    let entry : LogRecord := ⟨level, source, message⟩
    (.ok (), if context.thresholds.admits entry then { context with log := context.log ++ [entry] }
      else context)

theorem perform_record (level : LogLevel) (source : LogSource) (message : WideText)
    (context : Context) :
    (record level source message).perform context =
      (.ok (), if context.thresholds.admits ⟨level, source, message⟩ then
        { context with log := context.log ++ [⟨level, source, message⟩] } else context) := rfl

end Work
end SealedGateway
