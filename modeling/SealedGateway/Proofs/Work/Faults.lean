import SealedGateway.Work.Basic

/-!
# How an operation can fail

The ways in which an operation can fail, wherever it is run, are put together along it: each part
adds its own.
-/

namespace SealedGateway
namespace Work

variable {α β : Type} {faults : Failure → Prop}

/-- Whether an operation fails in certain ways only, in whatever context it is run. -/
def FailsWith (faults : Failure → Prop) (work : Work α) : Prop :=
  ∀ context failure, (work.perform context).1 = .error failure → faults failure

namespace FailsWith

theorem pure (value : α) : FailsWith faults (Pure.pure value : Work α) :=
  nofun

theorem ofExcept {outcome : Except Failure α}
    (areFaults : ∀ failure, outcome = .error failure → faults failure) :
    FailsWith faults (Work.ofExcept outcome) :=
  fun _ => areFaults

theorem draw (size : Nat) (isFault : faults .entropyExhausted) :
    FailsWith faults (Work.draw size) := by
  intro context failure failed
  rw [perform, Work.draw] at failed
  split at failed
  · cases failed
  · cases failed
    exact isFault

theorem record (level : LogLevel) (source : LogSource) (message : String) :
    FailsWith faults (Work.record level source message) :=
  nofun

/-- An operation fails as its first part does, or as what comes next does. -/
theorem bind {work : Work α} {next : α → Work β} (isFirst : FailsWith faults work)
    (isNext : ∀ value, FailsWith faults (next value)) : FailsWith faults (work >>= next) := by
  intro context failure failed
  have first := isFirst context
  rw [perform_bind] at failed
  generalize work.perform context = result at first failed
  obtain ⟨fault | value, between⟩ := result
  · cases failed
    exact first _ rfl
  · exact isNext value between failure failed

end FailsWith
end Work

end SealedGateway
