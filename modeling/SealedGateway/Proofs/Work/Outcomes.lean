import Mathlib.Data.List.Forall2
import SealedGateway.Work.Basic

/-!
# Outcomes in stages

Many outcomes are made in stages: what one stage gives is handed to the next, or the failure of a
stage is named as the caller names it.  Such an outcome is good exactly when its stages are.
-/

namespace SealedGateway
namespace Outcome

variable {α β ε ε' : Type}

theorem bind_eq_ok_iff {outcome : Except ε α} {next : α → Except ε β} {value : β} :
    outcome >>= next = .ok value ↔ ∃ middle, outcome = .ok middle ∧ next middle = .ok value := by
  cases outcome with
  | error failure => exact iff_of_false nofun nofun
  | ok middle =>
    constructor
    · intro isLast
      exact ⟨middle, rfl, isLast⟩
    · rintro ⟨_, ⟨⟩, isLast⟩
      exact isLast

/-- Naming a failure leaves what succeeds alone. -/
theorem mapError_eq_ok_iff {name : ε → ε'} {outcome : Except ε α} {value : α} :
    outcome.mapError name = .ok value ↔ outcome = .ok value := by
  cases outcome with
  | error fault => exact iff_of_false nofun nofun
  | ok given =>
    change Except.ok given = _ ↔ _
    rw [Except.ok.injEq, Except.ok.injEq]

theorem mapError_eq_error_iff {name : ε → ε'} {outcome : Except ε α} {failure : ε'} :
    outcome.mapError name = .error failure ↔
      ∃ fault, outcome = .error fault ∧ name fault = failure := by
  cases outcome with
  | error fault =>
    change Except.error (name fault) = _ ↔ _
    rw [Except.error.injEq]
    constructor
    · intro isNamed
      exact ⟨fault, rfl, isNamed⟩
    · rintro ⟨_, ⟨⟩, isNamed⟩
      exact isNamed
  | ok given => exact iff_of_false nofun nofun

/-- A list is worked through exactly when each of its items is. -/
theorem mapM_eq_ok_iff {work : α → Except ε β} {items : List α} {results : List β} :
    items.mapM work = .ok results ↔
      List.Forall₂ (fun item result => work item = .ok result) items results := by
  induction items generalizing results with
  | nil =>
    rw [List.mapM_nil, List.forall₂_nil_left_iff]
    exact ⟨fun same => (Except.ok.inj same).symm, congrArg _ ∘ Eq.symm⟩
  | cons item items ih =>
    rw [List.mapM_cons, bind_eq_ok_iff, List.forall₂_cons_left_iff]
    simp only [bind_eq_ok_iff, ih]
    constructor
    · rintro ⟨first, isFirst, rest, areRest, ⟨⟩⟩
      exact ⟨first, rest, isFirst, areRest, rfl⟩
    · rintro ⟨first, rest, isFirst, areRest, rfl⟩
      exact ⟨first, isFirst, rest, areRest, rfl⟩

/-- One item that fails lets the list fail, wherever it stands. -/
theorem exists_error_of_mapM {work : α → Except ε β} {items : List α} {item : α}
    (isMember : item ∈ items) {failure : ε} (fails : work item = .error failure) :
    ∃ first, items.mapM work = .error first := by
  cases worked : items.mapM work with
  | error first => exact ⟨first, rfl⟩
  | ok results =>
    have areWorked := List.forall₂_iff_get.mp (mapM_eq_ok_iff.mp worked)
    obtain ⟨place, rfl⟩ := List.mem_iff_get.mp isMember
    have isWorked := areWorked.2 place place.isLt (areWorked.1 ▸ place.isLt)
    cases isWorked.symm.trans fails

end Outcome
end SealedGateway
