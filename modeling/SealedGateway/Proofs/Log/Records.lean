import SealedGateway.Work.Basic

/-!
# The record of an operation

An operation reports if its outcome tells which record it writes, and that it writes no other.  A
report is put together along the operation: what comes before the record leaves no trace, and what
comes behind it does not either.
-/

namespace SealedGateway

/-- What is kept of the record that is written, if one is. -/
def Thresholds.kept (thresholds : Thresholds) (record? : Option LogRecord) : List LogRecord :=
  (record?.filter (thresholds.admits ·)).toList

namespace Work

variable {α β : Type} {work : Work α} {next : α → Work β}

/-- Whether an operation that is run in a context leaves some records behind those that are there
already. -/
def Leaves (work : Work α) (context : Context) (records : List LogRecord) : Prop :=
  (work.perform context).2.log = context.log ++ records

/-- Whether an operation leaves no record wherever it is run, and the thresholds as they are. -/
def IsSilent (work : Work α) : Prop :=
  ∀ context, (work.perform context).2.log = context.log ∧
    (work.perform context).2.thresholds = context.thresholds

/-- Whether the outcome of an operation tells which record it writes, wherever it is run. -/
def Reports (work : Work α) (report : Except Failure α → Option LogRecord) : Prop :=
  ∀ context, work.Leaves context (context.thresholds.kept (report (work.perform context).1))

/-! ## Silence -/

namespace IsSilent

theorem ofExcept (outcome : Except Failure α) : (Work.ofExcept outcome).IsSilent :=
  fun _ => ⟨rfl, rfl⟩

theorem pure (value : α) : (Pure.pure value : Work α).IsSilent :=
  fun _ => ⟨rfl, rfl⟩

theorem throw (failure : Failure) : (MonadExcept.throw failure : Work α).IsSilent :=
  fun _ => ⟨rfl, rfl⟩

/-- A step that can be taken wherever an operation can fail leaves no record in a run. -/
theorem step (outcome : Except Failure α) : (MonadExcept.ofExcept outcome : Work α).IsSilent := by
  cases outcome with
  | error failure => exact throw failure
  | ok value => exact pure value

theorem orFail (failure : Failure) (value? : Option α) :
    (Work.orFail failure value?).IsSilent := by
  cases value? <;> exact ofExcept _

theorem draw (size : Nat) : (Work.draw size).IsSilent := by
  intro context
  rw [perform, Work.draw]
  split <;> exact ⟨rfl, rfl⟩

theorem bind (isFirst : work.IsSilent) (isSecond : ∀ value, (next value).IsSilent) :
    (work >>= next).IsSilent := by
  intro context
  have first := isFirst context
  rw [perform_bind]
  generalize work.perform context = result at first
  obtain ⟨failure | value, between⟩ := result
  · exact first
  · have second := isSecond value between
    exact ⟨second.1.trans first.1, second.2.trans first.2⟩

theorem leaves (isSilent : work.IsSilent) (context : Context) : work.Leaves context [] :=
  (isSilent context).1.trans (List.append_nil context.log).symm

end IsSilent

/-! ## Reports -/

namespace Reports

/-- Silence is reported where the report is empty. -/
theorem of_isSilent (isSilent : work.IsSilent) {report : Except Failure α → Option LogRecord}
    (isEmpty : ∀ context, report (work.perform context).1 = none) : work.Reports report := by
  intro context
  rw [isEmpty]
  exact isSilent.leaves context

/-- Behind silence, what comes next reports for both; there is nothing to report if nothing comes
next. -/
theorem bind (isSilent : work.IsSilent) {report : Except Failure β → Option LogRecord}
    (atFailure : ∀ context failure, (work.perform context).1 = .error failure →
      report (.error failure) = none)
    (isNext : ∀ context value, (work.perform context).1 = .ok value → (next value).Reports report) :
    (work >>= next).Reports report := by
  intro context
  have first := isSilent context
  have atFailure := atFailure context
  have isNext := isNext context
  rw [Leaves, perform_bind]
  generalize work.perform context = result at first atFailure isNext
  obtain ⟨failure | value, between⟩ := result
  · simp only [atFailure failure rfl]
    exact first.1.trans (List.append_nil context.log).symm
  · have second := isNext value rfl between
    -- The second operation starts with the log and the thresholds from before the first.
    rwa [Leaves, first.1, first.2] at second

/-- A record with silence behind it is the one to report. -/
theorem record_bind {next : Unit → Work β} {level : LogLevel} {source : LogSource}
    {message : WideText} (isSilent : (next ()).IsSilent)
    {report : Except Failure β → Option LogRecord}
    (isReport : ∀ context, report ((next ()).perform context).1 = some ⟨level, source, message⟩) :
    (record level source message >>= next).Reports report := by
  intro context
  rw [Leaves, perform_bind, perform_record, (isSilent _).1, isReport, Thresholds.kept]
  by_cases isKept : context.thresholds.admits ⟨level, source, message⟩ = true
  · simp [Option.filter, isKept]
  · simp [isKept]

end Reports

/-! ## Pairs of operations -/

/-- Whether two operations, each run in a context of its own, leave the same records. -/
def LeaveAlike (left : Work α) (first : Context) (right : Work β) (second : Context) : Prop :=
  ∃ records, left.Leaves first records ∧ right.Leaves second records

/-- Operations with the same report leave the same records under the same thresholds. -/
theorem Reports.leaveAlike {left : Work α} {right : Work β}
    {leftReport : Except Failure α → Option LogRecord}
    {rightReport : Except Failure β → Option LogRecord} (leftReports : left.Reports leftReport)
    (rightReports : right.Reports rightReport) {first second : Context}
    (sameThresholds : first.thresholds = second.thresholds)
    (sameReport : leftReport (left.perform first).1 = rightReport (right.perform second).1) :
    LeaveAlike left first right second := by
  have isRight := rightReports second
  rw [← sameThresholds, ← sameReport] at isRight
  exact ⟨_, leftReports first, isRight⟩

end Work

end SealedGateway
