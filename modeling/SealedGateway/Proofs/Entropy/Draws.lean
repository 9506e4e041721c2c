import SealedGateway.File.Basic
import SealedGateway.Key.Holder
import SealedGateway.Proofs.Entropy.Stretch
import SealedGateway.Proofs.Message.Boxes

/-!
# The draws of an operation

An operation is put together from steps that leave the entropy alone and from draws.  The stretches
that its draws take are listed along the way, in the order in which they are taken.  Drawing an
amount of padding is a loop of draws of one byte each, up to the first byte below 255.
-/

namespace SealedGateway
namespace Work

/-- An operation, run in a context, draws some stretches in turn and ends with a result. -/
inductive Draws : {α : Type} → Work α → Context → List Stretch → Except Failure α × Context → Prop
  | ofExcept {α : Type} (outcome : Except Failure α) (context : Context) :
      Draws (ofExcept outcome) context [] (outcome, context)
  | record (level : LogLevel) (source : LogSource) (message : String) (context : Context) :
      Draws (record level source message) context []
        ((record level source message).perform context)
  | draw {size : Nat} {context : Context} {octets : Octets size} {entropy : Entropy}
      (drawn : context.entropy.draw? size = some (octets, entropy)) :
      Draws (draw size) context [⟨context.entropy.used, octets.toList⟩]
        (.ok octets, { context with entropy })
  | short {size : Nat} {context : Context}
      (isShort : context.entropy.remaining.length < size) :
      Draws (draw size) context [] (.error .entropyExhausted, context)
  | bind {α β : Type} {work : Work α} {next : α → Work β} {context between : Context} {value : α}
      {result : Except Failure β × Context} {first second : List Stretch}
      (isFirst : Draws work context first (.ok value, between))
      (isSecond : Draws (next value) between second result) :
      Draws (work >>= next) context (first ++ second) result
  | stop {α β : Type} {work : Work α} {next : α → Work β} {context after : Context}
      {failure : Failure} {stretches : List Stretch}
      (isFirst : Draws work context stretches (.error failure, after)) :
      Draws (work >>= next) context stretches (.error failure, after)

namespace Draws

variable {α β : Type} {work : Work α} {next : α → Work β} {context : Context}
  {stretches : List Stretch}

/-- The result that goes with the draws is that of the operation. -/
theorem perform_eq {result : Except Failure α × Context}
    (draws : work.Draws context stretches result) : work.perform context = result := by
  induction draws with
  | ofExcept => rfl
  | record => rfl
  | draw drawn => exact perform_draw_of_draw? drawn
  | short isShort => exact perform_draw_of_short isShort
  | bind _ _ first second =>
    rw [perform_bind, first]
    exact second
  | stop _ first => rw [perform_bind, first]

/-- The stretches are taken from the entropy of the context one after the other, and the entropy
behind them is what is left. -/
theorem takes {result : Except Failure α × Context} (draws : work.Draws context stretches result) :
    context.entropy.Takes stretches result.2.entropy := by
  induction draws with
  | ofExcept => exact .nothing _
  | record level source message context =>
    rw [perform_record]
    split <;> exact .nothing _
  | draw drawn => exact Entropy.Takes.of_draw? drawn
  | short => exact .nothing _
  | bind _ _ first second => exact first.append second
  | stop _ first => exact first

theorem pure (value : α) (context : Context) :
    Draws (Pure.pure value) context [] (.ok value, context) :=
  .ofExcept (.ok value) context

/-- What is known beforehand draws nothing. -/
theorem ofExcept_ok {value : α} {result : Except Failure β × Context}
    (isNext : (next value).Draws context stretches result) :
    (Work.ofExcept (.ok value) >>= next).Draws context stretches result :=
  .bind (.ofExcept _ _) isNext

theorem ofExcept_error (failure : Failure) (context : Context) :
    (Work.ofExcept (.error failure) >>= next).Draws context [] (.error failure, context) :=
  .stop (.ofExcept _ _)

/-- A record draws nothing. -/
theorem behind_record {next : Unit → Work β} {level : LogLevel} {source : LogSource}
    {message : String} {result : Except Failure β × Context}
    (isNext : (next ()).Draws ((Work.record level source message).perform context).2 stretches
      result) :
    (Work.record level source message >>= next).Draws context stretches result :=
  .bind (.record level source message context) isNext

end Draws

/-- An operation that draws once and goes on without a draw: either the entropy is too short for the
draw, or the operation ends as what goes on from the stretch does. -/
theorem draws_draw_then {β : Type} {size : Nat} (finish : Octets size → Work β)
    (isQuiet : ∀ octets between, ∃ result, (finish octets).Draws between [] result)
    (context : Context) :
    ∃ stretches result, (draw size >>= finish).Draws context stretches result ∧
      (stretches = [] ∧ result.1 = .error .entropyExhausted ∨
        ∃ (octets : Octets size) (between : Context),
          stretches.map Stretch.bytes = [octets.toList] ∧
            (finish octets).perform between = result) := by
  cases drawn : context.entropy.draw? size with
  | none =>
    exact ⟨[], (.error .entropyExhausted, context),
      .stop (.short ((Entropy.draw?_eq_none_iff _ _).mp drawn)), Or.inl ⟨rfl, rfl⟩⟩
  | some given =>
    obtain ⟨octets, entropy⟩ := given
    obtain ⟨result, quiet⟩ := isQuiet octets { context with entropy }
    exact ⟨_, result, .bind (.draw drawn) quiet, Or.inr ⟨octets, _, rfl, quiet.perform_eq⟩⟩

end Work

/-! ## Padding -/

namespace Padding

/-- What becomes of a byte that is drawn for an amount: it stands for the amount one above it, or
the drawing goes on. -/
def amountOrElse (again : Work Nat) (drawn : Octets 1) : Work Nat :=
  match drawn.toList with
  | byte :: _ => if byte.toNat < 255 then Work.ofExcept (.ok (byte.toNat + 1)) else again
  | [] => again

theorem perform_draw_one (byte : UInt8) (rest : Bytes) (used : Nat) (thresholds : Thresholds)
    (log : List LogRecord) :
    (Work.draw 1).perform ⟨⟨byte :: rest, used⟩, thresholds, log⟩ =
      (.ok ⟨[byte], rfl⟩, ⟨⟨rest, used + 1⟩, thresholds, log⟩) :=
  rfl

/-- Drawing an amount is drawing bytes until one is below 255. -/
theorem drawAmount_eq : drawAmount = Work.draw 1 >>= amountOrElse drawAmount := by
  funext ⟨⟨remaining, used⟩, thresholds, log⟩
  refine Eq.trans ?_ (Work.perform_bind _ _ _).symm
  cases remaining with
  | nil => rfl
  | cons byte rest =>
    rw [perform_draw_one]
    simp only [drawAmount, amountOf?, amountOrElse]
    by_cases isSmall : byte.toNat < 255
    · simp only [if_pos isSmall]
      rfl
    · simp only [if_neg isSmall]
      rw [Work.perform, drawAmount]
      cases amountOf? rest with
      | none => simp [Entropy.skip, Nat.add_comm, Nat.add_left_comm]
      | some given => simp [Entropy.skip, Nat.add_comm, Nat.add_left_comm]

/-- Whether stretches are rejected bytes and perhaps, behind them, the byte that decides an
amount. -/
def AreAmountDraws (stretches : List Stretch) (byte? : Option UInt8) : Prop :=
  (∃ rejected, stretches.map Stretch.bytes =
    List.replicate rejected [255] ++ byte?.toList.map fun byte => [byte]) ∧
  ∀ byte ∈ byte?, byte.toNat < 255

/-- The amount that a byte decides. -/
def decided : Option UInt8 → Except Failure Nat
  | some byte => .ok (byte.toNat + 1)
  | none => .error .entropyExhausted

/-- An amount is drawn from rejected bytes and the byte that decides it; if the stream ends first,
only rejected bytes have been drawn. -/
theorem draws_drawAmount (context : Context) :
    ∃ stretches after byte?, drawAmount.Draws context stretches (decided byte?, after) ∧
      AreAmountDraws stretches byte? := by
  obtain ⟨⟨remaining, used⟩, thresholds, log⟩ := context
  induction remaining generalizing used with
  | nil =>
    refine ⟨[], ⟨⟨[], used⟩, thresholds, log⟩, none, ?_, ⟨0, rfl⟩, nofun⟩
    rw [drawAmount_eq]
    exact .stop (.short Nat.zero_lt_one)
  | cons byte rest ih =>
    have isDraw : (Work.draw 1).Draws ⟨⟨byte :: rest, used⟩, thresholds, log⟩ [⟨used, [byte]⟩]
        (.ok ⟨[byte], rfl⟩, ⟨⟨rest, used + 1⟩, thresholds, log⟩) :=
      @Work.Draws.draw 1 ⟨⟨byte :: rest, used⟩, thresholds, log⟩ ⟨[byte], rfl⟩ ⟨rest, used + 1⟩ rfl
    by_cases isSmall : byte.toNat < 255
    · refine ⟨[⟨used, [byte]⟩] ++ [], ⟨⟨rest, used + 1⟩, thresholds, log⟩, some byte, ?_,
        ⟨0, rfl⟩, ?_⟩
      · rw [drawAmount_eq]
        refine .bind isDraw ?_
        simp only [amountOrElse, if_pos isSmall]
        exact .ofExcept _ _
      · rintro _ ⟨⟩
        exact isSmall
    · obtain ⟨stretches, after, byte?, draws, ⟨rejected, bytesAre⟩, decides⟩ := ih (used + 1)
      have isRejected : byte = 255 := by
        have isByte := byte.toNat_lt
        have greatest : (255 : UInt8).toNat = 255 := rfl
        exact UInt8.toNat_inj.mp (by omega)
      refine ⟨[⟨used, [byte]⟩] ++ stretches, after, byte?, ?_, ⟨rejected + 1, ?_⟩, decides⟩
      · rw [drawAmount_eq]
        refine .bind isDraw ?_
        simp only [amountOrElse, if_neg isSmall]
        exact draws
      · rw [List.map_append, bytesAre, isRejected, List.replicate_succ]
        rfl

end Padding
end SealedGateway
