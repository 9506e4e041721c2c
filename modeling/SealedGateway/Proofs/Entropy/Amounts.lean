import Mathlib.Data.FinEnum
import Mathlib.Data.Fintype.BigOperators
import Mathlib.Data.Set.Card
import Mathlib.Logic.ExistsUnique
import SealedGateway.Proofs.Entropy.Draws
import SealedGateway.Proofs.Message.Carried

/-!
# Amounts of padding are drawn evenly

The bytes 255 at the head of a stream are rejected, and the first other byte decides the amount;
only a stream without any other byte gives none.  So for each number of draws and each amount there
is one run of bytes that decides it with the last of these draws, and the streams of a length, but
for the one of rejected bytes, are shared evenly among the 255 amounts.
-/

namespace SealedGateway

attribute [local instance (2000)] instPowNat

/-! ## Streams of a length -/

namespace Octets

/-- Byte strings of a fixed length as vectors. -/
def equivVector (size : Nat) : Octets size ≃ List.Vector UInt8 size where
  toFun octets := ⟨octets.toList, octets.length_toList⟩
  invFun vector := ⟨vector.toList, vector.toList_length⟩
  left_inv _ := rfl
  right_inv _ := rfl

instance (size : Nat) : Finite (Octets size) :=
  Finite.of_equiv _ (equivVector size).symm

theorem card_eq (size : Nat) : Nat.card (Octets size) = 256 ^ size := by
  have bytes : Fintype.card UInt8 = 256 := by
    rw [← FinEnum.card_eq_fintypeCard]
    exact FinEnum.card_UInt8
  rw [Nat.card_congr (equivVector size), Nat.card_eq_fintype_card, card_vector, bytes]

/-- A byte string behind one more byte. -/
def cons {size : Nat} (byte : UInt8) (octets : Octets size) : Octets (size + 1) :=
  ⟨byte :: octets.toList, by rw [List.length_cons, octets.length_toList]⟩

theorem cons_inj {size : Nat} {byte otherByte : UInt8} {octets others : Octets size} :
    cons byte octets = cons otherByte others ↔ byte = otherByte ∧ octets = others := by
  constructor
  · intro same
    obtain ⟨sameByte, sameRest⟩ := List.cons.inj (congrArg toList same)
    exact ⟨sameByte, ext sameRest⟩
  · rintro ⟨rfl, rfl⟩
    rfl

theorem cons_injective {size : Nat} (byte : UInt8) :
    Function.Injective (cons byte : Octets size → Octets (size + 1)) := by
  intro left right same
  exact (cons_inj.mp same).2

/-- Every longer byte string has a first byte. -/
theorem exists_cons {size : Nat} (octets : Octets (size + 1)) :
    ∃ byte others, octets = cons byte others := by
  obtain ⟨bytes, sizeIs⟩ := octets
  cases bytes with
  | nil => cases sizeIs
  | cons byte rest => exact ⟨byte, ⟨rest, Nat.succ.inj sizeIs⟩, rfl⟩

end Octets

namespace Padding

variable {context after : Context} {amount : Nat} {bytes : Bytes}

/-! ## What a stream gives -/

/-- A stream is a run of rejected bytes, or there is a first other byte. -/
theorem rejected_or_decisive (stream : Bytes) :
    (∀ byte ∈ stream, byte = 255) ∨
      ∃ rejected byte rest, stream = List.replicate rejected 255 ++ byte :: rest ∧ byte ≠ 255 := by
  induction stream with
  | nil => exact .inl nofun
  | cons first rest ih =>
    by_cases isRejected : first = 255
    · rcases ih with areRejected | ⟨rejected, byte, behind, restIs, decides⟩
      · exact .inl (List.forall_mem_cons.mpr ⟨isRejected, areRejected⟩)
      · refine .inr ⟨rejected + 1, byte, behind, ?_, decides⟩
        rw [isRejected, restIs, List.replicate_succ, List.cons_append]
    · exact .inr ⟨0, first, rest, rfl, isRejected⟩

theorem amountOf?_of_rejected {stream : Bytes} (areRejected : ∀ byte ∈ stream, byte = 255) :
    amountOf? stream = none := by
  induction stream with
  | nil => rfl
  | cons first rest ih =>
    obtain ⟨isRejected, restRejected⟩ := List.forall_mem_cons.mp areRejected
    have isGreatest : ¬ (255 : UInt8).toNat < 255 := by decide
    rw [isRejected, amountOf?, if_neg isGreatest, ih restRejected, Option.map_none]

/-- A stream of rejected bytes is used up. -/
theorem perform_drawAmount_of_rejected
    (areRejected : ∀ byte ∈ context.entropy.remaining, byte = 255) :
    drawAmount.perform context = (.error .entropyExhausted,
      { context with entropy := context.entropy.skip context.entropy.remaining.length }) := by
  rw [Work.perform, drawAmount, amountOf?_of_rejected areRejected]

/-- The first byte that is not rejected decides the amount, and the stream goes on behind it. -/
theorem perform_drawAmount_of_decisive {rejected : Nat} {byte : UInt8} {rest : Bytes}
    (streamIs : context.entropy.remaining = List.replicate rejected 255 ++ byte :: rest)
    (decides : byte ≠ 255) :
    drawAmount.perform context = (.ok (byte.toNat + 1),
      { context with entropy := ⟨rest, context.entropy.used + (rejected + 1)⟩ }) := by
  have behind : (List.replicate rejected 255 ++ byte :: rest).drop (rejected + 1) = rest := by
    rw [← List.drop_drop, List.drop_left' List.length_replicate, List.drop_one, List.tail_cons]
  rw [Work.perform, drawAmount, streamIs, amountOf?_behind_rejected rejected decides rest]
  simp only [Entropy.skip, streamIs, behind]

/-- An amount is drawn exactly from the streams with a byte that is not rejected. -/
theorem perform_drawAmount_eq_ok_iff :
    drawAmount.perform context = (.ok amount, after) ↔
      ∃ rejected byte rest,
        context.entropy.remaining = List.replicate rejected 255 ++ byte :: rest ∧ byte ≠ 255 ∧
        amount = byte.toNat + 1 ∧
        after = { context with entropy := ⟨rest, context.entropy.used + (rejected + 1)⟩ } := by
  constructor
  · intro drawn
    rcases rejected_or_decisive context.entropy.remaining with
      areRejected | ⟨rejected, byte, rest, streamIs, decides⟩
    · rw [perform_drawAmount_of_rejected areRejected] at drawn
      cases drawn
    · rw [perform_drawAmount_of_decisive streamIs decides] at drawn
      cases drawn
      exact ⟨rejected, byte, rest, streamIs, decides, rfl, rfl⟩
  · rintro ⟨rejected, byte, rest, streamIs, decides, rfl, rfl⟩
    exact perform_drawAmount_of_decisive streamIs decides

/-- The draw fails exactly on the streams of rejected bytes, for want of entropy. -/
theorem perform_drawAmount_eq_error_iff {failure : Failure} :
    drawAmount.perform context = (.error failure, after) ↔
      (∀ byte ∈ context.entropy.remaining, byte = 255) ∧ failure = .entropyExhausted ∧
        after = { context with
          entropy := context.entropy.skip context.entropy.remaining.length } := by
  constructor
  · intro failed
    rcases rejected_or_decisive context.entropy.remaining with
      areRejected | ⟨rejected, byte, rest, streamIs, decides⟩
    · rw [perform_drawAmount_of_rejected areRejected] at failed
      cases failed
      exact ⟨areRejected, rfl, rfl⟩
    · rw [perform_drawAmount_of_decisive streamIs decides] at failed
      cases failed
  · rintro ⟨areRejected, rfl, rfl⟩
    exact perform_drawAmount_of_rejected areRejected

/-! ## Runs that decide an amount -/

/-- Whether a run of bytes decides an amount: whatever stands behind them, they are drawn one by
one, and the draw ends with the amount. -/
def Decides (bytes : Bytes) (amount : Nat) : Prop :=
  ∀ (context : Context) (rest : Bytes), context.entropy.remaining = bytes ++ rest →
    ∃ stretches, stretches.map Stretch.bytes = bytes.map (fun byte => [byte]) ∧
      drawAmount.Draws context stretches (.ok amount,
        { context with entropy := ⟨rest, context.entropy.used + bytes.length⟩ })

/-- The first byte of a stream is drawn, and then what becomes of it. -/
theorem draws_drawAmount_of_cons {byte : UInt8} {rest : Bytes} {stretches : List Stretch}
    {result : Except Failure Nat × Context} (streamIs : context.entropy.remaining = byte :: rest)
    (draws : (amountOrElse drawAmount ⟨[byte], rfl⟩).Draws
      { context with entropy := ⟨rest, context.entropy.used + 1⟩ } stretches result) :
    drawAmount.Draws context (⟨context.entropy.used, [byte]⟩ :: stretches) result := by
  obtain ⟨⟨remaining, used⟩, thresholds, log⟩ := context
  obtain rfl : remaining = byte :: rest := streamIs
  rw [drawAmount_eq]
  exact .bind (.draw rfl) draws

/-- A byte that is not rejected decides the amount one above it. -/
theorem decides_singleton {byte : UInt8} (decides : byte ≠ 255) :
    Decides [byte] (byte.toNat + 1) := by
  intro context rest streamIs
  refine ⟨[⟨context.entropy.used, [byte]⟩], rfl, draws_drawAmount_of_cons streamIs ?_⟩
  simp only [amountOrElse, if_pos (toNat_lt_iff.mpr decides)]
  exact .ofExcept _ _

/-- A rejected byte changes nothing but the number of draws. -/
theorem Decides.behind_rejected (decides : Decides bytes amount) :
    Decides (255 :: bytes) amount := by
  intro context rest streamIs
  obtain ⟨stretches, bytesAre, draws⟩ :=
    decides { context with entropy := ⟨bytes ++ rest, context.entropy.used + 1⟩ } rest rfl
  refine ⟨⟨context.entropy.used, [255]⟩ :: stretches, ?_, draws_drawAmount_of_cons streamIs ?_⟩
  · rw [List.map_cons, List.map_cons, bytesAre]
  · have usedIs : context.entropy.used + (255 :: bytes).length =
        context.entropy.used + 1 + bytes.length := by
      rw [List.length_cons]
      omega
    rw [usedIs]
    exact draws

/-- The runs that decide an amount are rejected bytes and the byte one below the amount. -/
theorem decides_iff :
    Decides bytes amount ↔
      ∃ rejected byte, bytes = List.replicate rejected 255 ++ [byte] ∧ byte ≠ 255 ∧
        amount = byte.toNat + 1 := by
  constructor
  · intro decides
    obtain ⟨stretches, -, draws⟩ := decides (Context.initial bytes) [] (List.append_nil _).symm
    obtain ⟨rejected, byte, rest, bytesAre, isOther, amountIs, afterIs⟩ :=
      perform_drawAmount_eq_ok_iff.mp draws.perform_eq
    have restIs : rest = [] :=
      (congrArg (fun after : Context => after.entropy.remaining) afterIs).symm
    rw [restIs] at bytesAre
    exact ⟨rejected, byte, bytesAre, isOther, amountIs⟩
  · rintro ⟨rejected, byte, rfl, isOther, rfl⟩
    induction rejected with
    | zero => exact decides_singleton isOther
    | succ rejected ih => exact ih.behind_rejected

/-- The byte that stands for an amount. -/
theorem byte_of_amount (isPositive : 1 ≤ amount) (isSmall : amount ≤ 255) :
    UInt8.ofNat (amount - 1) ≠ 255 ∧ amount = (UInt8.ofNat (amount - 1)).toNat + 1 := by
  have isByte : (UInt8.ofNat (amount - 1)).toNat = amount - 1 := by
    rw [UInt8.toNat_ofNat', Nat.mod_eq_of_lt (by omega)]
  constructor
  · intro isGreatest
    have greatest : (255 : UInt8).toNat = 255 := rfl
    rw [isGreatest, greatest] at isByte
    omega
  · omega

/-- For each number of draws, one run of bytes decides a given amount. -/
theorem existsUnique_decides {size : Nat} (isDrawn : 1 ≤ size) (isPositive : 1 ≤ amount)
    (isSmall : amount ≤ 255) :
    ∃! run : Octets size, Decides run.toList amount := by
  obtain ⟨isOther, amountIs⟩ := byte_of_amount isPositive isSmall
  refine ⟨⟨List.replicate (size - 1) 255 ++ [UInt8.ofNat (amount - 1)], ?_⟩, ?_, ?_⟩
  · rw [List.length_append, List.length_replicate, List.length_singleton]
    omega
  · exact decides_iff.mpr ⟨_, _, rfl, isOther, amountIs⟩
  · intro run decides
    obtain ⟨rejected, byte, runIs, -, alsoAmount⟩ := decides_iff.mp decides
    have sizeIs := congrArg List.length runIs
    rw [run.length_toList, List.length_append, List.length_replicate, List.length_singleton]
      at sizeIs
    have sameByte : byte = UInt8.ofNat (amount - 1) := by
      apply UInt8.toNat_inj.mp
      omega
    have sameCount : rejected = size - 1 := by omega
    apply Octets.ext
    rw [runIs, sameByte, sameCount]

/-! ## Streams that give an amount -/

/-- The streams of a length from which an amount is drawn. -/
def streamsGiving (size amount : Nat) : Set (Octets size) :=
  {stream | (drawAmount.perform (Context.initial stream.toList)).1 = .ok amount}

theorem mem_streamsGiving_iff {size : Nat} {stream : Octets size} :
    stream ∈ streamsGiving size amount ↔ ∃ used, amountOf? stream.toList = some (amount, used) := by
  change (drawAmount.perform (Context.initial stream.toList)).1 = .ok amount ↔ _
  have remainingIs : (Context.initial stream.toList).entropy.remaining = stream.toList := rfl
  rw [Work.perform, drawAmount, remainingIs]
  cases amountOf? stream.toList with
  | none => simp
  | some given =>
    obtain ⟨other, used⟩ := given
    simp

/-- A stream gives an amount with its first byte, or it does so behind a rejected byte. -/
theorem cons_mem_streamsGiving_iff {size : Nat} {byte : UInt8} {stream : Octets size} :
    Octets.cons byte stream ∈ streamsGiving (size + 1) amount ↔
      byte ≠ 255 ∧ amount = byte.toNat + 1 ∨ byte = 255 ∧ stream ∈ streamsGiving size amount := by
  rw [mem_streamsGiving_iff, mem_streamsGiving_iff, Octets.cons, amountOf?]
  by_cases isSmall : byte.toNat < 255
  · have decides := toNat_lt_iff.mp isSmall
    simp [isSmall, decides, eq_comm]
  · have isRejected : byte = 255 := not_not.mp (mt toNat_lt_iff.mpr isSmall)
    simp [isRejected]

/-- The longer streams that give an amount are all those behind its byte, and those that give it
behind a rejected byte. -/
theorem streamsGiving_succ (size : Nat) (isPositive : 1 ≤ amount) (isSmall : amount ≤ 255) :
    streamsGiving (size + 1) amount =
      Octets.cons (UInt8.ofNat (amount - 1)) '' Set.univ ∪
        Octets.cons 255 '' streamsGiving size amount := by
  obtain ⟨isOther, amountIs⟩ := byte_of_amount isPositive isSmall
  ext stream
  obtain ⟨byte, others, rfl⟩ := stream.exists_cons
  have isFirst : byte ≠ 255 ∧ amount = byte.toNat + 1 ↔ UInt8.ofNat (amount - 1) = byte := by
    constructor
    · rintro ⟨-, alsoAmount⟩
      apply UInt8.toNat_inj.mp
      omega
    · rintro rfl
      exact ⟨isOther, amountIs⟩
  rw [cons_mem_streamsGiving_iff, isFirst]
  simp [Octets.cons_inj, and_comm, eq_comm]

/-- All streams of a length but one are shared evenly among the 255 amounts. -/
theorem ncard_streamsGiving (size : Nat) (isPositive : 1 ≤ amount) (isSmall : amount ≤ 255) :
    255 * (streamsGiving size amount).ncard + 1 = 256 ^ size := by
  induction size with
  | zero =>
    have isEmpty : streamsGiving 0 amount = ∅ := by
      apply Set.eq_empty_of_forall_notMem
      intro stream isMember
      obtain ⟨used, given⟩ := mem_streamsGiving_iff.mp isMember
      rw [List.length_eq_zero_iff.mp stream.length_toList, amountOf?] at given
      cases given
    rw [isEmpty, Set.ncard_empty, pow_zero, Nat.mul_zero, Nat.zero_add]
  | succ size ih =>
    have areApart : Disjoint (Octets.cons (UInt8.ofNat (amount - 1)) '' Set.univ)
        (Octets.cons 255 '' streamsGiving size amount) := by
      rw [Set.disjoint_left]
      rintro _ ⟨left, -, rfl⟩ ⟨right, -, same⟩
      exact (byte_of_amount isPositive isSmall).1 (Octets.cons_inj.mp same).1.symm
    rw [streamsGiving_succ size isPositive isSmall, Set.ncard_union_eq areApart,
      Set.ncard_image_of_injective _ (Octets.cons_injective _),
      Set.ncard_image_of_injective _ (Octets.cons_injective _), Set.ncard_univ, Octets.card_eq,
      pow_succ]
    omega

/-- The amount that is drawn is one above the first byte of the stream that is not 255, always
between one and 255, and the stream goes on right behind that byte; the draw fails exactly if no
such byte is left, for want of entropy and with the stream used up.  For each number of draws, one
run of bytes decides a given amount with the last of them, and each amount is drawn from the same
share of all streams of a length: together they leave out a single one. -/
theorem amounts_are_drawn_evenly :
    (∀ (context after : Context) (amount : Nat),
      (drawAmount.perform context = (.ok amount, after) ↔
        ∃ rejected byte rest,
          context.entropy.remaining = List.replicate rejected 255 ++ byte :: rest ∧ byte ≠ 255 ∧
          amount = byte.toNat + 1 ∧
          after = { context with entropy := ⟨rest, context.entropy.used + (rejected + 1)⟩ }) ∧
      (drawAmount.perform context = (.ok amount, after) → 1 ≤ amount ∧ amount ≤ 255)) ∧
    (∀ (context after : Context) (failure : Failure),
      drawAmount.perform context = (.error failure, after) ↔
        (∀ byte ∈ context.entropy.remaining, byte = 255) ∧ failure = .entropyExhausted ∧
          after = { context with
            entropy := context.entropy.skip context.entropy.remaining.length }) ∧
    (∀ size amount, 1 ≤ size → 1 ≤ amount → amount ≤ 255 →
      ∃! run : Octets size, Decides run.toList amount) ∧
    ∀ size amount, 1 ≤ amount → amount ≤ 255 →
      255 * (streamsGiving size amount).ncard + 1 = Nat.card (Octets size) := by
  refine ⟨?_, ?_, ?_, ?_⟩
  · intro context after amount
    exact ⟨perform_drawAmount_eq_ok_iff, bounds_of_drawAmount⟩
  · intro context after failure
    exact perform_drawAmount_eq_error_iff
  · intro size amount isDrawn isPositive isSmall
    exact existsUnique_decides isDrawn isPositive isSmall
  · intro size amount isPositive isSmall
    rw [Octets.card_eq]
    exact ncard_streamsGiving size isPositive isSmall

/-- Two bytes are rejected and the third decides, as the only run of three draws for its amount. -/
theorem amounts_are_drawn_evenly_of_thirdByte :
    (drawAmount.perform (Context.initial [255, 255, 254, 9]) =
      (.ok 255, ⟨⟨[9], 3⟩, Thresholds.initial, []⟩) ∧ 1 ≤ 255 ∧ 255 ≤ 255) ∧
    (∃! run : Octets 3, Decides run.toList 255) ∧
    255 * (streamsGiving 3 255).ncard + 1 = Nat.card (Octets 3) := by
  obtain ⟨draws, -, runs, shares⟩ := amounts_are_drawn_evenly
  obtain ⟨drawn_iff, bounds⟩ := draws (Context.initial [255, 255, 254, 9])
    ⟨⟨[9], 3⟩, Thresholds.initial, []⟩ 255
  have drawn := drawn_iff.mpr ⟨2, 254, [9], rfl, by decide, rfl, rfl⟩
  exact ⟨⟨drawn, bounds drawn⟩, runs 3 255 (by decide) (by decide) (by decide),
    shares 3 255 (by decide) (by decide)⟩

end Padding
end SealedGateway
