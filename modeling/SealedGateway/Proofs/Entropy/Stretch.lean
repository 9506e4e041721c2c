import SealedGateway.Work.Entropy

/-!
# Stretches of a stream

What draws take from a stream of entropy are stretches of it.  Each begins where the one before
ends, so no byte lies in two of them.
-/

namespace SealedGateway

/-- A part of a stream: where it begins and its bytes. -/
structure Stretch where
  /-- The number of bytes of the stream before the stretch. -/
  start : Nat
  /-- The bytes of the stretch. -/
  bytes : Bytes
deriving DecidableEq

namespace Stretch

/-- Where a stretch ends. -/
def stop (stretch : Stretch) : Nat :=
  stretch.start + stretch.bytes.length

/-- Whether stretches follow one another without gaps, from one place of a stream to another. -/
def Consecutive : (first : Nat) → List Stretch → (last : Nat) → Prop
  | first, [], last => first = last
  | first, stretch :: rest, last => stretch.start = first ∧ Consecutive stretch.stop rest last

/-- No stretch begins before the place from which they follow one another. -/
theorem Consecutive.le_start {first last : Nat} {stretches : List Stretch}
    (isConsecutive : Consecutive first stretches last) :
    ∀ stretch ∈ stretches, first ≤ stretch.start := by
  induction stretches generalizing first with
  | nil => nofun
  | cons head rest ih =>
    obtain ⟨rfl, isRest⟩ := isConsecutive
    intro stretch isMember
    rcases List.mem_cons.mp isMember with rfl | isBehind
    · exact Nat.le_refl _
    · exact Nat.le_trans (Nat.le_add_right _ _) (ih isRest stretch isBehind)

/-- Stretches that follow one another end before the later ones begin. -/
theorem Consecutive.pairwise {first last : Nat} {stretches : List Stretch}
    (isConsecutive : Consecutive first stretches last) :
    stretches.Pairwise fun earlier later => earlier.stop ≤ later.start := by
  induction stretches generalizing first with
  | nil => exact .nil
  | cons stretch rest ih => exact .cons isConsecutive.2.le_start (ih isConsecutive.2)

end Stretch

namespace Entropy

/-- Stretches are taken from a stream one after the other. -/
inductive Takes : Entropy → List Stretch → Entropy → Prop
  | nothing (entropy : Entropy) : Takes entropy [] entropy
  | next {bytes rest : Bytes} {used : Nat} {stretches : List Stretch} {after : Entropy}
      (takes : Takes ⟨rest, used + bytes.length⟩ stretches after) :
      Takes ⟨bytes ++ rest, used⟩ (⟨used, bytes⟩ :: stretches) after

namespace Takes

theorem append {entropy between after : Entropy} {left right : List Stretch}
    (isLeft : Takes entropy left between) (isRight : Takes between right after) :
    Takes entropy (left ++ right) after := by
  induction isLeft with
  | nothing => exact isRight
  | next _ ih => exact .next (ih isRight)

/-- A draw takes one stretch. -/
theorem of_draw? {size : Nat} {entropy after : Entropy} {octets : Octets size}
    (drawn : entropy.draw? size = some (octets, after)) :
    Takes entropy [⟨entropy.used, octets.toList⟩] after := by
  obtain ⟨_, made, same⟩ := Option.map_eq_some_iff.mp drawn
  cases same
  have taken := Octets.toList_of_ofList? made
  have sizeIs : octets.toList.length = size := octets.length_toList
  have split : entropy = ⟨octets.toList ++ entropy.remaining.drop size, entropy.used⟩ := by
    rw [taken, List.take_append_drop]
  have behind : entropy.skip size =
      ⟨entropy.remaining.drop size, entropy.used + octets.toList.length⟩ := by
    rw [sizeIs]
    rfl
  have takes : Takes ⟨octets.toList ++ entropy.remaining.drop size, entropy.used⟩
      [⟨entropy.used, octets.toList⟩] (entropy.skip size) := by
    rw [behind]
    exact .next (.nothing _)
  rwa [← split] at takes

theorem consecutive {entropy after : Entropy} {stretches : List Stretch}
    (takes : Takes entropy stretches after) :
    Stretch.Consecutive entropy.used stretches after.used := by
  induction takes with
  | nothing => rfl
  | next _ ih => exact ⟨rfl, ih⟩

/-- What is taken is what the stream has at its place. -/
theorem bytes_eq {entropy after : Entropy} {stretches : List Stretch}
    (takes : Takes entropy stretches after) :
    ∀ stretch ∈ stretches, stretch.bytes =
      (entropy.remaining.drop (stretch.start - entropy.used)).take stretch.bytes.length := by
  induction takes with
  | nothing => nofun
  | @next bytes rest used stretches after takes ih =>
    intro stretch isMember
    rcases List.mem_cons.mp isMember with rfl | isBehind
    · simp
    · have isLater : used + bytes.length ≤ stretch.start :=
        takes.consecutive.le_start stretch isBehind
      have offset : stretch.start - used = bytes.length + (stretch.start -
          (used + bytes.length)) := by omega
      have behind : (bytes ++ rest).drop (bytes.length + (stretch.start - (used + bytes.length))) =
          rest.drop (stretch.start - (used + bytes.length)) := by
        rw [← List.drop_drop, List.drop_left]
      rw [offset, behind]
      exact ih stretch isBehind

end Takes
end Entropy
end SealedGateway
