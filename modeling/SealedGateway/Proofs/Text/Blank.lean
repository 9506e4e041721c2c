import Mathlib.Data.List.TakeWhile
import SealedGateway.Text.Blank

/-!
# Texts without blanks

The printable characters of ASCII other than the space are no blanks, and a text without blanks is
trimmed to itself.
-/

namespace SealedGateway
namespace Text

theorem toNat_of_isAlphanum {char : Char} (isAlphanumeric : char.isAlphanum = true) :
    33 ≤ char.toNat ∧ char.toNat ≤ 122 := by
  rcases Bool.or_eq_true_iff.mp isAlphanumeric with isLetter | isDigit
  · rcases Bool.or_eq_true_iff.mp isLetter with isUpper | isLower
    · have bounds : 65 ≤ char.toNat ∧ char.toNat ≤ 90 := of_decide_eq_true isUpper
      omega
    · obtain ⟨least, most⟩ := Bool.and_eq_true_iff.mp isLower
      have isLeast : 97 ≤ char.toNat := of_decide_eq_true least
      have isMost : char.toNat ≤ 122 := of_decide_eq_true most
      omega
  · obtain ⟨least, most⟩ := Bool.and_eq_true_iff.mp isDigit
    have isLeast : 48 ≤ char.toNat := of_decide_eq_true least
    have isMost : char.toNat ≤ 57 := of_decide_eq_true most
    omega

/-- No printable character of ASCII but the space is a blank. -/
theorem isBlank_of_toNat {char : Char} (least : 33 ≤ char.toNat) (most : char.toNat ≤ 126) :
    isBlank char = false := by
  rw [← Bool.not_eq_true]
  intro isBlank
  simp only [Text.isBlank, isWhiteSpace, Bool.or_eq_true, Bool.and_eq_true, beq_iff_eq,
    decide_eq_true_eq] at isBlank
  omega

/-- A text without the characters of a class is trimmed to itself. -/
theorem trim_eq_self {isRemoved : Char → Bool} {chars : List Char}
    (hasNone : ∀ char ∈ chars, isRemoved char = false) : trim isRemoved chars = chars := by
  have stays {kept : List Char} (isPart : ∀ char ∈ kept, char ∈ chars) :
      kept.dropWhile isRemoved = kept := by
    apply List.dropWhile_eq_self_iff.mpr
    intro isNonempty
    rw [hasNone _ (isPart _ (List.getElem_mem isNonempty))]
    exact Bool.false_ne_true
  rw [trim, stays fun _ => id, stays fun _ => List.mem_reverse.mp, List.reverse_reverse]

end Text
end SealedGateway
