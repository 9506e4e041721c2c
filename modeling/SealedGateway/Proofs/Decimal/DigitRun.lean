import Mathlib.Data.List.TakeWhile
import SealedGateway.Field
import SealedGateway.Proofs.Text.Blank

/-!
# Runs of digits

A text that consists of ASCII digits is read as the number that it writes.  Zeros at its head do
not count towards the limit on the length of numerals.
-/

namespace SealedGateway
namespace Numeral

/-- Whether a text consists of ASCII digits, of which there is at least one. -/
def IsRun (chars : List Char) : Prop :=
  chars ≠ [] ∧ ∀ char ∈ chars, Text.isAsciiDigit char = true

instance (chars : List Char) : Decidable (IsRun chars) :=
  decidable_of_iff (chars ≠ [] ∧ chars.all Text.isAsciiDigit = true) (by
    rw [IsRun, List.all_eq_true])

/-- The digits from the first one on that is not zero. -/
def significant (digits : List Char) : List Char :=
  digits.dropWhile (· == '0')

theorem isAsciiDigit_iff {char : Char} :
    Text.isAsciiDigit char = true ↔ 48 ≤ char.toNat ∧ char.toNat ≤ 57 := by
  simp [Text.isAsciiDigit]

theorem significant_subset (digits : List Char) : significant digits ⊆ digits :=
  (List.dropWhile_sublist _).subset

theorem length_significant_le (digits : List Char) :
    (significant digits).length ≤ digits.length :=
  (List.dropWhile_sublist _).length_le

theorem head_significant_ne {digits others : List Char} {first : Char}
    (starts : significant digits = first :: others) : first ≠ '0' := by
  have head := List.head?_dropWhile_not (· == '0') digits
  rw [show digits.dropWhile (· == '0') = first :: others from starts] at head
  simpa using head

/-- Zeros at the head of a numeral do not change its value. -/
theorem ofDigits_significant (digits : List Char) :
    ofDigits (significant digits) = ofDigits digits := by
  induction digits with
  | nil => rfl
  | cons digit rest ih =>
    unfold significant at ih ⊢
    by_cases isZero : digit = '0'
    · subst isZero
      exact ih
    · rw [List.dropWhile_cons_of_neg (by simpa using isZero)]

end Numeral

namespace Text

theorem isWhiteSpace_of_isAsciiDigit {char : Char} (isDigit : isAsciiDigit char = true) :
    isWhiteSpace char = false := by
  rw [Numeral.isAsciiDigit_iff] at isDigit
  unfold isWhiteSpace
  grind

end Text

namespace Field

/-- The digits that are left of a run: those that are significant, or one zero. -/
def plainDigits (digits : List Char) : List Char :=
  if Numeral.significant digits = [] then ['0'] else Numeral.significant digits

theorem isAsciiDigit_of_mem_plainDigits {digits : List Char} (isRun : Numeral.IsRun digits) :
    ∀ char ∈ plainDigits digits, Text.isAsciiDigit char = true := by
  intro char isMember
  unfold plainDigits at isMember
  split at isMember
  · rw [List.mem_singleton.mp isMember]
    rfl
  · exact isRun.2 char (Numeral.significant_subset digits isMember)

theorem dropLeadingZeros?_eq {digits : List Char}
    (areDigits : ∀ char ∈ digits, Text.isAsciiDigit char = true) :
    dropLeadingZeros? '0' digits = some (plainDigits digits) := by
  induction digits with
  | nil => rfl
  | cons digit rest ih =>
    rw [dropLeadingZeros?]
    by_cases isZero : digit = '0'
    · subst isZero
      exact ih fun char isMember => areDigits char (List.mem_cons_of_mem _ isMember)
    · have isDigit := areDigits digit List.mem_cons_self
      have isLine : digit ≠ '_' := by
        rintro rfl
        cases isDigit
      have starts : Numeral.significant (digit :: rest) = digit :: rest :=
        List.dropWhile_cons_of_neg (by simpa using isZero)
      rw [if_neg (by simp [isZero, isLine]), if_pos (Or.inl isDigit), plainDigits, starts,
        if_neg (List.cons_ne_nil _ _)]

theorem withoutLeadingZeros?_eq {digits : List Char} (isRun : Numeral.IsRun digits) :
    withoutLeadingZeros? digits = some (plainDigits digits) := by
  obtain ⟨isNonempty, areDigits⟩ := isRun
  cases digits with
  | nil => exact absurd rfl isNonempty
  | cons digit rest =>
    rw [withoutLeadingZeros?]
    by_cases isZero : digit = '0'
    · subst isZero
      rw [if_pos rfl]
      exact dropLeadingZeros?_eq fun char isMember =>
        areDigits char (List.mem_cons_of_mem _ isMember)
    · have starts : Numeral.significant (digit :: rest) = digit :: rest :=
        List.dropWhile_cons_of_neg (by simpa using isZero)
      rw [if_neg isZero, if_pos (areDigits digit List.mem_cons_self), plainDigits, starts,
        if_neg (List.cons_ne_nil _ _)]

theorem withoutZeroFraction_eq_self {chars : List Char} (isAbsent : '.' ∉ chars) :
    withoutZeroFraction chars = chars := by
  have drops : chars.dropWhile (· != '.') = [] := by
    rw [List.dropWhile_eq_nil_iff]
    intro char isMember
    simp only [bne_iff_ne, ne_eq]
    rintro rfl
    exact isAbsent isMember
  unfold withoutZeroFraction
  simp only [drops]

theorem withoutLowLines?_eq_none {chars : List Char} (isAbsent : '_' ∉ chars) :
    withoutLowLines? chars = none := by
  rw [withoutLowLines?, if_pos]
  refine Or.inr (Or.inr (Or.inr ?_))
  simpa using isAbsent

theorem not_mem_of_isAsciiDigit {chars : List Char}
    (areDigits : ∀ char ∈ chars, Text.isAsciiDigit char = true) {other : Char}
    (isOther : Text.isAsciiDigit other = false) : other ∉ chars := by
  intro isMember
  rw [areDigits other isMember] at isOther
  cases isOther

theorem splitSign_of_isRun {digits : List Char} (isRun : Numeral.IsRun digits) :
    Numeral.splitSign digits = (false, digits) := by
  obtain ⟨isNonempty, areDigits⟩ := isRun
  unfold Numeral.splitSign
  split
  · exact absurd List.mem_cons_self (not_mem_of_isAsciiDigit areDigits rfl)
  · exact absurd List.mem_cons_self (not_mem_of_isAsciiDigit areDigits rfl)
  · rfl

theorem plainWhole?_of_isRun {digits : List Char} (isRun : Numeral.IsRun digits) :
    plainWhole? digits = some (plainDigits digits) := by
  have isKept : Text.trim Text.isWhiteSpace digits = digits :=
    Text.trim_eq_self fun char isMember =>
      Text.isWhiteSpace_of_isAsciiDigit (isRun.2 char isMember)
  have areDigits := isAsciiDigit_of_mem_plainDigits isRun
  have noFraction := withoutZeroFraction_eq_self (not_mem_of_isAsciiDigit areDigits rfl)
  have noLowLines := withoutLowLines?_eq_none (not_mem_of_isAsciiDigit areDigits rfl)
  unfold plainWhole?
  simp only [isKept, splitSign_of_isRun isRun, withoutLeadingZeros?_eq isRun, noFraction,
    noLowLines, Option.getD_none, Bool.false_eq_true, if_false]

theorem plainDigits_eq_cons {digits : List Char} (isRun : Numeral.IsRun digits) :
    ∃ first others, plainDigits digits = first :: others ∧ first ≠ '-' ∧
      (first = '0' → others = []) := by
  obtain ⟨first, others, starts⟩ : ∃ first others, plainDigits digits = first :: others := by
    unfold plainDigits
    split
    · exact ⟨'0', [], rfl⟩
    · next isNonempty => exact List.exists_cons_of_ne_nil isNonempty
  have isDigit : Text.isAsciiDigit first = true := by
    apply isAsciiDigit_of_mem_plainDigits isRun
    rw [starts]
    exact List.mem_cons_self
  refine ⟨first, others, starts, ?_, ?_⟩
  · rintro rfl
    cases isDigit
  · intro isZero
    unfold plainDigits at starts
    split at starts
    · exact (List.cons.inj starts).2.symm
    · exact absurd isZero (Numeral.head_significant_ne starts)

theorem ofDigits_plainDigits (digits : List Char) :
    Numeral.ofDigits (plainDigits digits) = Numeral.ofDigits digits := by
  rw [← Numeral.ofDigits_significant digits]
  unfold plainDigits
  split
  · next isEmpty =>
    rw [isEmpty]
    rfl
  · rfl

/-- The limit on the length of numerals counts significant digits only. -/
theorem length_plainDigits_le_iff (digits : List Char) :
    (plainDigits digits).length ≤ Numeral.digitLimit ↔
      (Numeral.significant digits).length ≤ Numeral.digitLimit := by
  unfold plainDigits
  split
  · next isEmpty =>
    rw [isEmpty]
    decide
  · rfl

/-- A plain numeral without a sign is read as its value unless it is too long. -/
theorem readPlainWhole_of_unsigned {first : Char} {others : List Char}
    (areDigits : ∀ char ∈ first :: others, Text.isAsciiDigit char = true)
    (isUnsigned : first ≠ '-') (isPlain : first = '0' → others = []) :
    readPlainWhole (first :: others) =
      if (first :: others).length ≤ Numeral.digitLimit then
        .ok (Numeral.ofDigits (first :: others) : Int)
      else .error .wholeTooLong := by
  have takes : (first :: others).takeWhile Text.isAsciiDigit = first :: others :=
    List.takeWhile_eq_self_iff.mpr areDigits
  rw [readPlainWhole.eq_def]
  split
  next negative unsigned parted =>
  have signs : (false, first :: others) = (negative, unsigned) := by
    rw [← parted]
    split
    · next starts => exact absurd (List.cons.inj starts).1 isUnsigned
    · rfl
  obtain ⟨rfl, rfl⟩ := Prod.mk.inj signs
  simp only [takes]
  by_cases isZero : first = '0'
  · rw [isPlain isZero, isZero]
    rfl
  · rw [if_neg isZero]
    by_cases isShort : others.length + 1 ≤ Numeral.digitLimit
    · rw [if_neg (by simpa using isShort), if_pos trivial, List.length_cons, if_pos isShort]
      rfl
    · rw [if_pos (by simpa using isShort), List.length_cons, if_neg isShort]

/-- A run of digits is read as its value unless it has too many significant digits. -/
theorem readWholeText_of_isRun {digits : List Char} (isRun : Numeral.IsRun digits) :
    readWholeText digits =
      if (Numeral.significant digits).length ≤ Numeral.digitLimit then
        .ok (Numeral.ofDigits digits : Int)
      else .error .wholeTooLong := by
  obtain ⟨first, others, starts, isUnsigned, isPlain⟩ := plainDigits_eq_cons isRun
  have areDigits := isAsciiDigit_of_mem_plainDigits isRun
  have value := ofDigits_plainDigits digits
  have limit := length_plainDigits_le_iff digits
  rw [starts] at areDigits value limit
  simp only [readWholeText, plainWhole?_of_isRun isRun, starts,
    readPlainWhole_of_unsigned areDigits isUnsigned isPlain, value, limit]

end Field
end SealedGateway
