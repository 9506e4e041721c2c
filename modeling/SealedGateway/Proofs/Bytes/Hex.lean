import SealedGateway.Bytes.Hex
import SealedGateway.Decimal.Numeral

/-!
# The language of strict hexadecimal

The strict reader takes exactly the texts of an even number of digits, in either case, and reads
from such a text the bytes whose written form is its lower-case form.
-/

namespace SealedGateway
namespace Hex

/-- Whether a character is an ASCII hexadecimal digit of either case. -/
def IsDigit (char : Char) : Prop :=
  '0' ≤ char ∧ char ≤ '9' ∨ 'a' ≤ char ∧ char ≤ 'f' ∨ 'A' ≤ char ∧ char ≤ 'F'

instance (char : Char) : Decidable (IsDigit char) :=
  inferInstanceAs (Decidable (_ ∨ _))

theorem isDigit_iff_toNat {char : Char} :
    IsDigit char ↔ 48 ≤ char.toNat ∧ char.toNat ≤ 57 ∨ 97 ≤ char.toNat ∧ char.toNat ≤ 102 ∨
      65 ≤ char.toNat ∧ char.toNat ≤ 70 :=
  Iff.rfl

theorem toNat_ofNat_of_isLow {code : Nat} (isLow : code < 0xD800) :
    (Char.ofNat code).toNat = code := by
  rw [Char.ofNat, dif_pos (Or.inl isLow)]
  rfl

theorem toNat_digit {value : Nat} (isSmall : value < 16) :
    (digit value).toNat = if value < 10 then 48 + value else 87 + value := by
  revert value
  decide

theorem toNat_lowerAscii (char : Char) :
    (Numeral.lowerAscii char).toNat =
      if 65 ≤ char.toNat ∧ char.toNat ≤ 90 then char.toNat + 32 else char.toNat := by
  unfold Numeral.lowerAscii
  split
  · next isUpper =>
    exact toNat_ofNat_of_isLow (by omega)
  · rfl

/-- A character has a value exactly when its lower-case form is the digit of that value. -/
theorem digitValue?_eq_some_iff {char : Char} {value : Nat} :
    digitValue? char = some value ↔ value < 16 ∧ Numeral.lowerAscii char = digit value := by
  constructor
  · intro read
    have isSmall : value < 16 := by
      grind [digitValue?]
    refine ⟨isSmall, Char.toNat_inj.mp ?_⟩
    rw [toNat_lowerAscii, toNat_digit isSmall]
    grind [digitValue?]
  · rintro ⟨isSmall, same⟩
    have code := congrArg Char.toNat same
    rw [toNat_lowerAscii, toNat_digit isSmall] at code
    grind [digitValue?]

theorem isDigit_iff_exists_value {char : Char} :
    IsDigit char ↔ ∃ value, digitValue? char = some value := by
  rw [isDigit_iff_toNat]
  unfold digitValue?
  constructor
  · intro isDigit
    rcases isDigit with isNumeral | isLower | isUpper
    · exact ⟨char.toNat - 48, if_pos isNumeral⟩
    · exact ⟨char.toNat - 87, by rw [if_neg (by omega), if_pos isLower]⟩
    · exact ⟨char.toNat - 55, by rw [if_neg (by omega), if_neg (by omega), if_pos isUpper]⟩
  · rintro ⟨value, read⟩
    grind

@[simp] theorem encode_nil : encode [] = [] := rfl

theorem encode_cons (byte : UInt8) (rest : Bytes) :
    encode (byte :: rest) =
      digit (byte.toNat / 16) :: digit (byte.toNat % 16) :: encode rest := rfl

/-- A text of at least two characters is in lower case the written form of some bytes exactly when
its first two characters stand for the halves of the first byte. -/
theorem map_lowerAscii_eq_encode_iff {high low : Char} {rest : List Char} {bytes : Bytes} :
    (high :: low :: rest).map Numeral.lowerAscii = encode bytes ↔
      ∃ byte others, bytes = byte :: others ∧ digitValue? high = some (byte.toNat / 16) ∧
        digitValue? low = some (byte.toNat % 16) ∧
        rest.map Numeral.lowerAscii = encode others := by
  constructor
  · intro written
    cases bytes with
    | nil => cases written
    | cons byte others =>
      have isByte := byte.toNat_lt
      rw [List.map_cons, List.map_cons, encode_cons] at written
      obtain ⟨highSame, written⟩ := List.cons.inj written
      obtain ⟨lowSame, restSame⟩ := List.cons.inj written
      exact ⟨byte, others, rfl, digitValue?_eq_some_iff.mpr ⟨by omega, highSame⟩,
        digitValue?_eq_some_iff.mpr ⟨by omega, lowSame⟩, restSame⟩
  · rintro ⟨byte, others, rfl, highRead, lowRead, restSame⟩
    rw [List.map_cons, List.map_cons, encode_cons, restSame,
      (digitValue?_eq_some_iff.mp highRead).2, (digitValue?_eq_some_iff.mp lowRead).2]

/-- A text is read as the bytes whose written form is its lower-case form, and only as them. -/
theorem decode?_eq_some_iff {chars : List Char} {bytes : Bytes} :
    decode? chars = some bytes ↔ chars.map Numeral.lowerAscii = encode bytes := by
  fun_induction decode? chars generalizing bytes with
  | case1 => cases bytes <;> simp [encode_cons]
  | case2 char =>
    constructor
    · intro read
      cases read
    · intro written
      have lengths := congrArg List.length written
      rw [List.length_map, length_encode, List.length_singleton] at lengths
      omega
  | case3 high low rest highValue lowValue restBytes restRead lowRead highRead ih =>
    have isHigh := (digitValue?_eq_some_iff.mp highRead).1
    have isLow := (digitValue?_eq_some_iff.mp lowRead).1
    rw [map_lowerAscii_eq_encode_iff, Option.some.injEq]
    constructor
    · rintro rfl
      have value : (UInt8.ofNat (16 * highValue + lowValue)).toNat =
          16 * highValue + lowValue := by
        rw [UInt8.toNat_ofNat', Nat.mod_eq_of_lt (by omega)]
      refine ⟨_, _, rfl, ?_, ?_, ih.mp restRead⟩
      · rw [highRead, value]
        congr 1
        omega
      · rw [lowRead, value]
        congr 1
        omega
    · rintro ⟨byte, others, rfl, highSame, lowSame, restSame⟩
      have highEqual := Option.some.inj (highRead.symm.trans highSame)
      have lowEqual := Option.some.inj (lowRead.symm.trans lowSame)
      have restEqual := Option.some.inj (restRead.symm.trans (ih.mpr restSame))
      rw [highEqual, lowEqual, restEqual, Nat.div_add_mod, UInt8.ofNat_toNat]
  | case4 high low rest isRefused ih =>
    rw [map_lowerAscii_eq_encode_iff]
    constructor
    · intro read
      cases read
    · rintro ⟨byte, others, rfl, highRead, lowRead, restSame⟩
      exact (isRefused _ _ _ highRead lowRead (ih.mpr restSame)).elim

theorem map_lowerAscii_encode (bytes : Bytes) :
    (encode bytes).map Numeral.lowerAscii = encode bytes :=
  decode?_eq_some_iff.mp (decode?_encode bytes)

theorem encode_injective : Function.Injective encode := by
  intro left right same
  have read := decode?_encode left
  rw [same, decode?_encode right] at read
  exact (Option.some.inj read).symm

theorem toList_text (bytes : Bytes) : (text bytes).toList = encode bytes :=
  String.toList_ofList

theorem length_of_decode? {chars : List Char} {bytes : Bytes}
    (read : decode? chars = some bytes) : chars.length = 2 * bytes.length := by
  have lengths := congrArg List.length (decode?_eq_some_iff.mp read)
  rwa [List.length_map, length_encode] at lengths

/-- The texts that are read: an even number of digits. -/
theorem exists_decode?_iff {chars : List Char} :
    (∃ bytes, decode? chars = some bytes) ↔
      chars.length % 2 = 0 ∧ ∀ char ∈ chars, IsDigit char := by
  fun_induction decode? chars with
  | case1 => simp
  | case2 char => simp
  | case3 high low rest highValue lowValue restBytes restRead lowRead highRead ih =>
    have highDigit := isDigit_iff_exists_value.mpr ⟨_, highRead⟩
    have lowDigit := isDigit_iff_exists_value.mpr ⟨_, lowRead⟩
    obtain ⟨isEven, restDigits⟩ := ih.mp ⟨_, restRead⟩
    refine ⟨fun _ => ⟨?_, ?_⟩, fun _ => ⟨_, rfl⟩⟩
    · rw [List.length_cons, List.length_cons]
      omega
    · simp only [List.mem_cons, forall_eq_or_imp]
      exact ⟨highDigit, lowDigit, restDigits⟩
  | case4 high low rest isRefused ih =>
    constructor
    · rintro ⟨bytes, read⟩
      cases read
    · rintro ⟨isEven, digits⟩
      simp only [List.mem_cons, forall_eq_or_imp] at digits
      obtain ⟨highDigit, lowDigit, restDigits⟩ := digits
      rw [List.length_cons, List.length_cons] at isEven
      obtain ⟨highValue, highRead⟩ := isDigit_iff_exists_value.mp highDigit
      obtain ⟨lowValue, lowRead⟩ := isDigit_iff_exists_value.mp lowDigit
      obtain ⟨bytes, restRead⟩ := ih.mpr ⟨by omega, restDigits⟩
      exact (isRefused _ _ _ highRead lowRead restRead).elim

end Hex
end SealedGateway
