import SealedGateway.Bytes.Basic

/-!
# Hexadecimal text

Every byte is written as two digits, the high half first, in lower case.  The strict reader takes
digits of either case and nothing else: no blanks, no marker, an even number of digits.  The
spaced reader takes ASCII blanks between bytes and names the place of the first character it
refuses.
-/

namespace SealedGateway
namespace Hex

/-- The lower-case digit of a number below sixteen. -/
def digit (value : Nat) : Char :=
  if value < 10 then Char.ofNat (48 + value) else Char.ofNat (87 + value)

/-- The value of an ASCII hexadecimal digit. -/
def digitValue? (char : Char) : Option Nat :=
  let code := char.toNat
  if 48 ≤ code ∧ code ≤ 57 then some (code - 48)
  else if 97 ≤ code ∧ code ≤ 102 then some (code - 87)
  else if 65 ≤ code ∧ code ≤ 70 then some (code - 55)
  else none

/-- Each byte as two lower-case digits. -/
def encode (bytes : Bytes) : List Char :=
  bytes.flatMap fun byte => [digit (byte.toNat / 16), digit (byte.toNat % 16)]

/-- The bytes written by an even number of hexadecimal digits. -/
def decode? : List Char → Option Bytes
  | [] => some []
  | [_] => none
  | high :: low :: rest =>
    match digitValue? high, digitValue? low, decode? rest with
    | some highValue, some lowValue, some bytes =>
      some (UInt8.ofNat (16 * highValue + lowValue) :: bytes)
    | _, _, _ => none

/-- Each byte as two lower-case digits, as text. -/
def text (bytes : Bytes) : String :=
  String.ofList (encode bytes)

/-- A number in lower-case hexadecimal, with at least two digits. -/
def ofNat (value : Nat) : List Char :=
  let digits := Nat.toDigits 16 value
  if digits.length < 2 then '0' :: digits else digits

/-- The blanks that may stand between bytes in the spaced form. -/
def isSpacing (char : Char) : Bool :=
  char == ' ' || (9 ≤ char.toNat && char.toNat ≤ 13)

/-- Reads bytes with ASCII blanks between them, starting at a given place of the text; the error is
the place of the first character that cannot be read. -/
def decodeSpacedFrom (place : Nat) : List Char → Except Nat Bytes
  | [] => .ok []
  | high :: rest =>
    if isSpacing high then decodeSpacedFrom (place + 1) rest
    else
      match digitValue? high with
      | none => .error place
      | some highValue =>
        match rest with
        | [] => .error (place + 1)
        | low :: rest =>
          match digitValue? low with
          | none => .error (place + 1)
          | some lowValue =>
            match decodeSpacedFrom (place + 2) rest with
            | .error failedPlace => .error failedPlace
            | .ok bytes => .ok (UInt8.ofNat (16 * highValue + lowValue) :: bytes)

/-- Whether a character is outside ASCII. -/
def isForeign (char : Char) : Bool := 128 ≤ char.toNat

/-- Reads bytes with ASCII blanks between them.  A character outside ASCII is refused before any
other. -/
def decodeSpaced (text : String) : Except Nat Bytes :=
  match text.toList.findIdx? isForeign with
  | some place => .error place
  | none => decodeSpacedFrom 0 text.toList

theorem digitValue?_digit {value : Nat} (isSmall : value < 16) :
    digitValue? (digit value) = some value := by
  revert value
  decide

@[simp] theorem length_encode (bytes : Bytes) : (encode bytes).length = 2 * bytes.length := by
  induction bytes with
  | nil => rfl
  | cons byte rest ih =>
    simp only [encode, List.flatMap_cons, List.length_append, List.length_cons, List.length_nil]
      at ih ⊢
    omega

/-- Reading the digits of a byte string gives that byte string back. -/
theorem decode?_encode (bytes : Bytes) : decode? (encode bytes) = some bytes := by
  induction bytes with
  | nil => rfl
  | cons byte rest ih =>
    have isByte := byte.toNat_lt
    have high : digitValue? (digit (byte.toNat / 16)) = some (byte.toNat / 16) :=
      digitValue?_digit (by omega)
    have low : digitValue? (digit (byte.toNat % 16)) = some (byte.toNat % 16) :=
      digitValue?_digit (by omega)
    simp only [encode, List.flatMap_cons, List.cons_append, List.nil_append] at ih ⊢
    rw [decode?, high, low, ih]
    simp [Nat.div_add_mod]

end Hex
end SealedGateway
