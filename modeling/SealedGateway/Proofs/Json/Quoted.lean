import SealedGateway.Json.Printer
import SealedGateway.Json.Parser
import SealedGateway.Proofs.Bytes.Hex

/-!
# Reading quoted text

Inside quotes every symbol stands for itself or has an escape, and the reader takes each of them
back at once.  So a quoted text is read back up to its closing quote, whatever stands behind it.
-/

namespace SealedGateway

namespace Symbol

/-- A code point below the surrogates is that of one character. -/
theorem eq_char_of_code {symbol : Symbol} {code : Nat} (codeIs : symbol.code = code)
    (isLow : code < 0xD800) : symbol = .char (Char.ofNat code) := by
  cases symbol with
  | char value =>
    rw [← codeIs]
    exact congrArg _ (Char.ofNat_toNat value).symm
  | surrogate offset =>
    rw [Symbol.code] at codeIs
    omega

end Symbol

namespace Json

/-- Four digits write the code point of a control character. -/
theorem paddedHex_of_isControl : ∀ code < 32, Text.paddedHex 4 code =
    ['0', '0', Hex.digit (code / 16), Hex.digit (code % 16)] := by
  decide

theorem hexValue?_digit {value : Nat} (isSmall : value < 16) :
    hexValue? (.char (Hex.digit value)) = some value := by
  revert value
  decide

theorem symbolOf_of_isControl {code : Nat} (isControl : code < 32) :
    symbolOf code = .char (Char.ofNat code) := by
  rw [symbolOf, Symbol.ofCode?, dif_neg (by omega), if_pos (by omega)]
  rfl

theorem scanNumberEscape?_paddedHex {code : Nat} (isControl : code < 32) (rest : WideText) :
    scanNumberEscape? (WideText.ofChars (Text.paddedHex 4 code) ++ rest) =
      some (.char (Char.ofNat code), rest) := by
  have value : 0 * 0x1000 + 0 * 0x100 + code / 16 * 0x10 + code % 16 = code := by omega
  have isHigh : isHighSurrogate code = false := by
    rw [isHighSurrogate, Bool.and_eq_false_iff]
    exact Or.inl (decide_eq_false (by omega))
  have scanned : scanCode? (WideText.ofChars (Text.paddedHex 4 code) ++ rest) =
      some (code, rest) := by
    rw [paddedHex_of_isControl code isControl]
    simp only [WideText.ofChars, List.map_cons, List.map_nil, List.cons_append, List.nil_append,
      scanCode?, hexValue?_digit (show code / 16 < 16 by omega),
      hexValue?_digit (show code % 16 < 16 by omega),
      show hexValue? (.char '0') = some 0 from rfl, value]
  rw [scanNumberEscape?, scanned]
  simp only [isHigh, symbolOf_of_isControl isControl, Bool.false_eq_true, if_false]

/-- What the scanner of quoted text gives when a symbol stands before the rest. -/
def behindSymbol (symbol : Symbol) : Scan WideText → Scan WideText
  | .ok (symbols, remaining) => .ok (symbol :: symbols, remaining)
  | .error fault => .error fault

/-- The code points with an escape of one letter. -/
def letterEscaped : List Nat := [34, 92, 8, 9, 10, 12, 13]

theorem scanText_letterEscape (fuel : Nat) {code : Nat} (isEscaped : code ∈ letterEscaped)
    (rest : WideText) :
    scanText (fuel + 1) (printSymbol (.char (Char.ofNat code)) ++ rest) =
      behindSymbol (.char (Char.ofNat code)) (scanText fuel rest) := by
  simp only [letterEscaped, List.mem_cons, List.not_mem_nil, or_false] at isEscaped
  rcases isEscaped with rfl | rfl | rfl | rfl | rfl | rfl | rfl <;> rfl

theorem printSymbol_of_isControl {symbol : Symbol} (isControl : symbol.code < 32)
    (isNumbered : symbol.code ∉ letterEscaped) :
    printSymbol symbol = WideText.ofChars ('\\' :: 'u' :: Text.paddedHex 4 symbol.code) := by
  simp only [letterEscaped, List.mem_cons, List.not_mem_nil, or_false, not_or] at isNumbered
  simp only [printSymbol, isNumbered, if_false, if_pos isControl]

theorem printSymbol_of_isPlain {symbol : Symbol} (isPlain : ¬ symbol.code < 32)
    (isUnescaped : symbol.code ∉ letterEscaped) : printSymbol symbol = [symbol] := by
  simp only [letterEscaped, List.mem_cons, List.not_mem_nil, or_false, not_or] at isUnescaped
  simp only [printSymbol, isUnescaped, if_false, if_neg isPlain]

/-- A symbol inside quotes is read back, and reading goes on behind it. -/
theorem scanText_printSymbol (fuel : Nat) (symbol : Symbol) (rest : WideText) :
    scanText (fuel + 1) (printSymbol symbol ++ rest) =
      behindSymbol symbol (scanText fuel rest) := by
  by_cases isEscaped : symbol.code ∈ letterEscaped
  · have isLow : symbol.code < 0xD800 :=
      (show ∀ code ∈ letterEscaped, code < 0xD800 by decide) _ isEscaped
    rw [Symbol.eq_char_of_code rfl isLow]
    exact scanText_letterEscape fuel isEscaped rest
  by_cases isControl : symbol.code < 32
  · have escaped := scanNumberEscape?_paddedHex isControl rest
    rw [← Symbol.eq_char_of_code rfl (by omega)] at escaped
    rw [printSymbol_of_isControl isControl isEscaped, WideText.ofChars, List.map_cons,
      List.map_cons, List.cons_append, List.cons_append, scanText]
    rw [WideText.ofChars] at escaped
    simp only [escaped, if_true]
    rw [if_neg (by decide), if_neg (by decide)]
    rfl
  · have isNoQuote : symbol.code ≠ 34 := fun isQuote => isEscaped (isQuote ▸ by decide)
    have isNoBackslash : symbol ≠ .char '\\' := by
      rintro rfl
      exact isEscaped (by decide)
    rw [printSymbol_of_isPlain isControl isEscaped, List.singleton_append, scanText.eq_def]
    simp only [if_neg isNoQuote, if_neg isControl, if_neg isNoBackslash]
    rfl

/-- A quoted text is read back up to the closing quote. -/
theorem scanText_flatMap (text rest : WideText) {fuel : Nat} (isEnough : text.length < fuel) :
    scanText fuel (text.flatMap printSymbol ++ quoteSymbol :: rest) = .ok (text, rest) := by
  induction text generalizing fuel with
  | nil =>
    obtain ⟨fuel, rfl⟩ := Nat.exists_eq_add_of_lt isEnough
    rfl
  | cons symbol others ih =>
    cases fuel with
    | zero => exact absurd isEnough (Nat.not_lt_zero _)
    | succ fuel =>
      rw [List.flatMap_cons, List.append_assoc, scanText_printSymbol,
        ih (Nat.lt_of_succ_lt_succ isEnough)]
      rfl

/-- No symbol is written by fewer symbols than one. -/
theorem length_le_length_flatMap_printSymbol (text : WideText) :
    text.length ≤ (text.flatMap printSymbol).length := by
  induction text with
  | nil => exact Nat.le_refl 0
  | cons symbol others ih =>
    have isNonempty : 0 < (printSymbol symbol).length := by
      unfold printSymbol
      grind [WideText.ofChars]
    rw [List.flatMap_cons, List.length_append, List.length_cons]
    omega

/-- A quoted text is read back behind its opening quote. -/
theorem scanText_behind_quote (text rest : WideText) :
    scanText ((text.flatMap printSymbol ++ quoteSymbol :: rest).length + 1)
      (text.flatMap printSymbol ++ quoteSymbol :: rest) = .ok (text, rest) := by
  apply scanText_flatMap
  have atLeast := length_le_length_flatMap_printSymbol text
  rw [List.length_append]
  omega

end Json
end SealedGateway
