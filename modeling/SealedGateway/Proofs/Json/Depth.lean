import SealedGateway.Proofs.Json.Leaves

/-!
# How deep brackets are nested

The depth of the brackets in a text can be told without reading it: a bracket counts wherever it
stands outside quotes.  Numbers, literals, blanks and quoted text are read without meeting one, so
the text behind them is as deep as with them.
-/

namespace SealedGateway
namespace Json

/-- Where a symbol of a text stands: outside quotes, between them, or behind a backslash there. -/
inductive Place
  | outside
  | quoted
  | escaped
deriving DecidableEq

/-- Whether a symbol opens a bracket. -/
def opensBracket (symbol : Symbol) : Bool :=
  symbol = .char '[' || symbol = .char '\x7b'

/-- Whether a symbol closes a bracket. -/
def closesBracket (symbol : Symbol) : Bool :=
  symbol = .char ']' || symbol = .char '\x7d'

/-- The greatest number of brackets that are open anywhere in a text, which begins inside as many as
`depth`. -/
def deepest : Place → (depth : Nat) → WideText → Nat
  | _, depth, [] => depth
  | .outside, depth, symbol :: rest =>
    if symbol.code = 34 then deepest .quoted depth rest
    else if opensBracket symbol then deepest .outside (depth + 1) rest
    else if closesBracket symbol then max depth (deepest .outside (depth - 1) rest)
    else deepest .outside depth rest
  | .quoted, depth, symbol :: rest =>
    if symbol.code = 34 then deepest .outside depth rest
    else if symbol = .char '\\' then deepest .escaped depth rest
    else deepest .quoted depth rest
  | .escaped, depth, _ :: rest => deepest .quoted depth rest

/-- How deep the brackets of a text are nested. -/
def bracketDepth (text : WideText) : Nat :=
  deepest .outside 0 text

theorem le_deepest (place : Place) (depth : Nat) (text : WideText) :
    depth ≤ deepest place depth text := by
  fun_induction deepest place depth text <;> omega

theorem deepest_open {symbol : Symbol} (isOpen : opensBracket symbol = true) (depth : Nat)
    (rest : WideText) :
    deepest .outside depth (symbol :: rest) = deepest .outside (depth + 1) rest := by
  have isNoQuote : symbol.code ≠ 34 := by
    rw [opensBracket, Bool.or_eq_true, decide_eq_true_eq, decide_eq_true_eq] at isOpen
    rcases isOpen with rfl | rfl <;> decide
  rw [deepest, if_neg isNoQuote, if_pos isOpen]

theorem deepest_close {symbol : Symbol} (isClose : closesBracket symbol = true) (depth : Nat)
    (rest : WideText) :
    deepest .outside (depth + 1) (symbol :: rest) =
      max (depth + 1) (deepest .outside depth rest) := by
  have isOther : symbol.code ≠ 34 ∧ opensBracket symbol ≠ true := by
    rw [closesBracket, Bool.or_eq_true, decide_eq_true_eq, decide_eq_true_eq] at isClose
    rcases isClose with rfl | rfl <;> decide
  rw [deepest, if_neg isOther.1, if_neg isOther.2, if_pos isClose, Nat.add_sub_cancel]

/-! ## Stretches without brackets -/

/-- Whether one place of a text is led to from another without a bracket between them, so that from
both the text is equally deep. -/
def Leads (place : Place) (input : WideText) (next : Place) (rest : WideText) : Prop :=
  ∀ depth, deepest place depth input = deepest next depth rest

theorem Leads.refl (place : Place) (input : WideText) : Leads place input place input :=
  fun _ => rfl

theorem Leads.trans {place between next : Place} {input middle rest : WideText}
    (first : Leads place input between middle) (second : Leads between middle next rest) :
    Leads place input next rest :=
  fun depth => (first depth).trans (second depth)

/-- Whether a symbol outside quotes is neither a quote nor a bracket. -/
def isNeutral (symbol : Symbol) : Bool :=
  !(decide (symbol.code = 34) || opensBracket symbol || closesBracket symbol)

theorem leads_cons {symbol : Symbol} (neutral : isNeutral symbol = true) (rest : WideText) :
    Leads .outside (symbol :: rest) .outside rest := by
  intro depth
  simp only [isNeutral, Bool.not_eq_true', Bool.or_eq_false_iff, decide_eq_false_iff_not]
    at neutral
  obtain ⟨⟨isNoQuote, isNotOpen⟩, isNotClose⟩ := neutral
  simp [deepest, isNoQuote, isNotOpen, isNotClose]

theorem leads_append {symbols : WideText} (areNeutral : ∀ symbol ∈ symbols, isNeutral symbol = true)
    (rest : WideText) : Leads .outside (symbols ++ rest) .outside rest := by
  induction symbols with
  | nil => exact .refl _ _
  | cons symbol others ih =>
    have behind := ih fun other isMember => areNeutral other (List.mem_cons_of_mem _ isMember)
    exact (leads_cons (areNeutral symbol List.mem_cons_self) _).trans behind

/-- A quote leads into quoted text. -/
theorem leads_quote {symbol : Symbol} (isQuote : symbol.code = 34) (rest : WideText) :
    Leads .outside (symbol :: rest) .quoted rest := by
  intro depth
  rw [deepest, if_pos isQuote]

theorem isNeutral_of_isSpace {symbol : Symbol} (space : isSpace symbol = true) :
    isNeutral symbol = true := by
  simp only [isSpace, Bool.or_eq_true, decide_eq_true_eq] at space
  rcases space with ((rfl | rfl) | rfl) | rfl <;> decide

theorem leads_skipSpace (input : WideText) : Leads .outside input .outside (skipSpace input) := by
  have areBlank : ∀ symbol ∈ input.takeWhile isSpace, isNeutral symbol = true :=
    fun symbol isMember => isNeutral_of_isSpace (List.mem_takeWhile_imp isMember)
  have behind := leads_append areBlank (skipSpace input)
  rwa [skipSpace, List.takeWhile_append_dropWhile] at behind

theorem leads_literal? {word : String} {input rest : WideText}
    (areNeutral : ∀ symbol ∈ WideText.ofString word, isNeutral symbol = true)
    (read : literal? word input = some rest) : Leads .outside input .outside rest := by
  rw [literal?] at read
  split at read
  · next startsWithWord =>
    obtain ⟨behind, rfl⟩ := List.isPrefixOf_iff_prefix.mp startsWithWord
    rw [List.drop_left] at read
    cases read
    exact leads_append areNeutral rest
  · cases read

/-! ## Numbers -/

theorem isNeutral_of_isAsciiDigit {digit : Char} (isDigit : Text.isAsciiDigit digit = true) :
    isNeutral (.char digit) = true := by
  have isOther {other : Char} (isNoDigit : Text.isAsciiDigit other = false) : digit ≠ other := by
    rintro rfl
    cases isNoDigit.symm.trans isDigit
  have isNoQuote : digit.toNat ≠ 34 := by
    rw [Text.isAsciiDigit, Bool.and_eq_true, decide_eq_true_eq] at isDigit
    omega
  have isNoBracket : digit ≠ '[' ∧ digit ≠ '\x7b' ∧ digit ≠ ']' ∧ digit ≠ '\x7d' :=
    ⟨isOther rfl, isOther rfl, isOther rfl, isOther rfl⟩
  simp [isNeutral, opensBracket, closesBracket, Symbol.code, isNoQuote, isNoBracket]

theorem leads_takeDigits (input : WideText) :
    Leads .outside input .outside (takeDigits input).2 := by
  fun_induction takeDigits input with
  | case1 digit rest isDigit digits remaining taken ih =>
    rw [taken] at ih
    exact (leads_cons (isNeutral_of_isAsciiDigit isDigit) rest).trans ih
  | case2 => exact .refl _ _
  | case3 => exact .refl _ _

theorem leads_takeWholePart (input : WideText) :
    Leads .outside input .outside (takeWholePart input).2 := by
  unfold takeWholePart
  split
  · exact leads_cons (by decide) _
  · exact leads_takeDigits _

theorem leads_takeFraction (input : WideText) :
    Leads .outside input .outside (takeFraction input).2 := by
  unfold takeFraction
  split
  · next rest =>
    have isPoint : isNeutral (.char '.') = true := by decide
    have behind := (leads_cons isPoint rest).trans (leads_takeDigits rest)
    split
    · exact .refl _ _
    · next taken =>
      rw [taken] at behind
      exact behind
  · exact .refl _ _

theorem leads_takeExponent (input : WideText) :
    Leads .outside input .outside (takeExponent input).2 := by
  unfold takeExponent
  split
  · next mark rest =>
    split
    · next isMark =>
      have isNeutralMark : isNeutral (.char mark) = true := by
        rcases isMark with rfl | rfl <;> decide
      have behindMark := leads_cons isNeutralMark rest
      split
      next negative unsigned sign =>
      have behindSign : Leads .outside rest .outside unsigned := by
        split at sign
        · cases sign
          exact leads_cons (by decide) _
        · cases sign
          exact leads_cons (by decide) _
        · cases sign
          exact .refl _ _
      have behind := (behindMark.trans behindSign).trans (leads_takeDigits unsigned)
      split
      · exact .refl _ _
      · next taken =>
        rw [taken] at behind
        exact behind
    · exact .refl _ _
  · exact .refl _ _

/-! ## Quoted text -/

theorem leads_quoted {symbol : Symbol} (isNoQuote : symbol.code ≠ 34)
    (isNoBackslash : symbol ≠ .char '\\') (rest : WideText) :
    Leads .quoted (symbol :: rest) .quoted rest := by
  intro depth
  rw [deepest, if_neg isNoQuote, if_neg isNoBackslash]

/-- A backslash leads past the symbol behind it. -/
theorem leads_escape (escape : Symbol) (rest : WideText) :
    Leads .quoted (.char '\\' :: escape :: rest) .quoted rest := by
  intro depth
  rw [deepest, if_neg (by decide), if_pos rfl, deepest]

theorem leads_hexDigit {symbol : Symbol} {value : Nat} (isDigit : hexValue? symbol = some value)
    (rest : WideText) : Leads .quoted (symbol :: rest) .quoted rest := by
  refine leads_quoted ?_ ?_ rest
  · intro isQuote
    rw [Symbol.eq_char_of_code isQuote (by decide)] at isDigit
    cases isDigit
  · rintro rfl
    cases isDigit

theorem leads_scanCode? {input rest : WideText} {code : Nat}
    (scanned : scanCode? input = some (code, rest)) : Leads .quoted input .quoted rest := by
  unfold scanCode? at scanned
  split at scanned
  · split at scanned
    · next isFirst isSecond isThird isFourth =>
      cases scanned
      exact (leads_hexDigit isFirst _).trans <| (leads_hexDigit isSecond _).trans <|
        (leads_hexDigit isThird _).trans (leads_hexDigit isFourth _)
    · cases scanned
  · cases scanned

theorem leads_scanNumberEscape? {input rest : WideText} {symbol : Symbol}
    (scanned : scanNumberEscape? input = some (symbol, rest)) :
    Leads .quoted input .quoted rest := by
  unfold scanNumberEscape? at scanned
  split at scanned
  · cases scanned
  next high behindHigh highScanned =>
  have toHigh := leads_scanCode? highScanned
  split at scanned
  · split at scanned
    · next afterMark =>
      split at scanned
      · cases scanned
      next low afterLow lowScanned =>
      split at scanned
      · rw [← (Prod.mk.inj (Option.some.inj scanned)).2]
        exact toHigh.trans <| (leads_escape _ _).trans (leads_scanCode? lowScanned)
      · cases scanned
        exact toHigh
    · cases scanned
      exact toHigh
  · cases scanned
    exact toHigh

/-- Quoted text is read up to where its quote leads out of it, whatever the brackets in it. -/
theorem leads_scanText {fuel : Nat} {input rest text : WideText}
    (scanned : scanText fuel input = .ok (text, rest)) : Leads .quoted input .outside rest := by
  induction fuel generalizing input text with
  | zero => cases scanned
  | succ fuel ih =>
    cases input with
    | nil => cases scanned
    | cons symbol others =>
      rw [scanText.eq_def] at scanned
      simp only at scanned
      split at scanned
      · next isQuote =>
        cases scanned
        intro depth
        rw [deepest, if_pos isQuote]
      next isNoQuote =>
      split at scanned
      · cases scanned
      split at scanned
      · next isBackslash =>
        subst isBackslash
        split at scanned
        · cases scanned
        next escape afterEscape =>
        split at scanned
        · cases scanned
        next escaped remaining escapeScanned =>
        have toRemaining : Leads .quoted afterEscape .quoted remaining := by
          split at escapeScanned
          · exact leads_scanNumberEscape? escapeScanned
          · obtain ⟨_, _, sameText⟩ := Option.map_eq_some_iff.mp escapeScanned
            cases sameText
            exact .refl _ _
        split at scanned
        · next others rest othersScanned =>
          cases scanned
          exact (leads_escape _ _).trans <| toRemaining.trans (ih othersScanned)
        · cases scanned
      · next isNoBackslash =>
        split at scanned
        · next others rest othersScanned =>
          cases scanned
          exact (leads_quoted isNoQuote isNoBackslash _).trans (ih othersScanned)
        · cases scanned

theorem scanText_ne_tooDeep (fuel : Nat) (input : WideText) :
    scanText fuel input ≠ .error .tooDeep := by
  fun_induction scanText fuel input <;> simp_all

/-- A name is read together with its colon and the blanks around that. -/
theorem leads_scanName {input rest name : WideText}
    (scanned : scanName input = .ok (name, rest)) : Leads .outside input .outside rest := by
  unfold scanName at scanned
  split at scanned
  · next symbol others =>
    split at scanned
    · next isQuote =>
      split at scanned
      · cases scanned
      next afterName textScanned =>
      have toColon := (leads_quote isQuote _).trans <| (leads_scanText textScanned).trans
        (leads_skipSpace afterName)
      split at scanned
      · next remaining isColon =>
        cases scanned
        rw [isColon] at toColon
        exact toColon.trans <| (leads_cons (by decide) remaining).trans (leads_skipSpace remaining)
      · cases scanned
    · cases scanned
  · cases scanned

theorem scanName_ne_tooDeep (input : WideText) : scanName input ≠ .error .tooDeep := by
  intro givesUp
  unfold scanName at givesUp
  split at givesUp
  · next symbol rest =>
    split at givesUp
    · split at givesUp
      · next scanned =>
        rw [Except.error.inj givesUp] at scanned
        exact scanText_ne_tooDeep (rest.length + 1) rest scanned
      · split at givesUp <;> cases givesUp
    · cases givesUp
  · cases givesUp

end Json
end SealedGateway
