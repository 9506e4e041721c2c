import SealedGateway.Proofs.Json.Depth

/-!
# The limit on nested brackets

A value that is read is nested as deep as the brackets of its text.  The reader gives up for depth
only where they go deeper than its limit, and of a text that is one value it gives up exactly then,
whatever the limit is.
-/

namespace SealedGateway
namespace Json

/-! ## Values -/

/-- What a scan tells about depth, from a text that begins behind `inside` brackets whose closing
ones are read too: what it read is nested within the limit and as deep as the brackets of its text,
and it gives up for depth only where the brackets go deeper than the limit. -/
def Measured {α : Type} (inside limit : Nat) (nestingOf : α → Nat) (input : WideText) :
    Scan α → Prop
  | .ok (value, rest) => nestingOf value ≤ limit ∧
    ∀ depth, deepest .outside (depth + inside) input =
      max (depth + inside + nestingOf value) (deepest .outside depth rest)
  | .error .tooDeep => ∀ depth, depth + inside + limit < deepest .outside (depth + inside) input
  | .error .malformed => True

/-- A scan that meets no bracket reads something without brackets. -/
theorem measured_of_leads {α : Type} {limit : Nat} {nestingOf : α → Nat} {input rest : WideText}
    {value : α} (leads : Leads .outside input .outside rest) (isFlat : nestingOf value = 0) :
    Measured 0 limit nestingOf input (.ok (value, rest)) := by
  refine ⟨isFlat.trans_le (Nat.zero_le _), fun depth => ?_⟩
  have isWithin := le_deepest .outside depth rest
  rw [Nat.add_zero, isFlat, leads depth]
  omega

/-- What leads to a measured text is measured alike. -/
theorem Measured.of_leads {α : Type} {inside limit : Nat} {nestingOf : α → Nat}
    {input middle : WideText} {scanned : Scan α}
    (leads : Leads .outside input .outside middle)
    (measured : Measured inside limit nestingOf middle scanned) :
    Measured inside limit nestingOf input scanned := by
  match scanned with
  | .ok (value, rest) => exact ⟨measured.1, fun depth => (leads _).trans (measured.2 depth)⟩
  | .error .tooDeep => exact fun depth => (measured depth).trans_eq (leads _).symm
  | .error .malformed => trivial

theorem measured_scanNumber (limit : Nat) (negative : Bool) (input : WideText) :
    Measured 0 limit nesting input (scanNumber negative input) := by
  have leads := (leads_takeWholePart input).trans <|
    (leads_takeFraction (takeWholePart input).2).trans
      (leads_takeExponent (takeFraction (takeWholePart input).2).2)
  unfold scanNumber
  simp only
  split
  · trivial
  split
  · split
    · trivial
    · exact measured_of_leads leads rfl
  · exact measured_of_leads leads rfl

theorem measured_scanScalar (limit : Nat) (input : WideText) :
    Measured 0 limit nesting input (scanScalar input) := by
  unfold scanScalar
  split
  · next read => exact measured_of_leads (leads_literal? (by decide) read) rfl
  split
  · next read => exact measured_of_leads (leads_literal? (by decide) read) rfl
  split
  · next read => exact measured_of_leads (leads_literal? (by decide) read) rfl
  split
  · next read => exact measured_of_leads (leads_literal? (by decide) read) rfl
  split
  · next read => exact measured_of_leads (leads_literal? (by decide) read) rfl
  split
  · next read => exact measured_of_leads (leads_literal? (by decide) read) rfl
  split
  · exact (measured_scanNumber limit true _).of_leads (leads_cons (by decide) _)
  · exact measured_scanNumber limit false _

section Elements

variable {α : Type} {limit : Nat} {nestingOf : α → Nat} {input afterValue others rest : WideText}
  {value : Json}

/-- Where an element cannot be read, neither can the brackets around it. -/
theorem Measured.error {fault : ReadFault}
    (measured : Measured 0 limit nesting input (.error fault)) :
    Measured 1 limit nestingOf input (.error fault) := by
  cases fault with
  | malformed => trivial
  | tooDeep => exact fun depth => measured (depth + 1)

/-- The last element of a list or an object is measured with the closing bracket behind it. -/
theorem Measured.closed (measured : Measured 0 limit nesting input (.ok (value, afterValue)))
    {closing : Symbol} (isClose : closesBracket closing = true)
    (isNext : skipSpace afterValue = closing :: rest) {last : α}
    (nestingIs : nestingOf last = value.nesting) :
    Measured 1 limit nestingOf input (.ok (last, rest)) := by
  refine ⟨nestingIs.trans_le measured.1, fun depth => ?_⟩
  rw [nestingIs, ← Nat.add_zero (depth + 1), measured.2, leads_skipSpace, isNext,
    deepest_close isClose]
  omega

/-- Behind an element and a comma the text goes on as deep as before. -/
theorem Measured.deepest_behind_comma
    (measured : Measured 0 limit nesting input (.ok (value, afterValue)))
    (isNext : skipSpace afterValue = .char ',' :: others) (depth : Nat) :
    deepest .outside (depth + 1) input =
      max (depth + 1 + value.nesting) (deepest .outside (depth + 1) (skipSpace others)) := by
  rw [← Nat.add_zero (depth + 1), measured.2, leads_skipSpace, isNext, leads_cons (by decide),
    leads_skipSpace]

/-- An element is measured together with those behind it. -/
theorem Measured.added (measured : Measured 0 limit nesting input (.ok (value, afterValue)))
    (isNext : skipSpace afterValue = .char ',' :: others) {values all : α}
    (areMeasured : Measured 1 limit nestingOf (skipSpace others) (.ok (values, rest)))
    (nestingIs : nestingOf all = max value.nesting (nestingOf values)) :
    Measured 1 limit nestingOf input (.ok (all, rest)) := by
  refine ⟨nestingIs.trans_le (Nat.max_le.mpr ⟨measured.1, areMeasured.1⟩), fun depth => ?_⟩
  rw [measured.deepest_behind_comma isNext, areMeasured.2, nestingIs]
  omega

/-- Where the elements behind a comma cannot be read, neither can the brackets around them. -/
theorem Measured.error_behind_comma
    (measured : Measured 0 limit nesting input (.ok (value, afterValue)))
    (isNext : skipSpace afterValue = .char ',' :: others) {fault : ReadFault}
    (areMeasured : Measured 1 limit nestingOf (skipSpace others) (.error fault)) :
    Measured 1 limit nestingOf input (.error fault) := by
  cases fault with
  | malformed => trivial
  | tooDeep =>
    intro depth
    have isDeep := areMeasured depth
    rw [measured.deepest_behind_comma isNext]
    omega

end Elements

/-- A list is measured up to its closing bracket if its elements are. -/
theorem measured_scanItems {limit : Nat} {scan : WideText → Scan Json}
    (areMeasured : ∀ input, Measured 0 limit nesting input (scan input)) (fuel : Nat)
    (input : WideText) :
    Measured 1 limit itemsNesting input (scanItems scan fuel input) := by
  induction fuel generalizing input with
  | zero => trivial
  | succ fuel ih =>
    have isItem := areMeasured input
    rw [scanItems]
    split
    · next fault scanned =>
      rw [scanned] at isItem
      exact isItem.error
    next item afterItem scanned =>
    rw [scanned] at isItem
    split
    · next isNext => exact isItem.closed (by decide) isNext (Nat.max_zero _)
    · next others isNext =>
      have areOthers := ih (skipSpace others)
      split
      · next scanned =>
        rw [scanned] at areOthers
        exact isItem.error_behind_comma isNext areOthers
      · next scanned =>
        rw [scanned] at areOthers
        exact isItem.added isNext areOthers rfl
    · trivial

/-- An object is measured up to its closing bracket if the values of its entries are. -/
theorem measured_scanEntries {limit : Nat} {scan : WideText → Scan Json}
    (areMeasured : ∀ input, Measured 0 limit nesting input (scan input)) (fuel : Nat)
    (input : WideText) :
    Measured 1 limit entriesNesting input (scanEntries scan fuel input) := by
  induction fuel generalizing input with
  | zero => trivial
  | succ fuel ih =>
    rw [scanEntries]
    split
    · next fault scanned =>
      cases fault with
      | malformed => trivial
      | tooDeep => exact absurd scanned (scanName_ne_tooDeep input)
    next name afterName named =>
    -- A name is quoted, so an entry is as deep as the text behind its name.
    apply Measured.of_leads (leads_scanName named)
    have isValue := areMeasured afterName
    split
    · next fault scanned =>
      rw [scanned] at isValue
      exact isValue.error
    next value afterValue scanned =>
    rw [scanned] at isValue
    split
    · next isNext => exact isValue.closed (by decide) isNext (Nat.max_zero _)
    · next others isNext =>
      have areOthers := ih (skipSpace others)
      split
      · next scanned =>
        rw [scanned] at areOthers
        exact isValue.error_behind_comma isNext areOthers
      · next scanned =>
        rw [scanned] at areOthers
        exact isValue.added isNext areOthers rfl
    · trivial

/-- What stands in brackets is measured with the bracket in front of it. -/
theorem Measured.in_brackets {α : Type} {limit : Nat} {nestingOf : α → Nat}
    {opening : Symbol} (isOpen : opensBracket opening = true) {input rest : WideText} {values : α}
    (measured : Measured 1 limit nestingOf (skipSpace input) (.ok (values, rest))) {json : Json}
    (nestingIs : json.nesting = nestingOf values + 1) :
    Measured 0 (limit + 1) nesting (opening :: input) (.ok (json, rest)) := by
  refine ⟨nestingIs.trans_le (Nat.succ_le_succ measured.1), fun depth => ?_⟩
  rw [Nat.add_zero, deepest_open isOpen, leads_skipSpace, measured.2, nestingIs]
  omega

theorem Measured.error_in_brackets {α : Type} {limit : Nat} {nestingOf : α → Nat}
    {opening : Symbol} (isOpen : opensBracket opening = true) {input : WideText}
    {fault : ReadFault}
    (measured : Measured 1 limit nestingOf (skipSpace input) (.error fault)) :
    Measured 0 (limit + 1) nesting (opening :: input) (.error fault) := by
  cases fault with
  | malformed => trivial
  | tooDeep =>
    intro depth
    have isDeep := measured depth
    rw [Nat.add_zero, deepest_open isOpen, leads_skipSpace]
    omega

/-- Brackets with nothing in them are one deep. -/
theorem measured_empty {opening closing : Symbol} (isOpen : opensBracket opening = true)
    (isClose : closesBracket closing = true) {limit : Nat} {input rest : WideText}
    (isNext : skipSpace input = closing :: rest) {json : Json} (nestingIs : json.nesting = 1) :
    Measured 0 (limit + 1) nesting (opening :: input) (.ok (json, rest)) := by
  refine ⟨nestingIs.trans_le (Nat.le_add_left 1 limit), fun depth => ?_⟩
  rw [Nat.add_zero, deepest_open isOpen, leads_skipSpace, isNext, deepest_close isClose, nestingIs]

/-- A bracket beyond the limit is where the reader gives up. -/
theorem measured_tooDeep {opening : Symbol} (isOpen : opensBracket opening = true)
    (input : WideText) : Measured 0 0 nesting (opening :: input) (.error .tooDeep) := by
  intro depth
  rw [Nat.add_zero, deepest_open isOpen]
  exact le_deepest _ _ _

/-- Every scan of a value is measured: in a bracket the limit is one lower. -/
theorem measured_scanValue (limit : Nat) (input : WideText) :
    Measured 0 limit nesting input (scanValue limit input) := by
  -- Only a bracket scans further values, and it does so below the limit; the text is arbitrary.
  induction limit using Nat.strong_induction_on generalizing input with
  | _ limit below =>
  cases input with
  | nil =>
    rw [scanValue]
    trivial
  | cons symbol rest =>
    rw [scanValue.eq_def]
    simp only
    split
    · next isQuote =>
      have isOther := scanText_ne_tooDeep (rest.length + 1) rest
      split
      · next fault scanned =>
        cases fault with
        | malformed => trivial
        | tooDeep => exact absurd scanned isOther
      · next scanned =>
        exact measured_of_leads ((leads_quote isQuote rest).trans (leads_scanText scanned)) rfl
    split
    · next isBracket =>
      have isOpen : opensBracket symbol = true := by
        rw [isBracket]
        rfl
      cases limit with
      | zero => exact measured_tooDeep isOpen rest
      | succ limit =>
        simp only
        split
        · next isNext => exact measured_empty isOpen rfl isNext rfl
        have areItems := measured_scanItems (below limit (Nat.lt_succ_self limit))
          ((skipSpace rest).length + 1) (skipSpace rest)
        split
        · next scanned =>
          rw [scanned] at areItems
          exact areItems.error_in_brackets isOpen
        · next scanned =>
          rw [scanned] at areItems
          exact areItems.in_brackets isOpen rfl
    split
    · next isBrace =>
      have isOpen : opensBracket symbol = true := by
        rw [isBrace]
        rfl
      cases limit with
      | zero => exact measured_tooDeep isOpen rest
      | succ limit =>
        simp only
        split
        · next isNext => exact measured_empty isOpen rfl isNext rfl
        have areEntries := measured_scanEntries (below limit (Nat.lt_succ_self limit))
          ((skipSpace rest).length + 1) (skipSpace rest)
        split
        · next scanned =>
          rw [scanned] at areEntries
          exact areEntries.error_in_brackets isOpen
        · next scanned =>
          rw [scanned] at areEntries
          exact areEntries.in_brackets isOpen rfl
    exact measured_scanScalar limit (symbol :: rest)

/-! ## Lower limits -/

/-- Whether a scan gives what another one does, unless it gives up for depth. -/
def Follows {α : Type} (lower higher : Scan α) : Prop :=
  lower = .error .tooDeep ∨ lower = higher

/-- The elements of a list are read alike by scanners that read each of them alike. -/
theorem follows_scanItems {lower higher : WideText → Scan Json}
    (follows : ∀ input, Follows (lower input) (higher input)) (fuel : Nat) (input : WideText) :
    Follows (scanItems lower fuel input) (scanItems higher fuel input) := by
  induction fuel generalizing input with
  | zero => exact .inr rfl
  | succ fuel ih =>
    rw [scanItems, scanItems]
    rcases follows input with givesUp | same
    · rw [givesUp]
      exact .inl rfl
    rw [same]
    split
    · exact .inr rfl
    split
    · exact .inr rfl
    · next others _ =>
      rcases ih (skipSpace others) with givesUp | same
      · rw [givesUp]
        exact .inl rfl
      · rw [same]
        exact .inr rfl
    · exact .inr rfl

/-- The entries of an object are read alike by scanners that read each of their values alike. -/
theorem follows_scanEntries {lower higher : WideText → Scan Json}
    (follows : ∀ input, Follows (lower input) (higher input)) (fuel : Nat) (input : WideText) :
    Follows (scanEntries lower fuel input) (scanEntries higher fuel input) := by
  induction fuel generalizing input with
  | zero => exact .inr rfl
  | succ fuel ih =>
    rw [scanEntries, scanEntries]
    split
    · exact .inr rfl
    next name afterName _ =>
    rcases follows afterName with givesUp | same
    · rw [givesUp]
      exact .inl rfl
    rw [same]
    split
    · exact .inr rfl
    split
    · exact .inr rfl
    · next others _ =>
      rcases ih (skipSpace others) with givesUp | same
      · rw [givesUp]
        exact .inl rfl
      · rw [same]
        exact .inr rfl
    · exact .inr rfl

/-- With a lower limit a value is read in the same way, or the reader gives up for depth. -/
theorem follows_scanValue {lower higher : Nat} (isLower : lower ≤ higher) (input : WideText) :
    Follows (scanValue lower input) (scanValue higher input) := by
  induction lower using Nat.strong_induction_on generalizing higher input with
  | _ lower below =>
  cases input with
  | nil => exact .inr (by rw [scanValue, scanValue])
  | cons symbol rest =>
    rw [scanValue.eq_def, scanValue.eq_def higher]
    simp only
    split
    · exact .inr rfl
    split
    · cases lower with
      | zero => exact .inl rfl
      | succ lower =>
        obtain ⟨higher, rfl⟩ := Nat.exists_eq_succ_of_ne_zero (Nat.ne_zero_of_lt isLower)
        have follow := below lower (Nat.lt_succ_self lower) (Nat.le_of_succ_le_succ isLower)
        simp only
        split
        · exact .inr rfl
        rcases follows_scanItems follow ((skipSpace rest).length + 1) (skipSpace rest) with
          givesUp | same
        · rw [givesUp]
          exact .inl rfl
        · rw [same]
          exact .inr rfl
    split
    · cases lower with
      | zero => exact .inl rfl
      | succ lower =>
        obtain ⟨higher, rfl⟩ := Nat.exists_eq_succ_of_ne_zero (Nat.ne_zero_of_lt isLower)
        have follow := below lower (Nat.lt_succ_self lower) (Nat.le_of_succ_le_succ isLower)
        simp only
        split
        · exact .inr rfl
        rcases follows_scanEntries follow ((skipSpace rest).length + 1) (skipSpace rest) with
          givesUp | same
        · rw [givesUp]
          exact .inl rfl
        · rw [same]
          exact .inr rfl
    exact .inr rfl

/-! ## Texts -/

/-- Whether a text is one value with blanks around it, however deep its brackets are nested. -/
def IsWellFormed (text : WideText) : Prop :=
  ∃ limit json rest, scanValue limit (skipSpace text) = .ok (json, rest) ∧ skipSpace rest = []

/-- The brackets of a text that is one value are nested as deep as the value. -/
theorem bracketDepth_eq_nesting {limit : Nat} {text rest : WideText} {json : Json}
    (scanned : scanValue limit (skipSpace text) = .ok (json, rest))
    (isWhole : skipSpace rest = []) :
    json.nesting ≤ limit ∧ bracketDepth text = json.nesting := by
  have measured := measured_scanValue limit (skipSpace text)
  rw [scanned] at measured
  refine ⟨measured.1, ?_⟩
  have atEnd : deepest .outside 0 rest = 0 := by
    rw [leads_skipSpace, isWhole, deepest]
  rw [bracketDepth, leads_skipSpace, ← Nat.add_zero 0, measured.2, atEnd]
  omega

/-- The reader gives up for depth only where the brackets of a text are nested beyond the limit. -/
theorem lt_bracketDepth_of_tooDeep {limit : Nat} {text : WideText}
    (refused : parseWithin limit text = .error .tooDeep) : limit < bracketDepth text := by
  have measured := measured_scanValue limit (skipSpace text)
  unfold parseWithin at refused
  split at refused
  · next scanned =>
    cases refused
    rw [scanned] at measured
    have isDeep := measured 0
    rw [Nat.add_zero, Nat.zero_add] at isDeep
    rwa [bracketDepth, leads_skipSpace]
  · split at refused <;> cases refused

/-- A text that is one value is read, or its brackets are nested beyond the limit and the reader
gives up for that. -/
theorem parseWithin_of_isWellFormed (limit : Nat) {text : WideText}
    (isWellFormed : IsWellFormed text) :
    (bracketDepth text ≤ limit ∧ ∃ json, parseWithin limit text = .ok json) ∨
      (limit < bracketDepth text ∧ parseWithin limit text = .error .tooDeep) := by
  obtain ⟨other, json, rest, scanned, isWhole⟩ := isWellFormed
  have ofRead (isRead : scanValue limit (skipSpace text) = .ok (json, rest)) :
      bracketDepth text ≤ limit ∧ ∃ json, parseWithin limit text = .ok json := by
    refine ⟨(bracketDepth_eq_nesting isRead isWhole).2.trans_le
      (bracketDepth_eq_nesting isRead isWhole).1, json, ?_⟩
    simp [parseWithin, isRead, isWhole]
  rcases Nat.le_total other limit with isLower | isHigher
  · rcases follows_scanValue isLower (skipSpace text) with givesUp | same
    · cases scanned.symm.trans givesUp
    · exact .inl (ofRead (same.symm.trans scanned))
  · rcases follows_scanValue isHigher (skipSpace text) with givesUp | same
    · have refused : parseWithin limit text = .error .tooDeep := by
        rw [parseWithin, givesUp]
      exact .inr ⟨lt_bracketDepth_of_tooDeep refused, refused⟩
    · exact .inl (ofRead (same.trans scanned))

/-! ## Lists in lists -/

/-- An empty list inside as many lists as `count`, each the only element of the one around it. -/
def nestedList : (count : Nat) → Json
  | 0 => list []
  | count + 1 => list [nestedList count]

/-- The brackets of lists in lists. -/
def nestedBrackets : (count : Nat) → WideText
  | 0 => [.char '[', .char ']']
  | count + 1 => .char '[' :: nestedBrackets count ++ [.char ']']

theorem nesting_nestedList (count : Nat) : (nestedList count).nesting = count + 1 := by
  induction count with
  | zero => rfl
  | succ count ih => rw [nestedList, nesting, itemsNesting, itemsNesting, ih, Nat.max_zero]

theorem print_nestedList (count : Nat) : print (nestedList count) = .ok (nestedBrackets count) := by
  induction count with
  | zero => rfl
  | succ count ih =>
    simp only [nestedList, print, printItems, ih, joinCommas, nestedBrackets]

theorem isWellFormed_nestedBrackets (count : Nat) : IsWellFormed (nestedBrackets count) := by
  have printed := print_nestedList count
  have scanned := scanValue_print _ printed le_rfl endsNumeral_nil
  have unblanked := (startsValue_print printed).skipSpace_append []
  rw [List.append_nil] at scanned unblanked
  exact ⟨_, _, [], unblanked.symm ▸ scanned, rfl⟩

theorem bracketDepth_nestedBrackets (count : Nat) :
    bracketDepth (nestedBrackets count) = count + 1 := by
  have printed := print_nestedList count
  have scanned := scanValue_print _ printed le_rfl endsNumeral_nil
  have unblanked := (startsValue_print printed).skipSpace_append []
  rw [List.append_nil] at scanned unblanked
  rw [← unblanked] at scanned
  exact (bracketDepth_eq_nesting scanned rfl).2.trans (nesting_nestedList count)

end Json
end SealedGateway
