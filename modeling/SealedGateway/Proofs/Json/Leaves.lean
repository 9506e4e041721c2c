import Mathlib.Data.List.Induction
import SealedGateway.Proofs.Json.RoundTrip
import SealedGateway.Proofs.Text.Wide

/-!
# The leaves of a value

Whether a value has a printed form, and whether that form holds lone surrogates, shows in its
leaves: its names, texts and numbers.  The reader bounds the leaves it makes, so whatever it has
read can be printed.
-/

namespace SealedGateway

attribute [local instance (2000)] instPowNat

namespace Numeral

/-- Whether a whole number has no more digits than may be written. -/
def IsShort (value : Int) : Prop :=
  (Nat.toDigits 10 value.natAbs).length ≤ digitLimit

instance (value : Int) : Decidable (IsShort value) :=
  inferInstanceAs (Decidable (_ ≤ _))

theorem isShort_iff {value : Int} : IsShort value ↔ value.natAbs < 10 ^ digitLimit :=
  Nat.length_toDigits_le_iff (by decide) (by decide)

theorem ofDigits_lt {digits : List Char}
    (areDigits : ∀ char ∈ digits, Text.isAsciiDigit char = true) :
    ofDigits digits < 10 ^ digits.length := by
  induction digits using List.reverseRecOn with
  | nil => decide
  | append_singleton others last ih =>
    have isDigit := isAsciiDigit_iff.mp (areDigits last (by simp))
    have isBelow := ih fun char isMember => areDigits char (List.mem_append_left _ isMember)
    rw [ofDigits_append, List.length_append, List.length_singleton, Nat.pow_succ]
    show 10 * ofDigits others + (last.toNat - 48) < _
    omega

theorem natAbs_withSign (negative : Bool) (value : Nat) :
    (withSign negative value).natAbs = value := by
  unfold withSign
  split <;> omega

/-- A number with no more digits than the limit is short, whatever its sign. -/
theorem isShort_withSign (negative : Bool) {digits : List Char}
    (areDigits : ∀ char ∈ digits, Text.isAsciiDigit char = true)
    (isWithin : digits.length ≤ digitLimit) : IsShort (withSign negative (ofDigits digits)) := by
  rw [isShort_iff, natAbs_withSign]
  exact (ofDigits_lt areDigits).trans_le (Nat.pow_le_pow_right (by decide) isWithin)

end Numeral

namespace Json

mutual

/-- The scalars in a value, the names of its entries among them. -/
def leaves : Json → List Json
  | list items => itemsLeaves items
  | object entries => entriesLeaves entries
  | scalar => [scalar]

/-- The scalars in the elements of a list. -/
def itemsLeaves : List Json → List Json
  | [] => []
  | item :: rest => leaves item ++ itemsLeaves rest

/-- The scalars in the entries of an object. -/
def entriesLeaves : List (WideText × Json) → List Json
  | [] => []
  | (name, value) :: rest => text name :: (leaves value ++ entriesLeaves rest)

end

theorem entriesLeaves_cons (name : WideText) (value : Json) (rest : List (WideText × Json)) :
    entriesLeaves ((name, value) :: rest) = [text name] ++ (leaves value ++ entriesLeaves rest) :=
  rfl

/-- Whether the whole numbers among some scalars can be written. -/
def AreShort (scalars : List Json) : Prop :=
  ∀ value, whole value ∈ scalars → Numeral.IsShort value

theorem areShort_iff {scalars : List Json} :
    AreShort scalars ↔
      ∀ leaf ∈ scalars, ∀ value, leaf = whole value → Numeral.IsShort value :=
  ⟨fun areShort _ isMember value same => areShort value (same ▸ isMember),
    fun areShort value isMember => areShort _ isMember value rfl⟩

theorem areShort_nil : AreShort [] := nofun

theorem areShort_append {left right : List Json} :
    AreShort (left ++ right) ↔ AreShort left ∧ AreShort right := by
  simp only [AreShort, List.mem_append, or_imp, forall_and]

/-! ## Printing -/

mutual

/-- A value is printed if its whole numbers can be written. -/
theorem exists_print (json : Json) (areShort : AreShort json.leaves) :
    ∃ text, print json = .ok text := by
  match json with
  | null => exact ⟨_, rfl⟩
  | flag value => exact ⟨_, rfl⟩
  | whole value =>
    have isShort := areShort value List.mem_cons_self
    rw [print, printWhole]
    exact ⟨_, if_neg (Nat.not_lt.mpr isShort)⟩
  | real value => exact ⟨_, rfl⟩
  | .text value => exact ⟨_, rfl⟩
  | list items =>
    obtain ⟨parts, printed⟩ := exists_printItems items areShort
    rw [print, printed]
    exact ⟨_, rfl⟩
  | object entries =>
    obtain ⟨parts, printed⟩ := exists_printEntries entries areShort
    rw [print, printed]
    exact ⟨_, rfl⟩

theorem exists_printItems (items : List Json) (areShort : AreShort (itemsLeaves items)) :
    ∃ parts, printItems items = .ok parts := by
  match items with
  | [] => exact ⟨_, rfl⟩
  | item :: rest =>
    rw [itemsLeaves, areShort_append] at areShort
    obtain ⟨part, isPart⟩ := exists_print item areShort.1
    obtain ⟨parts, areParts⟩ := exists_printItems rest areShort.2
    rw [printItems, isPart, areParts]
    exact ⟨_, rfl⟩

theorem exists_printEntries (entries : List (WideText × Json))
    (areShort : AreShort (entriesLeaves entries)) :
    ∃ parts, printEntries entries = .ok parts := by
  match entries with
  | [] => exact ⟨_, rfl⟩
  | (name, value) :: rest =>
    rw [entriesLeaves_cons, areShort_append, areShort_append] at areShort
    obtain ⟨part, isPart⟩ := exists_print value areShort.2.1
    obtain ⟨parts, areParts⟩ := exists_printEntries rest areShort.2.2
    rw [printEntries, isPart, areParts]
    exact ⟨_, rfl⟩

end

/-- Whether a lone surrogate stands in one of the texts among some scalars. -/
def HoldSurrogate (offset : Fin 0x800) (scalars : List Json) : Prop :=
  ∃ value, text value ∈ scalars ∧ Symbol.surrogate offset ∈ value

theorem holdSurrogate_append {offset : Fin 0x800} {left right : List Json} :
    HoldSurrogate offset (left ++ right) ↔
      HoldSurrogate offset left ∨ HoldSurrogate offset right := by
  simp only [HoldSurrogate, List.mem_append, or_and_right, exists_or]

theorem not_holdSurrogate_of_scalar {offset : Fin 0x800} {scalar : Json}
    (isNoText : ∀ value, scalar ≠ text value) : ¬ HoldSurrogate offset [scalar] := by
  rintro ⟨value, isMember, -⟩
  exact isNoText value (List.mem_singleton.mp isMember).symm

theorem holdSurrogate_text {offset : Fin 0x800} {value : WideText} :
    HoldSurrogate offset [text value] ↔ Symbol.surrogate offset ∈ value := by
  constructor
  · rintro ⟨other, isMember, holds⟩
    cases List.mem_singleton.mp isMember
    exact holds
  · exact fun holds => ⟨value, List.mem_cons_self, holds⟩

theorem surrogate_mem_printSymbol {offset : Fin 0x800} {symbol : Symbol} :
    Symbol.surrogate offset ∈ printSymbol symbol ↔ symbol = .surrogate offset := by
  have isNoChar (chars : List Char) : Symbol.surrogate offset ∉ WideText.ofChars chars :=
    WideText.isPlain_ofChars chars offset
  cases symbol with
  | surrogate other =>
    have isPlain : printSymbol (.surrogate other) = [.surrogate other] := by
      have isHigh : 0xD800 ≤ (Symbol.surrogate other).code := Nat.le_add_right _ _
      unfold printSymbol
      simp only
      repeat rw [if_neg (by omega)]
    rw [isPlain, List.mem_singleton]
    exact ⟨Eq.symm, Eq.symm⟩
  | char char =>
    refine ⟨fun isMember => ?_, nofun⟩
    exfalso
    revert isMember
    unfold printSymbol
    simp only
    repeat' split
    all_goals first | exact isNoChar _ | exact isNoChar [char]

theorem surrogate_mem_printText {offset : Fin 0x800} {value : WideText} :
    Symbol.surrogate offset ∈ printText value ↔ Symbol.surrogate offset ∈ value := by
  have isNoQuote : Symbol.surrogate offset ≠ quoteSymbol := nofun
  simp only [printText, List.cons_append, List.mem_cons, isNoQuote, false_or, List.mem_append,
    List.not_mem_nil, or_false, List.mem_flatMap, surrogate_mem_printSymbol]
  exact ⟨fun ⟨_, isMember, same⟩ => same ▸ isMember, fun isMember => ⟨_, isMember, rfl⟩⟩

theorem surrogate_mem_joinCommas {offset : Fin 0x800} {parts : List WideText} :
    Symbol.surrogate offset ∈ joinCommas parts ↔
      ∃ part ∈ parts, Symbol.surrogate offset ∈ part := by
  fun_induction joinCommas parts with
  | case1 => simp
  | case2 last => simp
  | case3 first rest isMore ih => simp [ih]

theorem not_surrogate_mem_ofChars {offset : Fin 0x800} {chars : List Char} {scalar : Json}
    (isNoText : ∀ value, scalar ≠ text value) :
    Symbol.surrogate offset ∈ WideText.ofChars chars ↔ HoldSurrogate offset [scalar] :=
  iff_of_false (WideText.isPlain_ofChars chars offset) (not_holdSurrogate_of_scalar isNoText)

mutual

/-- A lone surrogate is printed exactly where a text or a name of a value holds it. -/
theorem surrogate_mem_print (json : Json) {text : WideText} (printed : print json = .ok text)
    (offset : Fin 0x800) :
    Symbol.surrogate offset ∈ text ↔ HoldSurrogate offset json.leaves := by
  match json with
  | null =>
    cases printed
    exact not_surrogate_mem_ofChars nofun
  | flag value =>
    cases printed
    exact not_surrogate_mem_ofChars nofun
  | whole value =>
    rw [print, printWhole] at printed
    split at printed
    · cases printed
    · cases printed
      exact not_surrogate_mem_ofChars nofun
  | real value =>
    cases printed
    exact not_surrogate_mem_ofChars nofun
  | .text value =>
    cases printed
    exact surrogate_mem_printText.trans holdSurrogate_text.symm
  | list items =>
    rw [print] at printed
    split at printed
    · next parts arePrinted =>
      cases printed
      rw [leaves, ← surrogate_mem_printItems items arePrinted offset, ← surrogate_mem_joinCommas]
      simp
    · cases printed
  | object entries =>
    rw [print] at printed
    split at printed
    · next parts arePrinted =>
      cases printed
      rw [leaves, ← surrogate_mem_printEntries entries arePrinted offset,
        ← surrogate_mem_joinCommas]
      simp
    · cases printed

theorem surrogate_mem_printItems (items : List Json) {parts : List WideText}
    (printed : printItems items = .ok parts) (offset : Fin 0x800) :
    (∃ part ∈ parts, Symbol.surrogate offset ∈ part) ↔
      HoldSurrogate offset (itemsLeaves items) := by
  match items with
  | [] =>
    cases printed
    exact iff_of_false (by simp) (fun ⟨_, isMember, _⟩ => absurd isMember List.not_mem_nil)
  | item :: rest =>
    obtain ⟨part, others, rfl, isPart, areOthers⟩ := printItems_cons printed
    rw [itemsLeaves, holdSurrogate_append, ← surrogate_mem_print item isPart offset,
      ← surrogate_mem_printItems rest areOthers offset]
    simp

theorem surrogate_mem_printEntries (entries : List (WideText × Json)) {parts : List WideText}
    (printed : printEntries entries = .ok parts) (offset : Fin 0x800) :
    (∃ part ∈ parts, Symbol.surrogate offset ∈ part) ↔
      HoldSurrogate offset (entriesLeaves entries) := by
  match entries with
  | [] =>
    cases printed
    exact iff_of_false (by simp) (fun ⟨_, isMember, _⟩ => absurd isMember List.not_mem_nil)
  | (name, value) :: rest =>
    obtain ⟨part, others, rfl, isPart, areOthers⟩ := printEntries_cons printed
    rw [entriesLeaves_cons, holdSurrogate_append, holdSurrogate_append, holdSurrogate_text,
      ← surrogate_mem_print value isPart offset,
      ← surrogate_mem_printEntries rest areOthers offset]
    simp [surrogate_mem_printText, or_assoc]

end

/-- A printed value is plain exactly when all its texts and names are. -/
theorem isPlain_print_iff {json : Json} {text : WideText} (printed : print json = .ok text) :
    text.IsPlain ↔ ∀ value, Json.text value ∈ json.leaves → value.IsPlain := by
  simp only [WideText.IsPlain, surrogate_mem_print json printed, HoldSurrogate, not_exists, not_and]
  exact ⟨fun isPlain value isLeaf offset => isPlain offset value isLeaf,
    fun arePlain offset value isLeaf => arePlain value isLeaf offset⟩

/-! ## Reading -/

theorem areDigits_takeDigits (input : WideText) :
    ∀ char ∈ (takeDigits input).1, Text.isAsciiDigit char = true := by
  fun_induction takeDigits input with
  | case1 digit rest isDigit digits remaining taken ih =>
    rintro char (_ | ⟨_, isMember⟩)
    · exact isDigit
    · rw [taken] at ih
      exact ih char isMember
  | case2 => nofun
  | case3 => nofun

theorem areDigits_takeWholePart (input : WideText) :
    ∀ char ∈ (takeWholePart input).1, Text.isAsciiDigit char = true := by
  unfold takeWholePart
  split
  · exact List.forall_mem_singleton.mpr rfl
  · exact areDigits_takeDigits input

theorem areShort_of_scalar {scalar : Json} (isNoWhole : ∀ value, scalar ≠ whole value) :
    AreShort [scalar] := by
  intro value isMember
  exact absurd (List.mem_singleton.mp isMember).symm (isNoWhole value)

theorem areShort_text (value : WideText) : AreShort (text value).leaves :=
  areShort_of_scalar nofun

/-- A number that is read can be written. -/
theorem areShort_scanNumber {negative : Bool} {input rest : WideText} {json : Json}
    (scanned : scanNumber negative input = .ok (json, rest)) : AreShort json.leaves := by
  unfold scanNumber at scanned
  simp only at scanned
  split at scanned
  · cases scanned
  split at scanned
  · split at scanned
    · cases scanned
    · next isWithin =>
      cases scanned
      intro value isMember
      cases List.mem_singleton.mp isMember
      exact Numeral.isShort_withSign negative (areDigits_takeWholePart input)
        (Nat.not_lt.mp isWithin)
  · cases scanned
    exact areShort_of_scalar nofun

theorem areShort_scanScalar {input rest : WideText} {json : Json}
    (scanned : scanScalar input = .ok (json, rest)) : AreShort json.leaves := by
  unfold scanScalar at scanned
  repeat' split at scanned
  all_goals first
    | exact areShort_scanNumber scanned
    | (cases scanned; exact areShort_of_scalar nofun)

/-- The elements of a list can be written if those that its scanner reads can. -/
theorem areShort_scanItems {scan : WideText → Scan Json}
    (areShort : ∀ {input rest json}, scan input = .ok (json, rest) → AreShort json.leaves)
    {fuel : Nat} {input rest : WideText} {items : List Json}
    (scanned : scanItems scan fuel input = .ok (items, rest)) : AreShort (itemsLeaves items) := by
  induction fuel generalizing input items with
  | zero => cases scanned
  | succ fuel ih =>
    rw [scanItems] at scanned
    split at scanned
    · cases scanned
    next item afterItem itemScanned =>
    split at scanned
    · cases scanned
      rw [itemsLeaves, areShort_append]
      exact ⟨areShort itemScanned, areShort_nil⟩
    · split at scanned
      · cases scanned
      · next items remaining itemsScanned =>
        cases scanned
        rw [itemsLeaves, areShort_append]
        exact ⟨areShort itemScanned, ih itemsScanned⟩
    · cases scanned

/-- The entries of an object can be written if those values that its scanner reads can. -/
theorem areShort_scanEntries {scan : WideText → Scan Json}
    (areShort : ∀ {input rest json}, scan input = .ok (json, rest) → AreShort json.leaves)
    {fuel : Nat} {input rest : WideText} {entries : List (WideText × Json)}
    (scanned : scanEntries scan fuel input = .ok (entries, rest)) :
    AreShort (entriesLeaves entries) := by
  have behindName {name : WideText} {value : Json} {others : List (WideText × Json)}
      (isValueShort : AreShort value.leaves) (areOthersShort : AreShort (entriesLeaves others)) :
      AreShort (entriesLeaves ((name, value) :: others)) := by
    rw [entriesLeaves_cons, areShort_append, areShort_append]
    exact ⟨areShort_text name, isValueShort, areOthersShort⟩
  induction fuel generalizing input entries with
  | zero => cases scanned
  | succ fuel ih =>
    rw [scanEntries] at scanned
    split at scanned
    · cases scanned
    split at scanned
    · cases scanned
    next value afterValue valueScanned =>
    split at scanned
    · cases scanned
      exact behindName (areShort valueScanned) areShort_nil
    · split at scanned
      · cases scanned
      · next entries remaining entriesScanned =>
        cases scanned
        exact behindName (areShort valueScanned) (ih entriesScanned)
    · cases scanned

/-- Whatever is read can be written. -/
theorem areShort_scanValue {depth : Nat} {input rest : WideText} {json : Json}
    (scanned : scanValue depth input = .ok (json, rest)) : AreShort json.leaves := by
  induction depth generalizing input rest json with
  | zero =>
    unfold scanValue at scanned
    split at scanned
    · cases scanned
    split at scanned
    · split at scanned
      · cases scanned
      · cases scanned
        exact areShort_text _
    split at scanned
    · cases scanned
    split at scanned
    · cases scanned
    exact areShort_scanScalar scanned
  | succ depth ih =>
    unfold scanValue at scanned
    split at scanned
    · cases scanned
    split at scanned
    · split at scanned
      · cases scanned
      · cases scanned
        exact areShort_text _
    split at scanned
    · simp only at scanned
      split at scanned
      · cases scanned
        exact areShort_nil
      split at scanned
      · cases scanned
      · next items remaining itemsScanned =>
        cases scanned
        exact areShort_scanItems ih itemsScanned
    split at scanned
    · simp only at scanned
      split at scanned
      · cases scanned
        exact areShort_nil
      split at scanned
      · cases scanned
      · next entries remaining entriesScanned =>
        cases scanned
        exact areShort_scanEntries ih entriesScanned
    exact areShort_scanScalar scanned

theorem areShort_parseWithin {limit : Nat} {input : WideText} {json : Json}
    (parsed : parseWithin limit input = .ok json) : AreShort json.leaves := by
  unfold parseWithin at parsed
  split at parsed
  · cases parsed
  · next scanned =>
    split at parsed
    · cases parsed
      exact areShort_scanValue scanned
    · cases parsed

end Json
end SealedGateway
