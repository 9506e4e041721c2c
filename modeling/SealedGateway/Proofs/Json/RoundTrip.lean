import Mathlib.Data.List.Forall2
import SealedGateway.Proofs.Json.Quoted
import SealedGateway.Proofs.Json.Scalars

/-!
# Reading printed values

The reader takes back every value that is printed, with anything behind it that ends a numeral.  The
brackets around a value are the only limit: a value nested no deeper than the reader goes is read
back whole.
-/

namespace SealedGateway
namespace Json

mutual

/-- How deep brackets are nested in a value. -/
def nesting : Json → Nat
  | list items => itemsNesting items + 1
  | object entries => entriesNesting entries + 1
  | _ => 0

/-- How deep brackets are nested in the elements of a list. -/
def itemsNesting : List Json → Nat
  | [] => 0
  | item :: rest => max (nesting item) (itemsNesting rest)

/-- How deep brackets are nested in the entries of an object. -/
def entriesNesting : List (WideText × Json) → Nat
  | [] => 0
  | (_, value) :: rest => max (nesting value) (entriesNesting rest)

end

/-! ## Lists and objects -/

/-- Whether a text begins with something other than a blank or a closing bracket. -/
def StartsValue (text : WideText) : Prop :=
  ∃ head others, text = head :: others ∧ isSpace head = false ∧ head ≠ .char ']'

theorem StartsValue.skipSpace_append {text : WideText} (starts : StartsValue text)
    (rest : WideText) : skipSpace (text ++ rest) = text ++ rest := by
  obtain ⟨head, others, rfl, isNoSpace, -⟩ := starts
  exact List.dropWhile_cons_of_neg (by simp [isNoSpace])

theorem skipSpace_cons (char : Char) (isNoSpace : isSpace (.char char) = false)
    (rest : WideText) : skipSpace (.char char :: rest) = .char char :: rest :=
  List.dropWhile_cons_of_neg (by simp [isNoSpace])

theorem startsValue_signed (negative : Bool) {digits : List Char}
    (startsWithDigit : ∃ first others, digits = first :: others ∧
      Text.isAsciiDigit first = true) :
    StartsValue (WideText.ofChars (signChars negative ++ digits)) := by
  obtain ⟨first, others, rfl, isDigit⟩ := startsWithDigit
  cases negative with
  | true => exact ⟨_, _, rfl, by decide, by decide⟩
  | false =>
    refine ⟨_, _, rfl, ?_, ?_⟩
    · simp only [isSpace, Bool.or_eq_false_iff, decide_eq_false_iff_not]
      refine ⟨⟨⟨?_, ?_⟩, ?_⟩, ?_⟩ <;> rintro ⟨⟩ <;> cases isDigit
    · rintro ⟨⟩
      cases isDigit

theorem startsValue_print {json : Json} {text : WideText} (printed : print json = .ok text) :
    StartsValue text := by
  cases json with
  | null =>
    cases printed
    exact ⟨_, _, rfl, by decide, by decide⟩
  | flag value =>
    cases printed
    cases value <;> exact ⟨_, _, rfl, by decide, by decide⟩
  | whole value =>
    rw [print, printWhole] at printed
    split at printed
    · cases printed
    · cases printed
      have starts := exists_digit_of_isRun (Numeral.isRun_toDigits value.natAbs) []
      rw [List.append_nil] at starts
      have isStart := startsValue_signed (decide (value < 0)) starts
      simpa [signChars] using isStart
  | real value =>
    cases printed
    cases value with
    | nan => exact ⟨_, _, rfl, by decide, by decide⟩
    | infinity negative => cases negative <;> exact ⟨_, _, rfl, by decide, by decide⟩
    | finite negative magnitude =>
      obtain ⟨parts, isReal, textIs, -⟩ :=
        Decimal.exists_parts_of_print Decimal.descriptorLayout negative magnitude
      rw [textIs]
      exact startsValue_signed negative (exists_digit_of_isRun isReal.whole _)
  | text value =>
    cases printed
    exact ⟨_, _, rfl, by decide, by decide⟩
  | list items =>
    rw [print] at printed
    split at printed
    · cases printed
      exact ⟨_, _, rfl, by decide, by decide⟩
    · cases printed
  | object entries =>
    rw [print] at printed
    split at printed
    · cases printed
      exact ⟨_, _, rfl, by decide, by decide⟩
    · cases printed

/-- The printed elements of a longer list are those of its parts. -/
theorem printItems_cons {item : Json} {rest : List Json} {parts : List WideText}
    (printed : printItems (item :: rest) = .ok parts) :
    ∃ part others, parts = part :: others ∧ print item = .ok part ∧
      printItems rest = .ok others := by
  rw [printItems] at printed
  split at printed
  · next part others isPart areOthers =>
    cases printed
    exact ⟨part, others, rfl, isPart, areOthers⟩
  · cases printed
  · cases printed

/-- The printed entries of a longer object are those of its parts. -/
theorem printEntries_cons {name : WideText} {value : Json} {rest : List (WideText × Json)}
    {parts : List WideText} (printed : printEntries ((name, value) :: rest) = .ok parts) :
    ∃ part others, parts = (printText name ++ .char ':' :: part) :: others ∧
      print value = .ok part ∧ printEntries rest = .ok others := by
  rw [printEntries] at printed
  split at printed
  · next part others isPart areOthers =>
    cases printed
    exact ⟨part, others, rfl, isPart, areOthers⟩
  · cases printed
  · cases printed

/-- Every part but the last has a comma behind it. -/
theorem length_le_length_joinCommas (parts : List WideText) :
    parts.length ≤ (joinCommas parts).length + 1 := by
  match parts with
  | [] => exact Nat.zero_le _
  | [_] => exact Nat.le_add_left 1 _
  | first :: second :: others =>
    have atLeast := length_le_length_joinCommas (second :: others)
    have lengthIs : (joinCommas (first :: second :: others)).length =
        first.length + ((joinCommas (second :: others)).length + 1) :=
      List.length_append
    rw [lengthIs, List.length_cons]
    omega

/-- The name of an entry is read back with its colon. -/
theorem scanName_printText (name : WideText) {text : WideText} (starts : StartsValue text)
    (rest : WideText) :
    scanName (printText name ++ .char ':' :: (text ++ rest)) = .ok (name, text ++ rest) := by
  have scanned := scanText_behind_quote name (.char ':' :: (text ++ rest))
  rw [printText, List.cons_append, List.cons_append, List.append_assoc, List.singleton_append,
    scanName, if_pos (by decide), scanned]
  simp only [skipSpace_cons ':' (by decide), starts.skipSpace_append]

/-- A list of parts begins as its first part does. -/
theorem exists_joinCommas_cons (part : WideText) (others : List WideText) :
    ∃ remaining, joinCommas (part :: others) = part ++ remaining := by
  cases others with
  | nil => exact ⟨[], (List.append_nil part).symm⟩
  | cons second others => exact ⟨.char ',' :: joinCommas (second :: others), rfl⟩

theorem StartsValue.append {text : WideText} (starts : StartsValue text) (rest : WideText) :
    StartsValue (text ++ rest) := by
  obtain ⟨head, others, rfl, isHead⟩ := starts
  exact ⟨head, others ++ rest, rfl, isHead⟩

theorem startsValue_joinCommas {part : WideText} (starts : StartsValue part)
    (others : List WideText) : StartsValue (joinCommas (part :: others)) := by
  obtain ⟨remaining, joinedIs⟩ := exists_joinCommas_cons part others
  rw [joinedIs]
  exact starts.append remaining

theorem endsNumeral_comma (rest : WideText) : EndsNumeral (.char ',' :: rest) :=
  endsNumeral_cons rest (by decide)

theorem endsNumeral_bracket (rest : WideText) : EndsNumeral (.char ']' :: rest) :=
  endsNumeral_cons rest (by decide)

theorem endsNumeral_brace (rest : WideText) : EndsNumeral (.char '\x7d' :: rest) :=
  endsNumeral_cons rest (by decide)

/-- Whether a scanner reads a value from a text, with anything behind it that ends a numeral. -/
def Reads (scan : WideText → Scan Json) (text : WideText) (value : Json) : Prop :=
  StartsValue text ∧ ∀ rest, EndsNumeral rest → scan (text ++ rest) = .ok (value, rest)

/-- Whether a scanner reads the value of an entry from its text. -/
def ReadsEntry (scan : WideText → Scan Json) (part : WideText) (entry : WideText × Json) : Prop :=
  ∃ text, part = printText entry.1 ++ .char ':' :: text ∧ Reads scan text entry.2

theorem ReadsEntry.startsValue {scan : WideText → Scan Json} {part : WideText}
    {entry : WideText × Json} (reads : ReadsEntry scan part entry) : StartsValue part := by
  obtain ⟨text, rfl, -⟩ := reads
  exact ⟨_, _, rfl, by decide, by decide⟩

/-- The elements of a list are read up to the closing bracket if each of them is read. -/
theorem scanItems_joinCommas {scan : WideText → Scan Json} {parts : List WideText}
    {items : List Json} (areRead : List.Forall₂ (Reads scan) parts items)
    (isNonempty : items ≠ []) {fuel : Nat} (isEnough : items.length ≤ fuel) (rest : WideText) :
    scanItems scan fuel (joinCommas parts ++ .char ']' :: rest) = .ok (items, rest) := by
  induction areRead generalizing fuel with
  | nil => exact absurd rfl isNonempty
  | @cons part item parts items reads others ih =>
    cases fuel with
    | zero => exact absurd isEnough (Nat.not_succ_le_zero _)
    | succ fuel =>
      cases others with
      | nil =>
        rw [joinCommas, scanItems, reads.2 _ (endsNumeral_bracket rest)]
        rfl
      | @cons next _ remaining _ nextReads _ =>
        have scanned := ih (List.cons_ne_nil _ _) (Nat.le_of_succ_le_succ isEnough)
        rw [joinCommas.eq_3 _ _ (List.cons_ne_nil _ _), List.append_assoc, List.cons_append,
          scanItems, reads.2 _ (endsNumeral_comma _)]
        simp only [skipSpace_cons ',' (by decide),
          (startsValue_joinCommas nextReads.1 remaining).skipSpace_append, scanned]

/-- The entries of an object are read up to the closing bracket if each of them is read. -/
theorem scanEntries_joinCommas {scan : WideText → Scan Json} {parts : List WideText}
    {entries : List (WideText × Json)} (areRead : List.Forall₂ (ReadsEntry scan) parts entries)
    (isNonempty : entries ≠ []) {fuel : Nat} (isEnough : entries.length ≤ fuel)
    (rest : WideText) :
    scanEntries scan fuel (joinCommas parts ++ .char '\x7d' :: rest) = .ok (entries, rest) := by
  induction areRead generalizing fuel with
  | nil => exact absurd rfl isNonempty
  | @cons part entry parts entries reads others ih =>
    obtain ⟨text, rfl, starts, readsText⟩ := reads
    cases fuel with
    | zero => exact absurd isEnough (Nat.not_succ_le_zero _)
    | succ fuel =>
      cases others with
      | nil =>
        rw [joinCommas, List.append_assoc, List.cons_append, scanEntries,
          scanName_printText entry.1 starts]
        simp only [readsText _ (endsNumeral_brace rest)]
        rfl
      | @cons next _ remaining _ nextReads _ =>
        have scanned := ih (List.cons_ne_nil _ _) (Nat.le_of_succ_le_succ isEnough)
        rw [joinCommas.eq_3 _ _ (List.cons_ne_nil _ _), List.append_assoc, List.append_assoc,
          List.cons_append, List.cons_append, scanEntries, scanName_printText entry.1 starts]
        simp only [readsText _ (endsNumeral_comma _), skipSpace_cons ',' (by decide),
          (startsValue_joinCommas nextReads.startsValue remaining).skipSpace_append, scanned]

theorem length_joinCommas_append_le {α : Type} {reads : WideText → α → Prop}
    {parts : List WideText} {values : List α} (areRead : List.Forall₂ reads parts values)
    (rest : WideText) : values.length ≤ (joinCommas parts ++ rest).length + 1 := by
  have atLeast := length_le_length_joinCommas parts
  rw [List.length_append, ← areRead.length_eq]
  omega

/-- A list in brackets is read if its elements are. -/
theorem scanValue_list {depth : Nat} {parts : List WideText} {items : List Json}
    (areRead : List.Forall₂ (Reads (scanValue depth)) parts items) (rest : WideText) :
    scanValue (depth + 1) (.char '[' :: joinCommas parts ++ [.char ']'] ++ rest) =
      .ok (.list items, rest) := by
  have behind : joinCommas parts ++ [.char ']'] ++ rest =
      joinCommas parts ++ .char ']' :: rest := List.append_assoc _ _ _
  rw [List.cons_append, List.cons_append, behind, scanValue, if_neg (by decide), if_pos rfl]
  rcases areRead with - | @⟨part, item, others, items, reads, areOthersRead⟩
  · rfl
  · have starts := startsValue_joinCommas reads.1 others
    have isEnough := length_joinCommas_append_le (.cons reads areOthersRead) (.char ']' :: rest)
    have scanned := scanItems_joinCommas (.cons reads areOthersRead) (List.cons_ne_nil _ _)
      isEnough rest
    rw [starts.skipSpace_append]
    obtain ⟨head, remaining, joinedIs, -, isNoBracket⟩ := starts
    rw [joinedIs] at scanned ⊢
    split
    · next sameText => exact absurd (List.cons.inj sameText).1 isNoBracket
    · rw [scanned]

/-- An object in braces is read if its entries are. -/
theorem scanValue_object {depth : Nat} {parts : List WideText}
    {entries : List (WideText × Json)}
    (areRead : List.Forall₂ (ReadsEntry (scanValue depth)) parts entries) (rest : WideText) :
    scanValue (depth + 1) (.char '\x7b' :: joinCommas parts ++ [.char '\x7d'] ++ rest) =
      .ok (.object entries, rest) := by
  have behind : joinCommas parts ++ [.char '\x7d'] ++ rest =
      joinCommas parts ++ .char '\x7d' :: rest := List.append_assoc _ _ _
  rw [List.cons_append, List.cons_append, behind, scanValue, if_neg (by decide),
    if_neg (by decide), if_pos rfl]
  rcases areRead with - | @⟨part, entry, others, entries, reads, areOthersRead⟩
  · rfl
  · have starts := startsValue_joinCommas reads.startsValue others
    have isEnough := length_joinCommas_append_le (.cons reads areOthersRead)
      (.char '\x7d' :: rest)
    have scanned := scanEntries_joinCommas (.cons reads areOthersRead) (List.cons_ne_nil _ _)
      isEnough rest
    rw [starts.skipSpace_append]
    -- An entry begins with the quote of its name.
    obtain ⟨text, rfl, -⟩ := reads
    obtain ⟨remaining, joinedIs⟩ :=
      exists_joinCommas_cons (printText entry.1 ++ .char ':' :: text) others
    rw [joinedIs] at scanned ⊢
    split
    · next sameText => exact absurd (List.cons.inj sameText).1 (by decide)
    · rw [scanned]

/-! ## Values -/

mutual

/-- A printed value is read back, whatever stands behind it that ends a numeral. -/
theorem scanValue_print (json : Json) {text : WideText} (printed : print json = .ok text)
    {depth : Nat} (isShallow : json.nesting ≤ depth) {rest : WideText}
    (ends : EndsNumeral rest) : scanValue depth (text ++ rest) = .ok (json, rest) := by
  match json with
  | null =>
    cases printed
    exact (scanValue_of_scalar depth (by unfold OpensValue; decide) _).trans rfl
  | flag value =>
    cases printed
    cases value <;> exact (scanValue_of_scalar depth (by unfold OpensValue; decide) _).trans rfl
  | whole value => exact scanValue_whole printed depth ends
  | real value =>
    cases printed
    exact scanValue_real value depth ends
  | .text value =>
    cases printed
    have scanned := scanText_behind_quote value rest
    rw [printText, List.cons_append, List.cons_append, List.append_assoc, List.singleton_append,
      scanValue.eq_def]
    simp only [scanned]
    rfl
  | list items =>
    rw [print] at printed
    split at printed
    · next parts arePrinted =>
      cases printed
      cases depth with
      | zero => exact absurd isShallow (Nat.not_succ_le_zero _)
      | succ depth =>
        exact scanValue_list (areRead_printItems items arePrinted
          (Nat.le_of_succ_le_succ isShallow)) rest
    · cases printed
  | object entries =>
    rw [print] at printed
    split at printed
    · next parts arePrinted =>
      cases printed
      cases depth with
      | zero => exact absurd isShallow (Nat.not_succ_le_zero _)
      | succ depth =>
        exact scanValue_object (areRead_printEntries entries arePrinted
          (Nat.le_of_succ_le_succ isShallow)) rest
    · cases printed

/-- Every printed element of a list is read back. -/
theorem areRead_printItems (items : List Json) {parts : List WideText}
    (printed : printItems items = .ok parts) {depth : Nat}
    (isShallow : itemsNesting items ≤ depth) :
    List.Forall₂ (Reads (scanValue depth)) parts items := by
  match items with
  | [] =>
    cases printed
    exact .nil
  | item :: others =>
    obtain ⟨part, otherParts, rfl, isPart, areOthers⟩ := printItems_cons printed
    rw [itemsNesting, Nat.max_le] at isShallow
    refine .cons ⟨startsValue_print isPart, ?_⟩ (areRead_printItems others areOthers isShallow.2)
    exact fun rest ends => scanValue_print item isPart isShallow.1 ends

/-- Every printed entry of an object is read back. -/
theorem areRead_printEntries (entries : List (WideText × Json)) {parts : List WideText}
    (printed : printEntries entries = .ok parts) {depth : Nat}
    (isShallow : entriesNesting entries ≤ depth) :
    List.Forall₂ (ReadsEntry (scanValue depth)) parts entries := by
  match entries with
  | [] =>
    cases printed
    exact .nil
  | (name, value) :: others =>
    obtain ⟨part, otherParts, rfl, isPart, areOthers⟩ := printEntries_cons printed
    rw [entriesNesting, Nat.max_le] at isShallow
    refine .cons ⟨part, rfl, startsValue_print isPart, ?_⟩
      (areRead_printEntries others areOthers isShallow.2)
    exact fun rest ends => scanValue_print value isPart isShallow.1 ends

end

/-- What is printed is read back, unless brackets are nested deeper than the reader goes. -/
theorem parseWithin_print {limit : Nat} {json : Json} {text : WideText}
    (printed : print json = .ok text) (isShallow : json.nesting ≤ limit) :
    parseWithin limit text = .ok json := by
  have scanned := scanValue_print json printed isShallow endsNumeral_nil
  have unblanked := (startsValue_print printed).skipSpace_append []
  rw [List.append_nil] at scanned unblanked
  rw [parseWithin, unblanked, scanned]
  rfl

end Json
end SealedGateway
