import SealedGateway.Json.Encoding
import SealedGateway.Proofs.Text.Utf8

/-!
# Reading UTF-8 documents

A document whose first two characters are ASCII and not zero shows no other encoding than UTF-8, so
its characters are read back from their UTF-8 form.
-/

namespace SealedGateway

namespace Symbol

theorem ofCode?_toNat (char : Char) : ofCode? char.toNat = some (.char char) := by
  have isScalar := Utf8.isScalar_toNat char
  unfold Utf8.IsScalar at isScalar
  rw [ofCode?, dif_neg (by omega), if_pos (by omega), Char.ofNat_toNat]

end Symbol

namespace Json

/-- Whether a byte tells an encoding from UTF-8 by being zero or part of a mark. -/
def isTelling (byte : UInt8) : Bool :=
  byte = 0 || byte = 0xFF || byte = 0xFE || byte = 0xEF

/-- Two bytes at the head that tell nothing are those of a document in UTF-8. -/
theorem detectEncoding_of_not_telling {first second : UInt8} (isPlain : isTelling first = false)
    (isNonzero : second ≠ 0) (rest : Bytes) :
    detectEncoding (first :: second :: rest) = (.utf8, first :: second :: rest) := by
  simp only [isTelling, Bool.or_eq_false_iff, decide_eq_false_iff_not] at isPlain
  obtain ⟨⟨⟨isNoZero, isNoFF⟩, isNoFE⟩, isNoEF⟩ := isPlain
  have guessed : guessEncoding (first :: second :: rest) = .utf8 := by
    match rest with
    | [] => rw [guessEncoding, if_neg isNoZero, if_neg isNonzero]
    | [_] => rfl
    | _ :: _ :: _ => rw [guessEncoding, if_neg isNoZero, if_neg isNonzero]
  unfold detectEncoding
  split
  all_goals simp_all

theorem mapM_id_some (values : List Nat) : (values.map some).mapM id = some values := by
  induction values with
  | nil => rfl
  | cons value rest ih =>
    rw [List.map_cons, List.mapM_cons, ih]
    rfl

theorem mapM_ofCode? (chars : List Char) :
    (chars.map Char.toNat).mapM Symbol.ofCode? = some (WideText.ofChars chars) := by
  induction chars with
  | nil => rfl
  | cons char rest ih =>
    rw [List.map_cons, List.mapM_cons, ih, Symbol.ofCode?_toNat]
    rfl

theorem codes?_encodeChars (chars : List Char) :
    codes? .utf8 (Utf8.encodeChars chars) = some (chars.map Char.toNat) := by
  have read := Utf8.units_encodeChars_append true chars []
  rw [List.append_nil, Utf8.units, List.append_nil] at read
  rw [codes?, read, ← mapM_id_some, List.map_map]
  rfl

/-- The characters of a document in UTF-8 are read back. -/
theorem decodeDocument?_encodeChars {first second : Char} (isPlain : 0 < first.toNat ∧
    first.toNat < 0x80) (isNonzero : 0 < second.toNat ∧ second.toNat < 0x80)
    (rest : List Char) :
    decodeDocument? (Utf8.encodeChars (first :: second :: rest)) =
      some (WideText.ofChars (first :: second :: rest)) := by
  have bytes : Utf8.encodeChars (first :: second :: rest) =
      UInt8.ofNat first.toNat :: UInt8.ofNat second.toNat :: Utf8.encodeChars rest := by
    simp only [Utf8.encodeChars, List.flatMap_cons, Utf8.encodeCode, isPlain.2, isNonzero.2,
      if_true, List.cons_append, List.nil_append]
  have firstIs := Utf8.toNat_ofNat_of_lt first.toNat (by omega)
  have secondIs := Utf8.toNat_ofNat_of_lt second.toNat (by omega)
  have isNotTelling : isTelling (UInt8.ofNat first.toNat) = false := by
    simp only [isTelling, Bool.or_eq_false_iff, decide_eq_false_iff_not, ← UInt8.toNat_inj,
      firstIs]
    refine ⟨⟨⟨?_, ?_⟩, ?_⟩, ?_⟩ <;> simp <;> omega
  have isSecondNonzero : UInt8.ofNat second.toNat ≠ 0 := by
    rw [Ne, ← UInt8.toNat_inj, secondIs]
    simp
    omega
  have detected := detectEncoding_of_not_telling isNotTelling isSecondNonzero
    (Utf8.encodeChars rest)
  rw [← bytes] at detected
  rw [decodeDocument?, detected]
  simp only [codes?_encodeChars, Option.bind_some, mapM_ofCode?]

end Json
end SealedGateway
