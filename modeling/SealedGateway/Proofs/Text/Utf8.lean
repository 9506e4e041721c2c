import SealedGateway.Text.Utf8

/-!
# Reading UTF-8 back

Every scalar value is read back from its form, whatever stands behind it.  Hence the strict reader
gives back any text that has been written, and different texts have different forms.  Conversely
all that the strict reader takes is the form of the text that it gives.
-/

namespace SealedGateway
namespace Utf8

/-- Whether a code point has a form of its own: it is in range and no surrogate. -/
def IsScalar (code : Nat) : Prop :=
  code < 0xD800 ∨ 0xE000 ≤ code ∧ code < 0x110000

theorem isScalar_toNat (char : Char) : IsScalar char.toNat := by
  rcases char.valid with low | ⟨above, high⟩
  · exact Or.inl low
  · exact Or.inr ⟨by exact above, high⟩

theorem toNat_ofNat_of_lt (value : Nat) (isByte : value < 256) :
    (UInt8.ofNat value).toNat = value := by
  rw [UInt8.toNat_ofNat', Nat.mod_eq_of_lt isByte]

@[simp] theorem isWithin_iff {low high : Nat} {byte : UInt8} :
    isWithin low high byte = true ↔ low ≤ byte.toNat ∧ byte.toNat ≤ high := by
  simp [isWithin]

/-- A byte made of six bits continues a form and carries those bits. -/
theorem isContinuation_ofNat {bits : Nat} (isSmall : bits < 0x40) :
    isContinuation (UInt8.ofNat (0x80 + bits)) = true ∧
      payload (UInt8.ofNat (0x80 + bits)) = bits := by
  have value := toNat_ofNat_of_lt (0x80 + bits) (by omega)
  refine ⟨?_, ?_⟩
  · rw [isContinuation, isWithin_iff, value]
    omega
  · unfold payload
    omega

theorem units_cons_of_ascii (surrogates : Bool) {code : Nat} (isAscii : code < 0x80)
    (rest : Bytes) :
    units surrogates (UInt8.ofNat code :: rest) = some code :: units surrogates rest := by
  have first := toNat_ofNat_of_lt code (by omega)
  rw [units.eq_def]
  simp only [first, if_pos isAscii]

theorem units_cons_of_two (surrogates : Bool) (high low : Nat)
    (isHigh : 2 ≤ high ∧ high < 0x20) (isLow : low < 0x40) (rest : Bytes) :
    units surrogates (UInt8.ofNat (0xC0 + high) :: UInt8.ofNat (0x80 + low) :: rest) =
      some (high * 0x40 + low) :: units surrogates rest := by
  have first := toNat_ofNat_of_lt (0xC0 + high) (by omega)
  obtain ⟨continues, carries⟩ := isContinuation_ofNat isLow
  have isFirst : isWithin 0xC2 0xDF (UInt8.ofNat (0xC0 + high)) = true := by
    rw [isWithin_iff, first]
    omega
  rw [units.eq_def]
  simp only [first, isFirst, continues, carries, if_true, Nat.add_sub_cancel_left]
  rw [if_neg (by omega)]

theorem units_cons_of_three (surrogates : Bool) (high middle low : Nat) (isHigh : high < 0x10)
    (isMiddle : middle < 0x40) (isLow : low < 0x40)
    (isScalar : IsScalar (high * 0x1000 + middle * 0x40 + low))
    (isLong : 0x800 ≤ high * 0x1000 + middle * 0x40 + low) (rest : Bytes) :
    units surrogates (UInt8.ofNat (0xE0 + high) :: UInt8.ofNat (0x80 + middle) ::
        UInt8.ofNat (0x80 + low) :: rest) =
      some (high * 0x1000 + middle * 0x40 + low) :: units surrogates rest := by
  have first := toNat_ofNat_of_lt (0xE0 + high) (by omega)
  have second := toNat_ofNat_of_lt (0x80 + middle) (by omega)
  obtain ⟨middleContinues, middleCarries⟩ := isContinuation_ofNat isMiddle
  obtain ⟨lowContinues, lowCarries⟩ := isContinuation_ofNat isLow
  have isNotTwo : isWithin 0xC2 0xDF (UInt8.ofNat (0xE0 + high)) = false := by
    rw [Bool.eq_false_iff, Ne, isWithin_iff, first]
    omega
  have isFirst : isWithin 0xE0 0xEF (UInt8.ofNat (0xE0 + high)) = true := by
    rw [isWithin_iff, first]
    omega
  -- The second byte is the place where long forms and surrogates are told apart.
  have isSecond : isSecondOfThree surrogates (UInt8.ofNat (0xE0 + high))
      (UInt8.ofNat (0x80 + middle)) = true := by
    rw [isSecondOfThree, first]
    split
    · rw [isWithin_iff, second]
      omega
    · split
      · rw [isWithin_iff, second]
        rcases isScalar with isBelow | isAbove <;> omega
      · exact middleContinues
  rw [units.eq_def]
  simp only [first, isNotTwo, isFirst, isSecond, lowContinues, middleCarries, lowCarries, if_true,
    Bool.false_eq_true, if_false, Nat.add_sub_cancel_left]
  rw [if_neg (by omega)]

theorem units_cons_of_four (surrogates : Bool) (high upper middle low : Nat) (isHigh : high < 5)
    (isUpper : upper < 0x40) (isMiddle : middle < 0x40) (isLow : low < 0x40)
    (inRange : high * 0x40000 + upper * 0x1000 + middle * 0x40 + low < 0x110000)
    (isLong : 0x10000 ≤ high * 0x40000 + upper * 0x1000 + middle * 0x40 + low) (rest : Bytes) :
    units surrogates (UInt8.ofNat (0xF0 + high) :: UInt8.ofNat (0x80 + upper) ::
        UInt8.ofNat (0x80 + middle) :: UInt8.ofNat (0x80 + low) :: rest) =
      some (high * 0x40000 + upper * 0x1000 + middle * 0x40 + low) ::
        units surrogates rest := by
  have first := toNat_ofNat_of_lt (0xF0 + high) (by omega)
  have second := toNat_ofNat_of_lt (0x80 + upper) (by omega)
  obtain ⟨upperContinues, upperCarries⟩ := isContinuation_ofNat isUpper
  obtain ⟨middleContinues, middleCarries⟩ := isContinuation_ofNat isMiddle
  obtain ⟨lowContinues, lowCarries⟩ := isContinuation_ofNat isLow
  have isNotTwo : isWithin 0xC2 0xDF (UInt8.ofNat (0xF0 + high)) = false := by
    rw [Bool.eq_false_iff, Ne, isWithin_iff, first]
    omega
  have isNotThree : isWithin 0xE0 0xEF (UInt8.ofNat (0xF0 + high)) = false := by
    rw [Bool.eq_false_iff, Ne, isWithin_iff, first]
    omega
  have isFirst : isWithin 0xF0 0xF4 (UInt8.ofNat (0xF0 + high)) = true := by
    rw [isWithin_iff, first]
    omega
  have isSecond : isSecondOfFour (UInt8.ofNat (0xF0 + high)) (UInt8.ofNat (0x80 + upper)) =
      true := by
    rw [isSecondOfFour, first]
    split
    · rw [isWithin_iff, second]
      omega
    · split
      · rw [isWithin_iff, second]
        omega
      · exact upperContinues
  rw [units.eq_def]
  simp only [first, isNotTwo, isNotThree, isFirst, isSecond, middleContinues, lowContinues,
    upperCarries, middleCarries, lowCarries, if_true, Bool.false_eq_true, if_false,
    Nat.add_sub_cancel_left]
  rw [if_neg (by omega)]

/-- The form of a scalar value is read as that value, and reading goes on behind it. -/
theorem units_encodeCode_append (surrogates : Bool) {code : Nat} (isScalar : IsScalar code)
    (rest : Bytes) :
    units surrogates (encodeCode code ++ rest) = some code :: units surrogates rest := by
  have inRange : code < 0x110000 := by
    rcases isScalar with isBelow | isAbove <;> omega
  unfold encodeCode
  split
  · next isOne => exact units_cons_of_ascii surrogates isOne rest
  split
  · have whole : code / 0x40 * 0x40 + code % 0x40 = code := by omega
    have read := units_cons_of_two surrogates (code / 0x40) (code % 0x40) (by omega) (by omega)
      rest
    rwa [whole] at read
  split
  · have whole : code / 0x1000 * 0x1000 + code / 0x40 % 0x40 * 0x40 + code % 0x40 = code := by
      omega
    have read := units_cons_of_three surrogates (code / 0x1000) (code / 0x40 % 0x40)
      (code % 0x40) (by omega) (by omega) (by omega)
      (by rwa [whole]) (by omega) rest
    rwa [whole] at read
  · have whole : code / 0x40000 * 0x40000 + code / 0x1000 % 0x40 * 0x1000 +
        code / 0x40 % 0x40 * 0x40 + code % 0x40 = code := by
      omega
    have read := units_cons_of_four surrogates (code / 0x40000) (code / 0x1000 % 0x40)
      (code / 0x40 % 0x40) (code % 0x40)
      (by omega) (by omega) (by omega) (by omega) (by omega) (by omega) rest
    rwa [whole] at read

/-- The forms of characters are read as those characters, and reading goes on behind them. -/
theorem units_encodeChars_append (surrogates : Bool) (chars : List Char) (rest : Bytes) :
    units surrogates (encodeChars chars ++ rest) =
      (chars.map fun char => some char.toNat) ++ units surrogates rest := by
  induction chars with
  | nil => rfl
  | cons char chars ih =>
    rw [encodeChars, List.flatMap_cons, List.append_assoc,
      units_encodeCode_append surrogates (isScalar_toNat char)]
    exact congrArg (some char.toNat :: ·) ih

theorem mapM_ofNat_toNat (chars : List Char) :
    (chars.map fun char => some char.toNat).mapM
      (fun unit : Option Nat => unit.map Char.ofNat) = some chars := by
  induction chars with
  | nil => rfl
  | cons char chars ih =>
    rw [List.map_cons, List.mapM_cons, ih, Option.map_some, Char.ofNat_toNat]
    rfl

/-- Text is read back from its form. -/
@[simp] theorem decodeChars?_encodeChars (chars : List Char) :
    decodeChars? (encodeChars chars) = some chars := by
  have read := units_encodeChars_append false chars []
  rw [List.append_nil, units, List.append_nil] at read
  rw [decodeChars?, read, mapM_ofNat_toNat]

theorem encodeChars_injective : Function.Injective encodeChars := by
  intro left right same
  have read := congrArg decodeChars? same
  rw [decodeChars?_encodeChars, decodeChars?_encodeChars] at read
  exact Option.some.inj read

@[simp] theorem decode?_encode (text : String) : decode? (encode text) = some text := by
  rw [decode?, encode, decodeChars?_encodeChars, Option.map_some, String.ofList_toList]

/-- Different texts have different forms. -/
theorem encode_injective : Function.Injective encode := by
  intro left right same
  exact String.toList_inj.mp (encodeChars_injective same)

theorem encodeChars_append (left right : List Char) :
    encodeChars (left ++ right) = encodeChars left ++ encodeChars right :=
  List.flatMap_append

theorem encode_append (left right : String) :
    encode (left ++ right) = encode left ++ encode right := by
  rw [encode, String.toList_append, encodeChars_append]
  rfl

/-! ## What is read -/

/-- A byte is made of its head and the bits behind the head. -/
theorem ofNat_add_sub {byte : UInt8} {head : Nat} (isAbove : head ≤ byte.toNat) :
    UInt8.ofNat (head + (byte.toNat - head)) = byte := by
  rw [Nat.add_sub_cancel' isAbove, UInt8.ofNat_toNat]

theorem payload_lt {byte : UInt8} (continues : isContinuation byte = true) :
    payload byte < 0x40 := by
  rw [isContinuation, isWithin_iff] at continues
  unfold payload
  omega

theorem ofNat_payload {byte : UInt8} (continues : isContinuation byte = true) :
    UInt8.ofNat (0x80 + payload byte) = byte := by
  rw [isContinuation, isWithin_iff] at continues
  exact ofNat_add_sub continues.1

/-- The byte string is the form of the scalar value. -/
structure IsForm (code : Nat) (form : Bytes) : Prop where
  isScalar : IsScalar code
  encodeCode_eq : encodeCode code = form

theorem isForm_one {byte : UInt8} (isAscii : byte.toNat < 0x80) :
    IsForm byte.toNat [byte] := by
  refine ⟨Or.inl (by omega), ?_⟩
  rw [encodeCode, if_pos isAscii, UInt8.ofNat_toNat]

theorem isForm_two {first second : UInt8} (isFirst : isWithin 0xC2 0xDF first = true)
    (continues : isContinuation second = true) :
    IsForm ((first.toNat - 0xC0) * 0x40 + payload second) [first, second] := by
  have isLow := payload_lt continues
  rw [isWithin_iff] at isFirst
  refine ⟨Or.inl (by omega), ?_⟩
  generalize codeIs : (first.toNat - 0xC0) * 0x40 + payload second = code
  have high : code / 0x40 = first.toNat - 0xC0 := by
    omega
  have low : code % 0x40 = payload second := by
    omega
  rw [encodeCode, if_neg (by omega), if_pos (by omega), high, low, ofNat_add_sub (by omega),
    ofNat_payload continues]

/-- The second byte keeps forms of three bytes from being too long or surrogates. -/
theorem range_of_isSecondOfThree {first second : UInt8}
    (isFirst : isWithin 0xE0 0xEF first = true)
    (isSecond : isSecondOfThree false first second = true) :
    isContinuation second = true ∧
      0x20 ≤ (first.toNat - 0xE0) * 0x40 + payload second ∧
      ((first.toNat - 0xE0) * 0x40 + payload second < 0x360 ∨
        0x380 ≤ (first.toNat - 0xE0) * 0x40 + payload second) := by
  rw [isWithin_iff] at isFirst
  unfold payload
  simp only [isSecondOfThree, and_true] at isSecond
  split at isSecond
  · rw [isWithin_iff] at isSecond
    rw [isContinuation, isWithin_iff]
    omega
  split at isSecond
  · rw [isWithin_iff] at isSecond
    rw [isContinuation, isWithin_iff]
    omega
  · rw [isContinuation, isWithin_iff] at isSecond ⊢
    omega

theorem isForm_three {first second third : UInt8} (isFirst : isWithin 0xE0 0xEF first = true)
    (isSecond : isSecondOfThree false first second = true)
    (continues : isContinuation third = true) :
    IsForm ((first.toNat - 0xE0) * 0x1000 + payload second * 0x40 + payload third)
      [first, second, third] := by
  obtain ⟨middleContinues, isLong, isOutside⟩ := range_of_isSecondOfThree isFirst isSecond
  have isMiddle := payload_lt middleContinues
  have isLow := payload_lt continues
  rw [isWithin_iff] at isFirst
  generalize codeIs :
    (first.toNat - 0xE0) * 0x1000 + payload second * 0x40 + payload third = code
  refine ⟨?_, ?_⟩
  · unfold IsScalar
    omega
  have high : code / 0x1000 = first.toNat - 0xE0 := by
    omega
  have middle : code / 0x40 % 0x40 = payload second := by
    omega
  have low : code % 0x40 = payload third := by
    omega
  rw [encodeCode, if_neg (by omega), if_neg (by omega), if_pos (by omega), high, middle, low,
    ofNat_add_sub (by omega), ofNat_payload middleContinues, ofNat_payload continues]

/-- The second byte keeps forms of four bytes from being too long or out of range. -/
theorem range_of_isSecondOfFour {first second : UInt8}
    (isFirst : isWithin 0xF0 0xF4 first = true)
    (isSecond : isSecondOfFour first second = true) :
    isContinuation second = true ∧
      0x10 ≤ (first.toNat - 0xF0) * 0x40 + payload second ∧
      (first.toNat - 0xF0) * 0x40 + payload second < 0x110 := by
  rw [isWithin_iff] at isFirst
  unfold payload
  unfold isSecondOfFour at isSecond
  split at isSecond
  · rw [isWithin_iff] at isSecond
    rw [isContinuation, isWithin_iff]
    omega
  split at isSecond
  · rw [isWithin_iff] at isSecond
    rw [isContinuation, isWithin_iff]
    omega
  · rw [isContinuation, isWithin_iff] at isSecond ⊢
    omega

theorem isForm_four {first second third fourth : UInt8}
    (isFirst : isWithin 0xF0 0xF4 first = true) (isSecond : isSecondOfFour first second = true)
    (thirdContinues : isContinuation third = true)
    (continues : isContinuation fourth = true) :
    IsForm ((first.toNat - 0xF0) * 0x40000 + payload second * 0x1000 + payload third * 0x40 +
      payload fourth) [first, second, third, fourth] := by
  obtain ⟨upperContinues, isLong, isInside⟩ := range_of_isSecondOfFour isFirst isSecond
  have isUpper := payload_lt upperContinues
  have isMiddle := payload_lt thirdContinues
  have isLow := payload_lt continues
  rw [isWithin_iff] at isFirst
  generalize codeIs : (first.toNat - 0xF0) * 0x40000 + payload second * 0x1000 +
    payload third * 0x40 + payload fourth = code
  refine ⟨?_, ?_⟩
  · unfold IsScalar
    omega
  have high : code / 0x40000 = first.toNat - 0xF0 := by
    omega
  have upper : code / 0x1000 % 0x40 = payload second := by
    omega
  have middle : code / 0x40 % 0x40 = payload third := by
    omega
  have low : code % 0x40 = payload fourth := by
    omega
  rw [encodeCode, if_neg (by omega), if_neg (by omega), if_neg (by omega), high, upper, middle,
    low, ofNat_add_sub (by omega), ofNat_payload upperContinues, ofNat_payload thirdContinues,
    ofNat_payload continues]

theorem toNat_ofNat_of_isScalar {code : Nat} (isScalar : IsScalar code) :
    (Char.ofNat code).toNat = code := by
  have isValid : code.isValidChar := by
    rcases isScalar with isBelow | ⟨isAbove, inRange⟩
    · exact Or.inl isBelow
    · exact Or.inr ⟨by omega, inRange⟩
  rw [Char.ofNat, dif_pos isValid]
  rfl

/-- Characters that are read in front of others were written in front of them. -/
theorem encodeChars_of_mapM_cons {code : Nat} {form rest : Bytes} (isForm : IsForm code form)
    {codes : List (Option Nat)}
    (ih : ∀ {chars : List Char},
      codes.mapM (fun unit => unit.map Char.ofNat) = some chars → encodeChars chars = rest)
    {chars : List Char}
    (read : (some code :: codes).mapM (fun unit => unit.map Char.ofNat) = some chars) :
    encodeChars chars = form ++ rest := by
  simp only [List.mapM_cons, Option.map_some, Option.bind_eq_bind, Option.bind_some,
    Option.bind_eq_some_iff, Option.pure_def, Option.some.injEq] at read
  obtain ⟨behind, behindRead, rfl⟩ := read
  rw [encodeChars, List.flatMap_cons, toNat_ofNat_of_isScalar isForm.isScalar,
    isForm.encodeCode_eq]
  exact congrArg (form ++ ·) (ih behindRead)

theorem mapM_none_cons (codes : List (Option Nat)) :
    (none :: codes).mapM (fun unit => unit.map Char.ofNat) = none := by
  rw [List.mapM_cons]
  rfl

/-- Whatever is read was written so: there is no other form of the same text. -/
theorem encodeChars_of_decodeChars? {bytes : Bytes} {chars : List Char}
    (read : decodeChars? bytes = some chars) : encodeChars chars = bytes := by
  unfold decodeChars? at read
  fun_induction units false bytes generalizing chars with
  | case1 =>
    rw [List.mapM_nil] at read
    cases read
    rfl
  | case2 first rest isAscii ih => exact encodeChars_of_mapM_cons (isForm_one isAscii) ih read
  | case4 first isNotAscii isFirst second rest continues ih =>
    exact encodeChars_of_mapM_cons (isForm_two isFirst continues) ih read
  | case8 first isNotAscii isNotTwo isFirst second isSecond third rest continues ih =>
    exact encodeChars_of_mapM_cons (isForm_three isFirst isSecond continues) ih read
  | case14 first isNotAscii isNotTwo isNotThree isFirst second isSecond third thirdContinues fourth
      rest continues ih =>
    exact encodeChars_of_mapM_cons (isForm_four isFirst isSecond thirdContinues continues) ih read
  | _ =>
    -- A part that begins no code point stands in the way.
    rw [mapM_none_cons] at read
    cases read

/-- The strict reader gives a text exactly for the form of that text. -/
theorem decodeChars?_eq_some_iff {bytes : Bytes} {chars : List Char} :
    decodeChars? bytes = some chars ↔ encodeChars chars = bytes := by
  refine ⟨encodeChars_of_decodeChars?, ?_⟩
  rintro rfl
  exact decodeChars?_encodeChars chars

theorem decode?_eq_some_iff {bytes : Bytes} {text : String} :
    decode? bytes = some text ↔ encode text = bytes := by
  refine ⟨?_, ?_⟩
  · intro read
    obtain ⟨chars, charsRead, rfl⟩ := Option.map_eq_some_iff.mp read
    rw [encode, String.toList_ofList, encodeChars_of_decodeChars? charsRead]
  · rintro rfl
    exact decode?_encode text

end Utf8
end SealedGateway
