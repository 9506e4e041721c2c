import SealedGateway.Text.Utf8

/-!
# Text that may hold lone surrogates

Escapes in a received descriptor can name a surrogate code point without its partner, and a text
that is handed over can hold one.  Such text has no UTF-8 form.  A wide text is a list of symbols,
each a character or a lone surrogate; its fragments are the bytes of its characters with the lone
surrogates left between them.
-/

namespace SealedGateway

/-- A character, or a surrogate code point that stands alone. -/
inductive Symbol
  | char (value : Char)
  /-- The surrogate code point `0xD800 + offset`. -/
  | surrogate (offset : Fin 0x800)
deriving DecidableEq

namespace Symbol

/-- The code point of a symbol. -/
def code : Symbol → Nat
  | char value => value.toNat
  | surrogate offset => 0xD800 + offset.val

/-- The symbol of a code point. -/
def ofCode? (code : Nat) : Option Symbol :=
  if isSurrogate : 0xD800 ≤ code ∧ code < 0xE000 then
    some (surrogate ⟨code - 0xD800, by omega⟩)
  else if code < 0x110000 then some (char (Char.ofNat code))
  else none

/-- The character that a symbol is, if it is one. -/
def toChar? : Symbol → Option Char
  | char value => some value
  | surrogate _ => none

end Symbol

/-- A byte, or a lone surrogate between bytes. -/
inductive Fragment
  | byte (value : UInt8)
  | surrogate (offset : Fin 0x800)
deriving DecidableEq

/-- The bytes of a character, or a lone surrogate as it is. -/
def Symbol.fragments : Symbol → List Fragment
  | char value => (Utf8.encodeCode value.toNat).map .byte
  | surrogate offset => [.surrogate offset]

/-- Text that may hold lone surrogates. -/
abbrev WideText := List Symbol

namespace WideText

/-- Characters as wide text. -/
def ofChars (chars : List Char) : WideText :=
  chars.map Symbol.char

/-- Ordinary text as wide text. -/
def ofString (text : String) : WideText :=
  ofChars text.toList

instance : Coe String WideText := ⟨ofString⟩

/-- The characters of a wide text without lone surrogates. -/
def toChars? (text : WideText) : Option (List Char) :=
  text.mapM Symbol.toChar?

/-- A wide text without lone surrogates as ordinary text. -/
def toString? (text : WideText) : Option String :=
  text.toChars?.map String.ofList

/-- The UTF-8 form with surrogates written like any code point of three bytes. -/
def encodePassing (text : WideText) : Bytes :=
  text.flatMap fun symbol => Utf8.encodeCode symbol.code

/-- The UTF-8 form of a wide text without lone surrogates. -/
def encode? (text : WideText) : Option Bytes :=
  text.toChars?.map Utf8.encodeChars

/-- The bytes of the characters of a text, with its lone surrogates between them. -/
def fragments (text : WideText) : List Fragment :=
  text.flatMap Symbol.fragments

/-- The text that begins with the characters of some bytes. -/
def behindBytes? (bytes : Bytes) (behind : WideText) : Option WideText :=
  (Utf8.decodeChars? bytes).map fun chars => ofChars chars ++ behind

/-- The bytes in front of the first lone surrogate, and the text from that surrogate on. -/
def splitFragments? : List Fragment → Option (Bytes × WideText)
  | [] => some ([], [])
  | .byte value :: rest =>
    (splitFragments? rest).map fun (bytes, behind) => (value :: bytes, behind)
  | .surrogate offset :: rest =>
    ((splitFragments? rest).bind fun (bytes, behind) => behindBytes? bytes behind).map
      fun text => ([], .surrogate offset :: text)

/-- The text whose fragments are given; between lone surrogates the bytes must be well-formed. -/
def ofFragments? (fragments : List Fragment) : Option WideText :=
  (splitFragments? fragments).bind fun (bytes, behind) => behindBytes? bytes behind

theorem toChars?_ofChars (chars : List Char) : toChars? (ofChars chars) = some chars := by
  induction chars with
  | nil => rfl
  | cons char rest ih =>
    simp only [toChars?, ofChars, List.map_cons, List.mapM_cons] at ih ⊢
    rw [ih]
    rfl

theorem toString?_ofString (text : String) : toString? (ofString text) = some text := by
  simp [toString?, ofString, toChars?_ofChars]

end WideText
end SealedGateway
